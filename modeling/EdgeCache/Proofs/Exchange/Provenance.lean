/-
Where answers from the store come from.

- `Journal.Sound`: whatever is stored is the document of the answer that was stored last under its key, until the end of
  the lifetime that was chosen for it. `step_sound`: every step keeps this; `run_sound`: so do steps in a row.
- `Journal.hit_faithful`: an answer from the store is an earlier answer of a backend to a request of the same key, and it
  is fresh.
- `Journal.lookup_hits`, `Journal.store_deposits`: what is stored and live is served, and what fits is stored.
- `Journal.run_ofEvent`: every interleaving of exchanges is one of their steps.
-/
import EdgeCache.Proofs.Exchange.Frame

namespace EdgeCache.Exchange

open EdgeCache.Freshness EdgeCache.Message EdgeCache.Store EdgeCache.Time

variable {Backend : Type} {limits : Limits}

theorem values_marked (h : Header) (outcome : Outcome) (elapsed : Span) :
    (marked h outcome elapsed).values "x-cache" = [outcome.text] := by
  unfold marked
  rw [Header.values_put_of_ne _ _ (by decide), Header.values_put_self]

/-- whoever waited for a backend is told that the response was not in the store -/
theorem values_settle {p : Proxy Backend} {r : Request} (hdoc : Proxy.isForDocument r = true) (clock : Clock)
    (picks : Nat → Pick) (elapsed : Span) (a : Answer) (readings : Nat → Instant) :
    (p.settle clock picks elapsed r a readings).1.header.values "x-cache" = [Outcome.miss.text] := by
  unfold Proxy.settle
  rw [if_pos hdoc]
  unfold Proxy.settleDocument
  cases a.response.body.read? with
  | none => exact values_marked _ _ _
  | some body => exact values_marked _ _ _

/-- what a deposit put into the store: the document in its answer, until the end of its lifetime -/
structure Deposit.Put (d : Deposit) (default : Option Span) (stored : Entry × Option Instant) : Prop where
  yields : d.fetch.Yields d.clock.moment stored.1
  expiry : stored.2 = (stored.1.lifetime? d.clock.moment default).bind d.clock.instant.after?

def Deposit.lifetime? (d : Deposit) (default : Option Span) : Option Span :=
  (Decision.ofHeader d.fetch.answer.response.header.endToEnd d.clock.moment).lifetimeOr default

/-- a response is the answer of a deposit: its status and its whole body, and the fields that reach the other side, with
this proxy added and the length of the body set -/
structure Deposit.Answers (d : Deposit) (request : Request) (elapsed : Span) (body : ByteArray)
    (response : Response) : Prop where
  reached : d.fetch.answer.reached = true
  whole : d.fetch.answer.response.body.read? = some body
  status : response.status = d.fetch.answer.response.status
  header : response.header =
    marked ((d.fetch.answer.response.header.endToEnd.add "via" via).put "content-length" (toString body.size)) .hit
      elapsed
  body : response.body = if request.method = "HEAD" then .empty else .ofOctets body

namespace Journal

variable {j : Journal Backend}

/-- what holds between steps -/
structure Sound (limits : Limits) (j : Journal Backend) : Prop where
  store : ResponseStore.Sound limits j.store
  /-- an answer that has come is for a request that waits -/
  arrived : ∀ n f, j.arrived n = some f → f ∈ j.fetches ∧ j.traffic.pending.lookup n = some f.request
  /-- what was stored was answered before -/
  deposits : ∀ d ∈ j.deposits, d.fetch ∈ j.fetches ∧ d.key = j.keyOf d.fetch.request
  /-- what is stored was put there last -/
  stored : ∀ key stored, j.store.contents key = some stored →
    ∃ d, j.latest? key = some d ∧ d.Put limits.defaultLifetime stored

theorem sound_start {p : Proxy Backend} (h : ResponseStore.new limits = .ok p.store) : Sound limits (start p) := by
  refine ⟨ResponseStore.sound_new h, ?_, ?_, ?_⟩
  · intro n f hf; cases hf
  · intro d hd; cases hd
  · intro key stored hs
    have hempty : (start p).store.contents key = none := congrFun (ResponseStore.contents_new h) key
    rw [hempty] at hs
    cases hs

/-! ## Steps -/

theorem latest?_cons_self (d : Deposit) (deposits : List Deposit) :
    (d :: deposits).find? (·.key = d.key) = some d := by simp

theorem step_lookup (j : Journal Backend) (number : Nat) (clock : Clock) (elapsed : Span) (r : Request) :
    j.step (.lookup number clock elapsed r) =
      ((j.traffic.step (.arrival number clock elapsed r)).1,
        { j with traffic := (j.traffic.step (.arrival number clock elapsed r)).2 }) := rfl

theorem step_store_of_none {number : Nat} (h : j.arrived number = none) (clock : Clock) (picks : Nat → Pick)
    (elapsed : Span) (readings : Nat → Instant) :
    j.step (.store number clock picks elapsed readings) = (.nothing, j) := by
  unfold step
  simp only [h]

theorem step_store_of_some {number : Nat} {f : Fetch} (h : j.arrived number = some f) (clock : Clock)
    (picks : Nat → Pick) (elapsed : Span) (readings : Nat → Instant) :
    j.step (.store number clock picks elapsed readings) =
      ((j.traffic.step (.answer number clock picks elapsed f.answer readings)).1,
        { traffic := (j.traffic.step (.answer number clock picks elapsed f.answer readings)).2
          arrived := Function.update j.arrived number none
          fetches := j.fetches
          deposits := (j.deposit? f clock picks readings).toList ++ j.deposits }) := by
  unfold step
  simp only [h]

theorem run_append (j : Journal Backend) (a b : List Step) : j.run (a ++ b) = (j.run a).run b := List.foldl_append ..

theorem step_ignoreHost (j : Journal Backend) (s : Step) :
    (j.step s).2.traffic.proxy.ignoreHost = j.traffic.proxy.ignoreHost := by
  cases s with
  | lookup number clock elapsed request =>
    rw [step_lookup]
    exact Traffic.step_ignoreHost j.traffic _
  | fetch number answer =>
    show (j.receive number answer).traffic.proxy.ignoreHost = _
    unfold receive
    split
    · rfl
    · rfl
  | store number clock picks elapsed readings =>
    cases harrived : j.arrived number with
    | none => rw [step_store_of_none harrived]
    | some f =>
      rw [step_store_of_some harrived]
      exact Traffic.step_ignoreHost j.traffic _
  | abandon number => rfl
  | sweep now => rfl

theorem run_ignoreHost (j : Journal Backend) (steps : List Step) :
    (j.run steps).traffic.proxy.ignoreHost = j.traffic.proxy.ignoreHost := by
  induction steps generalizing j with
  | nil => rfl
  | cons s steps ih => exact (ih (j.step s).2).trans (step_ignoreHost j s)

theorem step_keyOf (j : Journal Backend) (s : Step) (r : Request) : (j.step s).2.keyOf r = j.keyOf r := by
  unfold keyOf Proxy.keyOf
  rw [step_ignoreHost]

theorem run_keyOf (j : Journal Backend) (steps : List Step) (r : Request) : (j.run steps).keyOf r = j.keyOf r := by
  unfold keyOf Proxy.keyOf
  rw [run_ignoreHost]

/-- while the store loses entries at most, and all else but the waiting requests stays, so does what holds -/
theorem Sound.of_fewer (h : Sound limits j) {t : Traffic Backend} {arrived : Nat → Option Fetch}
    (hstore : ResponseStore.Sound limits t.proxy.store) (hhost : t.proxy.ignoreHost = j.traffic.proxy.ignoreHost)
    (hfewer : ∀ key, t.proxy.store.contents key = j.store.contents key ∨ t.proxy.store.contents key = none)
    (hwaiting : ∀ n f, arrived n = some f → j.arrived n = some f ∧ t.pending.lookup n = j.traffic.pending.lookup n) :
    Sound limits { j with traffic := t, arrived } := by
  refine ⟨hstore, ?_, ?_, ?_⟩
  · intro n f hf
    obtain ⟨hf', hsame⟩ := hwaiting n f hf
    obtain ⟨hfetch, hlookup⟩ := h.arrived n f hf'
    exact ⟨hfetch, hsame.trans hlookup⟩
  · intro d hd
    obtain ⟨hfetch, hkey⟩ := h.deposits d hd
    refine ⟨hfetch, hkey.trans ?_⟩
    unfold keyOf Proxy.keyOf
    rw [hhost]
  · intro key stored hs
    rcases hfewer key with hsame | hnone
    · exact h.stored key stored (hsame.symm.trans hs)
    · have hs' : t.proxy.store.contents key = some stored := hs
      rw [hnone] at hs'
      cases hs'

theorem lookup_sound (h : Sound limits j) (number : Nat) (clock : Clock) (elapsed : Span) (r : Request) :
    Sound limits (j.step (.lookup number clock elapsed r)).2 := by
  rw [step_lookup]
  refine h.of_fewer (Traffic.step_sound h.store _) (Traffic.step_ignoreHost _ _) ?_ ?_
  · intro key
    rw [Traffic.arrival_proxy, Proxy.start_store]
    split_ifs
    · have hget : FlatMap.Allows limits j.store.contents (.get clock.instant (j.keyOf r)) _ _ :=
        ResponseStore.get_allows j.store clock.instant (j.keyOf r)
      rw [show (j.traffic.proxy.store.get clock.instant (j.traffic.proxy.keyOf r)).2.contents = _ from hget.2]
      split_ifs
      · rw [Function.update_apply]
        split_ifs
        · exact Or.inr rfl
        · exact Or.inl rfl
      · exact Or.inl rfl
    · exact Or.inl rfl
  · intro n f hf
    have hlookup := (h.arrived n f hf).2
    exact ⟨hf, (Traffic.lookup_arrival_of_some hlookup number clock elapsed r).trans hlookup.symm⟩

theorem receive_of_waiting {number : Nat} {r : Request} (hlookup : j.traffic.pending.lookup number = some r)
    (hnothing : j.arrived number = none) (answer : Answer) :
    j.receive number answer =
      { j with
        arrived := Function.update j.arrived number (some ⟨r, answer⟩)
        fetches := ⟨r, answer⟩ :: j.fetches } := by
  unfold receive
  rw [hlookup, hnothing]

theorem receive_sound (h : Sound limits j) (number : Nat) (answer : Answer) :
    Sound limits (j.receive number answer) := by
  unfold receive
  split
  · rename_i request hlookup hnone
    refine ⟨h.store, ?_, ?_, h.stored⟩
    · intro n f hf
      have hf' : Function.update j.arrived number (some ⟨request, answer⟩) n = some f := hf
      rw [Function.update_apply] at hf'
      split_ifs at hf' with hn
      · subst hn
        cases hf'
        exact ⟨List.mem_cons_self, hlookup⟩
      · obtain ⟨hfetch, hwaits⟩ := h.arrived n f hf'
        exact ⟨List.mem_cons_of_mem _ hfetch, hwaits⟩
    · intro d hd
      obtain ⟨hfetch, hkey⟩ := h.deposits d hd
      exact ⟨List.mem_cons_of_mem _ hfetch, hkey⟩
  · exact h

/-- a call that is made and answered yes is noted, and no other one -/
theorem deposit?_of_call {f : Fetch} {clock : Clock} {picks : Nat → Pick} {readings : Nat → Instant} {call : Call}
    (hcall : j.traffic.proxy.settleCall? clock picks f.request f.answer readings = some call) :
    j.deposit? f clock picks readings =
      if (call.perform j.store).1.isYes then some ⟨j.keyOf f.request, f, clock⟩ else none := by
  unfold deposit?
  rw [hcall]
  rfl

/-- what is noted is the answer that leads to an entry, under the key of its request -/
theorem deposit?_eq_some {f : Fetch} {clock : Clock} {picks : Nat → Pick} {readings : Nat → Instant} {d : Deposit}
    (h : j.deposit? f clock picks readings = some d) :
    d = ⟨j.keyOf f.request, f, clock⟩ ∧ ∃ entry, f.Yields clock.moment entry := by
  obtain ⟨call, hcall, hd⟩ := Option.bind_eq_some_iff.1 h
  obtain ⟨entry, hyields, -⟩ := Proxy.settleCall?_eq_some hcall
  split_ifs at hd
  cases hd
  exact ⟨rfl, entry, hyields⟩

theorem step_store {number : Nat} {f : Fetch} (harrived : j.arrived number = some f)
    (hlookup : j.traffic.pending.lookup number = some f.request) (clock : Clock) (picks : Nat → Pick) (elapsed : Span)
    (readings : Nat → Instant) :
    j.step (.store number clock picks elapsed readings) =
      (.response number (j.traffic.proxy.settle clock picks elapsed f.request f.answer readings).1,
        { traffic := ⟨(j.traffic.proxy.settle clock picks elapsed f.request f.answer readings).2,
            j.traffic.settled number⟩
          arrived := Function.update j.arrived number none
          fetches := j.fetches
          deposits := (j.deposit? f clock picks readings).toList ++ j.deposits }) := by
  rw [step_store_of_some harrived, Traffic.step_answer hlookup]

/-- what waits for others still waits when an answer is taken -/
theorem waiting_settled {number n : Nat} {f : Fetch} (hf : Function.update j.arrived number none n = some f) :
    j.arrived n = some f ∧ (j.traffic.settled number).lookup n = j.traffic.pending.lookup n := by
  rw [Function.update_apply] at hf
  split_ifs at hf with hn
  exact ⟨hf, Traffic.lookup_settled_of_ne j.traffic hn⟩

/-- storing a document notes what is stored under its key from then on -/
theorem stored_settle (h : Sound limits j) (f : Fetch) (clock : Clock) (picks : Nat → Pick) (elapsed : Span)
    (readings : Nat → Instant) (key : Key) (stored : Entry × Option Instant)
    (hs : (j.traffic.proxy.settle clock picks elapsed f.request f.answer readings).2.store.contents key = some stored) :
    ∃ d, ((j.deposit? f clock picks readings).toList ++ j.deposits).find? (·.key = key) = some d ∧
      d.Put limits.defaultLifetime stored := by
  rw [Proxy.settle_store] at hs
  cases hcall : j.traffic.proxy.settleCall? clock picks f.request f.answer readings with
  | none =>
    rw [hcall] at hs
    have hnothing : j.deposit? f clock picks readings = none := by
      unfold deposit?
      rw [hcall]
      rfl
    rw [hnothing]
    exact h.stored key stored hs
  | some call =>
    obtain ⟨entry, hyields, hkeeps⟩ := Proxy.settleCall?_eq_some hcall
    rw [hcall] at hs
    rw [deposit?_of_call hcall]
    have hunder := ResponseStore.insert_storesUnder h.store (hkeeps.perform _) (hkeeps.rounds _)
    rw [h.store.defaultLifetime] at hunder
    by_cases hkey : key = j.keyOf f.request
    · subst hkey
      have hown := hunder.own
      rw [show (call.perform j.store).2.contents (j.traffic.proxy.keyOf f.request) = some stored from hs] at hown
      cases hyes : (call.perform j.store).1.isYes with
      | true =>
        rw [hyes] at hown
        cases hown
        exact ⟨⟨j.keyOf f.request, f, clock⟩, latest?_cons_self _ _, hyields, rfl⟩
      | false =>
        rw [hyes] at hown
        exact h.stored _ stored hown.symm
    · have hothers := hunder.others key hkey
      rw [show (call.perform j.store).2.contents key = some stored from hs] at hothers
      split_ifs at hothers
      obtain ⟨d, hd, hput⟩ := h.stored key stored hothers.symm
      refine ⟨d, ?_, hput⟩
      cases (call.perform j.store).1.isYes with
      | false => exact hd
      | true =>
        show List.find? _ (⟨j.keyOf f.request, f, clock⟩ :: j.deposits) = some d
        rw [List.find?_cons_of_neg (by simpa using Ne.symm hkey)]
        exact hd

theorem store_sound (h : Sound limits j) (number : Nat) (clock : Clock) (picks : Nat → Pick) (elapsed : Span)
    (readings : Nat → Instant) : Sound limits (j.step (.store number clock picks elapsed readings)).2 := by
  cases harrived : j.arrived number with
  | none =>
    rw [step_store_of_none harrived]
    exact h
  | some f =>
    obtain ⟨hfetch, hlookup⟩ := h.arrived number f harrived
    have hstore := Traffic.step_sound h.store (.answer number clock picks elapsed f.answer readings)
    have hkeyOf := step_keyOf j (.store number clock picks elapsed readings)
    rw [Traffic.step_answer hlookup] at hstore
    rw [step_store harrived hlookup] at hkeyOf ⊢
    refine ⟨hstore, ?_, ?_, stored_settle h f clock picks elapsed readings⟩
    · intro n g hg
      obtain ⟨hg', hsame⟩ := waiting_settled hg
      obtain ⟨hmem, hwaits⟩ := h.arrived n g hg'
      exact ⟨hmem, hsame.trans hwaits⟩
    · intro d hd
      rcases List.mem_append.1 hd with hnew | hold
      · obtain ⟨rfl, -⟩ := deposit?_eq_some (Option.mem_toList.1 hnew)
        exact ⟨hfetch, (hkeyOf f.request).symm⟩
      · obtain ⟨hmem, hkey⟩ := h.deposits d hold
        exact ⟨hmem, hkey.trans (hkeyOf d.fetch.request).symm⟩

/-- every step keeps what holds between steps -/
theorem step_sound (h : Sound limits j) (s : Step) : Sound limits (j.step s).2 := by
  cases s with
  | lookup number clock elapsed r => exact lookup_sound h number clock elapsed r
  | fetch number answer => exact receive_sound h number answer
  | store number clock picks elapsed readings => exact store_sound h number clock picks elapsed readings
  | abandon number => exact h.of_fewer h.store rfl (fun _ => Or.inl rfl) fun n f hf => waiting_settled hf
  | sweep now =>
    have hstore : ResponseStore.Sound limits (j.store.sweep now).2 := ResponseStore.perform_sound h.store (.sweep now)
    refine h.of_fewer hstore rfl ?_ fun n f hf => ⟨hf, rfl⟩
    intro key
    have hsweep := ResponseStore.contents_sweep h.store.shaped now key
    split_ifs at hsweep
    · exact Or.inr hsweep
    · exact Or.inl hsweep

theorem run_sound (h : Sound limits j) (steps : List Step) : Sound limits (j.run steps) := by
  induction steps generalizing j with
  | nil => exact h
  | cons s steps ih => exact ih (step_sound h s)

theorem Reachable.sound (h : Reachable limits j) : Sound limits j := by
  obtain ⟨p, steps, hnew, rfl⟩ := h
  exact run_sound (sound_start hnew) steps

/-! ## What is served -/

/-- **What is stored and not expired is served.** -/
theorem lookup_hits {r : Request} (hdoc : Proxy.isForDocument r = true) {stored : Entry × Option Instant}
    (hstored : j.store.contents (j.keyOf r) = some stored) {clock : Clock}
    (hlive : isExpired clock.instant stored = false) (number : Nat) (elapsed : Span) :
    j.Hits (.lookup number clock elapsed r) r
      { stored.1.toResponse (r.method == "HEAD") with header := marked stored.1.header .hit elapsed } := by
  have hget : (j.traffic.proxy.store.get clock.instant (j.traffic.proxy.keyOf r)).1 = some stored.1 :=
    (ResponseStore.get_of_live hstored hlive).1
  refine ⟨rfl, hdoc, ⟨number, ?_⟩, ?_⟩
  · rw [step_lookup, Traffic.step_arrival, Proxy.start_of_found hdoc hget]
  · show Outcome.hit.text ∈ (marked stored.1.header .hit elapsed).values "x-cache"
    rw [values_marked]
    exact List.mem_singleton_self _

/-- **What fits is stored.** An answer that leads to an entry is stored under the key of its request if there is room. -/
theorem store_deposits (h : Sound limits j) {number : Nat} {f : Fetch} (harrived : j.arrived number = some f)
    {clock : Clock} {entry : Entry} (hyields : f.Yields clock.moment entry)
    (hfits : j.store.Fits (j.keyOf f.request) entry) (picks : Nat → Pick) (elapsed : Span)
    (readings : Nat → Instant) :
    (j.step (.store number clock picks elapsed readings)).2.store.contents =
      Function.update j.store.contents (j.keyOf f.request)
        (some (entry, (entry.lifetime? clock.moment limits.defaultLifetime).bind clock.instant.after?)) ∧
    (j.step (.store number clock picks elapsed readings)).2.deposits =
      ⟨j.keyOf f.request, f, clock⟩ :: j.deposits := by
  obtain ⟨-, hlookup⟩ := h.arrived number f harrived
  obtain ⟨call, hcall, hkeeps⟩ := Proxy.settleCall?_of_yields j.traffic.proxy picks readings hyields
  have hroom := ResponseStore.insert_of_fits h.store hfits clock.instant readings picks
    (entry.lifetime? clock.moment j.store.defaultLifetime)
  have hperform := hkeeps.perform j.store
  rw [step_store harrived hlookup]
  constructor
  · show (j.traffic.proxy.settle clock picks elapsed f.request f.answer readings).2.store.contents = _
    rw [Proxy.settle_store, hcall, ← h.store.defaultLifetime]
    show (call.perform j.store).2.contents = _
    rw [hperform]
    exact hroom.2
  · have hyes : (call.perform j.store).1.isYes = true := by
      rw [hperform]
      exact hroom.1
    rw [deposit?_of_call hcall, hyes]
    rfl

/-- an answer that leads to no entry is handed on, and the store stays as it is -/
theorem store_of_not_yields (hs : Sound limits j) {number : Nat} {f : Fetch} (harrived : j.arrived number = some f)
    {clock : Clock} (hnot : ∀ entry, ¬f.Yields clock.moment entry) (picks : Nat → Pick) (elapsed : Span)
    (readings : Nat → Instant) :
    (j.step (.store number clock picks elapsed readings)).2.store = j.store := by
  rw [step_store harrived (hs.arrived number f harrived).2]
  show (j.traffic.proxy.settle clock picks elapsed f.request f.answer readings).2.store = j.store
  rw [Proxy.settle_store]
  cases hcall : j.traffic.proxy.settleCall? clock picks f.request f.answer readings with
  | none => rfl
  | some call =>
    obtain ⟨entry, hyields, -⟩ := Proxy.settleCall?_eq_some hcall
    exact absurd hyields (hnot entry)

theorem lookup_waits {r : Request} (hdoc : Proxy.isForDocument r = true) (habsent : j.store.contents (j.keyOf r) = none)
    {number : Nat} (hunused : j.traffic.pending.lookup number = none) (clock : Clock) (elapsed : Span) :
    (j.step (.lookup number clock elapsed r)).2.traffic.pending.lookup number = some r := by
  have hget : (j.store.get clock.instant (j.keyOf r)).1 = none := by rw [ResponseStore.get_of_absent habsent]
  show (j.traffic.step (.arrival number clock elapsed r)).2.pending.lookup number = some r
  rw [Traffic.lookup_arrival_of_none hunused, Proxy.start_of_absent hdoc hget]

/-- **An exchange on its own.** If its key is not stored and its answer leads to an entry for which there is room, that
entry is stored under the key, and nothing else changes. -/
theorem exchange_deposits (h : Sound limits j) {r : Request} {a : Answer} {later : Clock} {entry : Entry}
    (hyields : Fetch.Yields ⟨r, a⟩ later.moment entry) (habsent : j.store.contents (j.keyOf r) = none)
    (hfits : j.store.Fits (j.keyOf r) entry) {number : Nat} (hunused : j.traffic.pending.lookup number = none)
    (hnothing : j.arrived number = none) (clock : Clock) (elapsed : Span) (picks : Nat → Pick) (taken : Span)
    (readings : Nat → Instant) :
    (j.run (exchange number clock elapsed r a later picks taken readings)).store.contents =
      Function.update j.store.contents (j.keyOf r)
        (some (entry, (entry.lifetime? later.moment limits.defaultLifetime).bind later.instant.after?)) ∧
    (j.run (exchange number clock elapsed r a later picks taken readings)).deposits =
      ⟨j.keyOf r, ⟨r, a⟩, later⟩ :: j.deposits := by
  have hdoc : Proxy.isForDocument r = true := hyields.forDocument
  -- after the lookup the request waits
  let looked := (j.step (.lookup number clock elapsed r)).2
  have hlooked : Sound limits looked := step_sound h _
  have hstore : looked.store = j.store.touch (j.keyOf r) :=
    Traffic.arrival_store_of_absent j.traffic number clock elapsed hdoc habsent
  have hwaits : looked.traffic.pending.lookup number = some r := lookup_waits hdoc habsent hunused clock elapsed
  have hkey : looked.keyOf r = j.keyOf r := step_keyOf j _ r
  -- then its answer has come
  have hanswered := receive_of_waiting hwaits (show looked.arrived number = none from hnothing) a
  have hcame : (looked.receive number a).arrived number = some ⟨r, a⟩ := by
    rw [hanswered]
    exact Function.update_self ..
  have hroom : (looked.receive number a).store.Fits ((looked.receive number a).keyOf r) entry := by
    rw [hanswered]
    show looked.store.Fits (looked.keyOf r) entry
    rw [hstore, hkey]
    exact hfits.touch _
  obtain ⟨hcontents, hdeposits⟩ :=
    store_deposits (receive_sound hlooked number a) hcame hyields hroom picks taken readings
  rw [hanswered] at hcontents hdeposits
  constructor
  · show ((looked.receive number a).step (.store number later picks taken readings)).2.store.contents = _
    rw [hanswered, hcontents]
    show Function.update looked.store.contents (looked.keyOf r) _ = _
    rw [hstore, hkey]
    rfl
  · show ((looked.receive number a).step (.store number later picks taken readings)).2.deposits = _
    rw [hanswered, hdeposits]
    show ⟨looked.keyOf r, ⟨r, a⟩, later⟩ :: looked.deposits = _
    rw [hkey]
    rfl

end Journal

/-! ## A small run -/

namespace Sample

open Journal

/-- a request for the document was answered, and the answer was taken -/
def visited (r : Request) (header : Header) : Journal Unit :=
  (start idle).run (exchange 0 now ⟨0⟩ r (said 200 header) now picks ⟨0⟩ fun _ => ⟨0⟩)

/-- that answer from the store -/
def replayed (header : Header) (headerOnly : Bool) : Response :=
  { (Proxy.document (said 200 header) .empty).toResponse headerOnly with
    header := marked (Proxy.document (said 200 header) .empty).header .hit ⟨0⟩ }

def askedHead : Request := { asked with method := "HEAD" }

theorem visited_hits {r q : Request} (hdoc : Proxy.isForDocument r = true) (hdocq : Proxy.isForDocument q = true)
    (hkey : idle.keyOf q = idle.keyOf r) {header : Header}
    (hnothing : Decision.ofHeader header.endToEnd now.moment = .unspecified) :
    (visited r header).Reachable ⟨2, 8, none⟩ ∧
    (visited r header).Hits (.lookup 1 now ⟨0⟩ q) q (replayed header (q.method == "HEAD")) ∧
    (visited r header).latest? ((visited r header).keyOf q) = some ⟨idle.keyOf r, ⟨r, said 200 header⟩, now⟩ := by
  have hyields : Fetch.Yields ⟨r, said 200 header⟩ now.moment _ :=
    yields hdoc (by decide) (by rw [hnothing]; decide)
  have hroom : idle.store.Fits (idle.keyOf r) (Proxy.document (said 200 header) .empty) :=
    ResponseStore.fits_new new_idle _ (Nat.zero_le 8)
  have hunused : (start idle).traffic.pending.lookup 0 = none := rfl
  have hwaiting : (start idle).arrived 0 = none := rfl
  obtain ⟨hcontents, hdeposits⟩ := exchange_deposits (sound_start new_idle) hyields (idle_contents _) hroom
    hunused hwaiting now ⟨0⟩ picks ⟨0⟩ fun _ => ⟨0⟩
  have hkeyOf : (visited r header).keyOf q = idle.keyOf r := (run_keyOf (start idle) _ q).trans hkey
  have hlife : (Proxy.document (said 200 header) .empty).lifetime? now.moment none = none := by
    unfold Entry.lifetime?
    rw [Proxy.ofHeader_document]
    show (Decision.ofHeader header.endToEnd now.moment).lifetimeOr none = none
    rw [hnothing]
    rfl
  have hstored : (visited r header).store.contents ((visited r header).keyOf q) =
      some (Proxy.document (said 200 header) .empty, none) := by
    rw [hkeyOf, show (visited r header).store.contents = _ from hcontents, hlife]
    exact Function.update_self ..
  refine ⟨⟨idle, _, new_idle, rfl⟩, ?_, ?_⟩
  · exact lookup_hits hdocq hstored rfl 1 ⟨0⟩
  · rw [hkeyOf]
    unfold latest?
    rw [show (visited r header).deposits = _ from hdeposits]
    exact latest?_cons_self ⟨idle.keyOf r, _, _⟩ _

end Sample

namespace Journal

variable {j : Journal Backend}

/-! ## Answers from the store -/

/-- only a lookup answers from the store, with an entry that it found -/
theorem Hits.found (hs : Sound limits j) {s : Step} {r : Request} {response : Response} (h : j.Hits s r response) :
    ∃ number clock elapsed entry, s = .lookup number clock elapsed r ∧
      (j.store.get clock.instant (j.keyOf r)).1 = some entry ∧
      response = { entry.toResponse (r.method == "HEAD") with header := marked entry.header .hit elapsed } := by
  obtain ⟨habout, hdoc, ⟨number, hanswered⟩, hsaid⟩ := h
  cases s with
  | lookup n clock elapsed request =>
    obtain rfl : request = r := Option.some.inj habout
    rw [step_lookup, Traffic.step_arrival] at hanswered
    cases hget : (j.store.get clock.instant (j.keyOf request)).1 with
    | none =>
      rw [Proxy.start_of_absent hdoc hget] at hanswered
      cases hanswered
    | some entry =>
      rw [Proxy.start_of_found hdoc hget] at hanswered
      cases hanswered
      exact ⟨number, clock, elapsed, entry, rfl, hget, rfl⟩
  | fetch n answer => cases habout
  | store n clock picks elapsed readings =>
    obtain ⟨f, harrived, rfl⟩ := Option.map_eq_some_iff.1 habout
    rw [step_store harrived (hs.arrived n f harrived).2] at hanswered
    cases hanswered
    rw [values_settle hdoc] at hsaid
    exact absurd hsaid (by decide)
  | abandon n => cases habout
  | sweep now => cases habout

/-- a found entry is what was put there last, and its lifetime is not over -/
theorem source_of_found (hs : Sound limits j) {now : Instant} {key : Key} {entry : Entry}
    (hget : (j.store.get now key).1 = some entry) :
    ∃ d expiry, j.latest? key = some d ∧ d.Put limits.defaultLifetime (entry, expiry) ∧
      isExpired now (entry, expiry) = false := by
  have hfound : FlatMap.Allows limits j.store.contents (.get now key) _ _ := ResponseStore.get_allows j.store now key
  have hserved : some entry = FlatMap.served j.store.contents now key := by
    rw [← hget]
    exact Reply.found.inj hfound.1
  obtain ⟨stored, hstored, hlive⟩ := Option.bind_eq_some_iff.1 hserved.symm
  split_ifs at hlive with hx
  cases hlive
  obtain ⟨d, hd, hput⟩ := hs.stored key stored hstored
  exact ⟨d, stored.2, hd, hput, Bool.not_eq_true _ ▸ hx⟩

theorem mem_of_latest? {key : Key} {d : Deposit} (h : j.latest? key = some d) : d ∈ j.deposits ∧ d.key = key :=
  ⟨List.mem_of_find?_eq_some h, by simpa using List.find?_some h⟩

/-- what is not expired is younger than its lifetime, at any reading that a clock can show -/
theorem lt_of_not_expired {start now : Instant} {entry : Entry} {lifetime : Span}
    (hlive : isExpired now (entry, start.after? lifetime) = false) (hnow : now.nanos < Instant.limit) :
    now.nanos < start.nanos + lifetime.nanos := by
  unfold isExpired Instant.after? at hlive
  split_ifs at hlive with hlimit
  · simp only [Option.any_some, decide_eq_false_iff_not] at hlive
    exact Nat.lt_of_not_le hlive
  · omega

/-- a document from the store is the answer of what was stored last, which is not expired -/
theorem Hits.source (hs : Sound limits j) {s : Step} {r : Request} {response : Response} (h : j.Hits s r response) :
    ∃ number clock elapsed d body, s = .lookup number clock elapsed r ∧ j.latest? (j.keyOf r) = some d ∧
      d.Answers r elapsed body response ∧ d.fetch.Yields d.clock.moment (Proxy.document d.fetch.answer body) ∧
      isExpired clock.instant (Proxy.document d.fetch.answer body,
        (d.lifetime? limits.defaultLifetime).bind d.clock.instant.after?) = false := by
  obtain ⟨number, clock, elapsed, entry, rfl, hget, rfl⟩ := h.found hs
  obtain ⟨d, expiry, hd, hput, hlive⟩ := source_of_found hs hget
  have hyields : d.fetch.Yields d.clock.moment entry := hput.yields
  obtain ⟨body, hbody, rfl⟩ := hyields.whole
  have hlifetime : (Proxy.document d.fetch.answer body).lifetime? d.clock.moment limits.defaultLifetime =
      d.lifetime? limits.defaultLifetime := by
    unfold Entry.lifetime? Deposit.lifetime?
    rw [Proxy.ofHeader_document]
  have hexpiry : expiry = (d.lifetime? limits.defaultLifetime).bind d.clock.instant.after? :=
    hlifetime ▸ hput.expiry
  refine ⟨number, clock, elapsed, d, body, rfl, hd, ⟨hyields.reached, hbody, rfl, rfl, ?_⟩, hyields, hexpiry ▸ hlive⟩
  show (if (r.method == "HEAD") = true then Body.empty else .ofOctets body) = _
  simp only [beq_iff_eq]

/-- **Answers from the store are faithful and fresh.** Whatever backends answer and however lookups, answers, storing and
sweeps of any number of exchanges follow each other, a document that the client is told was in the store is the latest
one that was stored under the key of the request. A backend answered it earlier, to a request of the same key, and was
reached; the response has its status, its whole body unless only the header was asked for, and its fields without those
of the connection, with this proxy added and the length of the body set. And the clock has not come to the end of the
lifetime that was chosen when it was stored. -/
theorem hit_faithful (h : Reachable limits j) {s : Step} {r : Request} {response : Response}
    (hhit : j.Hits s r response) :
    ∃ number clock elapsed d body, s = .lookup number clock elapsed r ∧
      j.latest? (j.keyOf r) = some d ∧ d.fetch ∈ j.fetches ∧ j.keyOf d.fetch.request = j.keyOf r ∧
      d.Answers r elapsed body response ∧
      ∀ lifetime, d.lifetime? limits.defaultLifetime = some lifetime → clock.instant.nanos < Instant.limit →
        clock.instant.nanos < d.clock.instant.nanos + lifetime.nanos := by
  have hs := h.sound
  obtain ⟨number, clock, elapsed, d, body, rfl, hd, hanswers, -, hlive⟩ := hhit.source hs
  obtain ⟨hmem, hkey⟩ := mem_of_latest? hd
  obtain ⟨hfetch, hkeyOf⟩ := hs.deposits d hmem
  refine ⟨number, clock, elapsed, d, body, rfl, hd, hfetch, hkeyOf.symm.trans hkey, hanswers, ?_⟩
  intro lifetime hlifetime hnow
  rw [hlifetime] at hlive
  exact lt_of_not_expired hlive hnow

theorem hit_faithful_head :
    (Sample.visited Sample.asked []).Reachable ⟨2, 8, none⟩ ∧
    (Sample.visited Sample.asked []).Hits (.lookup 1 Sample.now ⟨0⟩ Sample.askedHead) Sample.askedHead
      (Sample.replayed [] true) ∧
    ∃ number clock elapsed d body, Step.lookup 1 Sample.now ⟨0⟩ Sample.askedHead =
        .lookup number clock elapsed Sample.askedHead ∧
      (Sample.visited Sample.asked []).latest? ((Sample.visited Sample.asked []).keyOf Sample.askedHead) = some d ∧
      d.fetch ∈ (Sample.visited Sample.asked []).fetches ∧
      (Sample.visited Sample.asked []).keyOf d.fetch.request =
        (Sample.visited Sample.asked []).keyOf Sample.askedHead ∧
      d.Answers Sample.askedHead elapsed body (Sample.replayed [] true) ∧
      ∀ lifetime, d.lifetime? none = some lifetime → clock.instant.nanos < Instant.limit →
        clock.instant.nanos < d.clock.instant.nanos + lifetime.nanos := by
  obtain ⟨hreachable, hhits, -⟩ := Sample.visited_hits (r := Sample.asked) (q := Sample.askedHead) rfl rfl
    (Proxy.keyOf_method Sample.idle Sample.asked "HEAD") Sample.says_nothing
  exact ⟨hreachable, hhits, hit_faithful hreachable hhits⟩

/-! ## Interleavings -/

/-- **Every interleaving of exchanges is one of their steps.** -/
theorem run_ofEvent (hnothing : ∀ n, j.arrived n = none) (events : List Event) :
    (j.run (events.flatMap Step.ofEvent)).traffic = (j.traffic.run events).2 := by
  induction events generalizing j with
  | nil => rfl
  | cons e events ih =>
    -- the steps of one event do what it does, and no answer is left over
    suffices hone : (j.run (Step.ofEvent e)).traffic = (j.traffic.step e).2 ∧
        ∀ n, (j.run (Step.ofEvent e)).arrived n = none by
      rw [List.flatMap_cons, show j.run (Step.ofEvent e ++ events.flatMap Step.ofEvent) =
        (j.run (Step.ofEvent e)).run (events.flatMap Step.ofEvent) from List.foldl_append .., ih hone.2, hone.1]
      rfl
    cases e with
    | arrival number clock elapsed r => exact ⟨rfl, hnothing⟩
    | answer number clock picks elapsed a readings =>
      show ((j.receive number a).step (.store number clock picks elapsed readings)).2.traffic = _ ∧
        ∀ n, ((j.receive number a).step (.store number clock picks elapsed readings)).2.arrived n = none
      cases hlookup : j.traffic.pending.lookup number with
      | none =>
        have hsame : j.receive number a = j := by
          unfold receive
          rw [hlookup]
        rw [hsame, step_store_of_none (hnothing number), Traffic.step_answer_none hlookup]
        exact ⟨rfl, hnothing⟩
      | some r =>
        rw [receive_of_waiting hlookup (hnothing number), step_store_of_some (Function.update_self ..)]
        refine ⟨rfl, ?_⟩
        intro n
        show Function.update (Function.update j.arrived number _) number none n = none
        rw [Function.update_idem, Function.update_apply, hnothing n]
        split_ifs <;> rfl
    | abandonment number =>
      refine ⟨rfl, ?_⟩
      intro n
      show Function.update j.arrived number none n = none
      rw [Function.update_apply, hnothing n]
      split_ifs <;> rfl

end Journal

end EdgeCache.Exchange
