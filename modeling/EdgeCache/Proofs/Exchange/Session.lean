/-
Sessions without pressure: the store then answers exactly what earlier answers allow it to.

- `Mirrors`: what is stored and may still be served is what earlier visits left. `Mirrors.wane`: losing what is expired
  keeps this; `Mirrors.put`: so does storing an answer under its key.
- `serve_exact`, `session_exact`: what holds between visits is kept by a visit, and so by a session.
- `Journal.exact_without_pressure`: while all documents fit, nothing is refused, nothing is evicted, and a backend is asked
  exactly when no earlier answer may still be served.
-/
import EdgeCache.Exchange.Visit
import EdgeCache.Proofs.Exchange.Provenance
import EdgeCache.Proofs.Store.Census

namespace EdgeCache.Exchange

open EdgeCache.Freshness EdgeCache.Message EdgeCache.Store EdgeCache.Time

variable {Backend : Type} {limits : Limits} {default : Option Span} {keyOf : Request → Key} {keys : Finset Key}
  {bound : Key → Nat} {past : List Visit} {seen : List Instant}

/-- what a visit fetched may be served at an instant: it led to an entry, whose lifetime has no end or is not over -/
structure Visit.Serves (v : Visit) (default : Option Span) (now : Instant) : Prop where
  yields : ∃ entry, v.fetch.Yields v.later.moment entry
  lasts : ∀ lifetime, (Decision.ofHeader v.answer.response.header.endToEnd v.later.moment).lifetimeOr default =
    some lifetime → now.nanos < v.later.instant.nanos + lifetime.nanos

/-- what may be served at an instant might have been served earlier -/
theorem Visit.Serves.earlier {v : Visit} {t now : Instant} (h : v.Serves default now) (ht : t.nanos ≤ now.nanos) :
    v.Serves default t :=
  ⟨h.yields, fun lifetime hlife => Nat.lt_of_le_of_lt ht (h.lasts lifetime hlife)⟩

theorem Fetch.Yields.cost_eq {f : Fetch} {now : Moment} {entry : Entry} (h : f.Yields now entry) : entry.cost = f.size := by
  obtain ⟨body, hbody, rfl⟩ := h.whole
  unfold Fetch.size
  rw [if_pos h.forDocument, hbody]
  rfl

/-! ## What is expired

An instant is late if the clock showed no later one so far. -/

/-- a reading that does not come before earlier ones -/
def Late (seen : List Instant) (now : Instant) : Prop := (∀ t ∈ seen, t.nanos ≤ now.nanos) ∧ now.nanos < Instant.limit

theorem late_append {a b : List Instant} {now : Instant} : Late (a ++ b) now ↔ Late a now ∧ Late b now := by
  unfold Late
  constructor
  · rintro ⟨h, hnow⟩
    exact ⟨⟨fun t ht => h t (List.mem_append_left _ ht), hnow⟩, fun t ht => h t (List.mem_append_right _ ht), hnow⟩
  · rintro ⟨⟨ha, hnow⟩, hb, -⟩
    exact ⟨fun t ht => (List.mem_append.1 ht).elim (ha t) (hb t), hnow⟩

/-- nothing is lost but what is expired -/
def Wanes (t : Instant) (m m' : FlatMap) : Prop :=
  ∀ key, m' key = m key ∨ (m' key = none ∧ (m key).any (isExpired t) = true)

/-- losing what is expired changes nothing for what is served from then on -/
theorem Wanes.served {t now : Instant} {m m' : FlatMap} (h : Wanes t m m') (ht : t.nanos ≤ now.nanos) (key : Key) :
    m'.served now key = m.served now key := by
  unfold FlatMap.served
  rcases h key with hsame | ⟨hnone, hexpired⟩
  · rw [hsame]
  · obtain ⟨stored, hstored, hx⟩ := (Option.any_eq_true _ _).1 hexpired
    rw [hnone, hstored, Option.bind_none, Option.bind_some, if_pos (isExpired_later ht hx)]

theorem wanes_sweep {s : ResponseStore} (hs : s.Shaped) (t : Instant) : Wanes t s.contents (s.sweep t).2.contents := by
  intro key
  have hsweep := ResponseStore.contents_sweep hs t key
  split_ifs at hsweep with hx
  · exact Or.inr ⟨hsweep, hx⟩
  · exact Or.inl hsweep

theorem wanes_get (s : ResponseStore) (t : Instant) (key : Key) : Wanes t s.contents (s.get t key).2.contents := by
  intro k
  -- the limits play no part in a lookup
  have hget : FlatMap.Allows ⟨0, 0, none⟩ s.contents (.get t key) _ _ := ResponseStore.get_allows s t key
  rw [hget.2]
  split_ifs with hx
  · rw [Function.update_apply]
    split_ifs with hk
    · exact Or.inr ⟨rfl, hk ▸ hx⟩
    · exact Or.inl rfl
  · exact Or.inl rfl

/-! ## What is stored -/

/-- what is stored is under these keys and within these bounds, and what of it may still be served is exactly what past
visits fetched -/
structure Mirrors (default : Option Span) (keyOf : Request → Key) (keys : Finset Key) (bound : Key → Nat)
    (past : List Visit) (seen : List Instant) (m : FlatMap) : Prop where
  listed : ∀ key stored, m key = some stored → key ∈ keys
  bounded : ∀ key stored, m key = some stored → stored.1.cost ≤ bound key
  served : ∀ key now, Late seen now →
    ((m.served now key).isSome = true ↔ ∃ u ∈ past, keyOf u.request = key ∧ u.Serves default now)

theorem mirrors_empty : Mirrors default keyOf keys bound [] [] FlatMap.empty := by
  refine ⟨?_, ?_, ?_⟩
  · intro key stored hs; cases hs
  · intro key stored hs; cases hs
  · intro key now _
    constructor
    · intro h; cases h
    · rintro ⟨u, hu, -⟩; cases hu

variable {m m' : FlatMap}

/-- losing what is expired keeps the mirror -/
theorem Mirrors.wane (h : Mirrors default keyOf keys bound past seen m) {t : Instant} (hw : Wanes t m m') :
    Mirrors default keyOf keys bound past (seen ++ [t]) m' := by
  have hkept : ∀ key stored, m' key = some stored → m key = some stored := by
    intro key stored hs
    rcases hw key with hsame | ⟨hnone, -⟩
    · exact hsame ▸ hs
    · rw [hnone] at hs; cases hs
  refine ⟨fun key stored hs => h.listed key stored (hkept key stored hs),
    fun key stored hs => h.bounded key stored (hkept key stored hs), ?_⟩
  intro key now hlate
  obtain ⟨hseen, ht⟩ := late_append.1 hlate
  rw [hw.served (ht.1 t (List.mem_singleton_self t)) key]
  exact h.served key now hseen

/-- a visit that leaves nothing behind keeps the mirror -/
theorem Mirrors.pass (h : Mirrors default keyOf keys bound past seen m) {v : Visit}
    (hv : ∀ entry, ¬v.fetch.Yields v.later.moment entry) (t : Instant) :
    Mirrors default keyOf keys bound (past ++ [v]) (seen ++ [t]) m := by
  refine ⟨h.listed, h.bounded, ?_⟩
  intro key now hlate
  rw [h.served key now (late_append.1 hlate).1]
  constructor
  · rintro ⟨u, hu, hserves⟩
    exact ⟨u, List.mem_append_left _ hu, hserves⟩
  · rintro ⟨u, hu, hkey, hserves⟩
    rcases List.mem_append.1 hu with hu | hu
    · exact ⟨u, hu, hkey, hserves⟩
    · obtain rfl := List.mem_singleton.1 hu
      obtain ⟨entry, hyields⟩ := hserves.yields
      exact absurd hyields (hv entry)

theorem Visit.serves_iff {v : Visit} {entry : Entry} (hyields : v.fetch.Yields v.later.moment entry)
    (default : Option Span) {now : Instant} (hnow : now.nanos < Instant.limit) :
    isExpired now (entry, (entry.lifetime? v.later.moment default).bind v.later.instant.after?) = false ↔
      v.Serves default now := by
  obtain ⟨body, -, rfl⟩ := hyields.whole
  have hlife : (Proxy.document v.fetch.answer body).lifetime? v.later.moment default =
      (Decision.ofHeader v.answer.response.header.endToEnd v.later.moment).lifetimeOr default := by
    unfold Entry.lifetime?
    rw [Proxy.ofHeader_document]
    rfl
  rw [hlife]
  constructor
  · intro hlive
    refine ⟨⟨_, hyields⟩, ?_⟩
    intro lifetime hlifetime
    rw [hlifetime] at hlive
    exact Journal.lt_of_not_expired hlive hnow
  · intro hserves
    cases hlifetime : (Decision.ofHeader v.answer.response.header.endToEnd v.later.moment).lifetimeOr default with
    | none => rfl
    | some lifetime =>
      have hlt := hserves.lasts lifetime hlifetime
      unfold isExpired Instant.after?
      rw [Option.bind_some]
      split_ifs
      · exact decide_eq_false (Nat.not_le.2 hlt)
      · rfl

/-- storing what a visit fetched keeps the mirror, if nothing of its key could be served any more -/
theorem Mirrors.put (h : Mirrors default keyOf keys bound past seen m) {v : Visit} {entry : Entry}
    (hyields : v.fetch.Yields v.later.moment entry) (hkey : keyOf v.request ∈ keys)
    (hbound : entry.cost ≤ bound (keyOf v.request)) {t : Instant} (ht : t ∈ seen)
    (hover : ∀ u ∈ past, keyOf u.request = keyOf v.request → ¬u.Serves default t) (t' : Instant) :
    Mirrors default keyOf keys bound (past ++ [v]) (seen ++ [t'])
      (Function.update m (keyOf v.request)
        (some (entry, (entry.lifetime? v.later.moment default).bind v.later.instant.after?))) := by
  refine ⟨?_, ?_, ?_⟩
  · intro key stored hs
    rw [Function.update_apply] at hs
    split_ifs at hs with hk
    · exact hk ▸ hkey
    · exact h.listed key stored hs
  · intro key stored hs
    rw [Function.update_apply] at hs
    split_ifs at hs with hk
    · cases hs
      exact hk ▸ hbound
    · exact h.bounded key stored hs
  · intro key now hlate
    have hseen := (late_append.1 hlate).1
    by_cases hk : key = keyOf v.request
    · -- of this key, only the new version can be served
      subst hk
      unfold FlatMap.served
      rw [Function.update_self, Option.bind_some]
      have hnew := Visit.serves_iff hyields default hlate.2
      constructor
      · intro hsome
        split_ifs at hsome with hx
        · cases hsome
        · exact ⟨v, List.mem_append_right _ (List.mem_singleton_self v), rfl, hnew.1 (Bool.not_eq_true _ ▸ hx)⟩
      · rintro ⟨u, hu, hsame, hserves⟩
        rcases List.mem_append.1 hu with hu | hu
        · exact absurd (hserves.earlier (hseen.1 t ht)) (hover u hu hsame)
        · obtain rfl := List.mem_singleton.1 hu
          rw [hnew.2 hserves]
          rfl
    · unfold FlatMap.served
      rw [Function.update_of_ne hk]
      refine (h.served key now hseen).trans ?_
      constructor
      · rintro ⟨u, hu, hserves⟩
        exact ⟨u, List.mem_append_left _ hu, hserves⟩
      · rintro ⟨u, hu, hsame, hserves⟩
        rcases List.mem_append.1 hu with hu | hu
        · exact ⟨u, hu, hsame, hserves⟩
        · obtain rfl := List.mem_singleton.1 hu
          exact absurd hsame.symm hk

namespace Journal

variable {j : Journal Backend} {v : Visit}

/-! ## The stages of a visit -/

theorem serve_eq_run (j : Journal Backend) (v : Visit) : j.serve v = j.run v.steps := by
  unfold Visit.steps
  rw [run_append]
  show _ = ((j.looked v).run (v.meanwhile.map .sweep ++ [.fetch 0 v.answer, v.store]))
  rw [run_append]
  rfl

/-- **A session is a run**, of the steps of its visits. -/
theorem session_eq_run (j : Journal Backend) (visits : List Visit) :
    j.session visits = j.run (visits.flatMap Visit.steps) := by
  induction visits generalizing j with
  | nil => rfl
  | cons v visits ih =>
    rw [List.flatMap_cons, run_append, ← serve_eq_run]
    exact ih (j.serve v)

theorem session_keyOf (j : Journal Backend) (visits : List Visit) (r : Request) :
    (j.session visits).keyOf r = j.keyOf r := by
  rw [session_eq_run]
  exact run_keyOf j _ r

theorem run_sweeps (j : Journal Backend) (ts : List Instant) :
    j.run (ts.map .sweep) = { j with traffic.proxy.store := ts.foldl (fun s t => (s.sweep t).2) j.store } := by
  induction ts generalizing j with
  | nil => rfl
  | cons t ts ih => exact ih (j.step (.sweep t)).2

theorem asks_iff (hdoc : Proxy.isForDocument v.request = true) :
    j.asks v = true ↔
      (FlatMap.served (j.entered v).store.contents v.clock.instant (j.keyOf v.request)).isSome = false := by
  have hkey : (j.entered v).keyOf v.request = j.keyOf v.request := run_keyOf j _ _
  have hget : FlatMap.Allows ⟨0, 0, none⟩ (j.entered v).store.contents (.get v.clock.instant _) _ _ :=
    ResponseStore.get_allows (j.entered v).store v.clock.instant ((j.entered v).keyOf v.request)
  have hfound := Reply.found.inj hget.1
  rw [← hkey, ← hfound]
  show ((j.entered v).step (.lookup 0 v.clock v.elapsed v.request)).1.isQuestion = true ↔ _
  rw [step_lookup, Traffic.step_arrival]
  cases hg : ((j.entered v).store.get v.clock.instant ((j.entered v).keyOf v.request)).1 with
  | none =>
    rw [Proxy.start_of_absent hdoc hg]
    exact ⟨fun _ => rfl, fun _ => rfl⟩
  | some entry =>
    rw [Proxy.start_of_found hdoc hg]
    constructor
    · intro h; cases h
    · intro h; cases h

/-- no request waits, and no answer -/
structure Idle (j : Journal Backend) : Prop where
  pending : ∀ n, j.traffic.pending.lookup n = none
  arrived : ∀ n, j.arrived n = none

/-- after the lookup the request waits if its backend is asked, and no other one does -/
theorem looked_pending (h : Idle j) (v : Visit) (n : Nat) :
    (j.looked v).traffic.pending.lookup n = if n = 0 ∧ j.asks v = true then some v.request else none := by
  have hpending : ∀ n, (j.entered v).traffic.pending.lookup n = none := by
    intro n
    unfold entered
    rw [run_sweeps]
    exact h.pending n
  unfold looked asks Visit.lookup
  rw [step_lookup, Traffic.step_arrival]
  cases ((j.entered v).traffic.proxy.start v.clock v.elapsed v.request).1 with
  | answered response =>
    rw [if_neg fun h => by cases h.2]
    exact hpending n
  | asking question =>
    show ((j.entered v).traffic.pending ++ [(0, v.request)]).lookup n = _
    rw [List.lookup_append, hpending n, Option.none_or]
    by_cases hn : n = 0
    · rw [if_pos ⟨hn, rfl⟩, Directory.lookup_of_eq hn]
    · rw [if_neg fun h => hn h.1, Directory.lookup_of_ne hn]
      rfl

theorem waited_eq (j : Journal Backend) (v : Visit) :
    (j.waited v).traffic.pending = (j.looked v).traffic.pending ∧ (j.waited v).arrived = j.arrived := by
  unfold waited
  rw [run_sweeps]
  refine ⟨rfl, ?_⟩
  show (j.entered v).arrived = j.arrived
  unfold entered
  rw [run_sweeps]

theorem answered_arrived (h : Idle j) (v : Visit) (n : Nat) :
    (j.answered v).arrived n = if n = 0 ∧ j.asks v = true then some v.fetch else none := by
  obtain ⟨hpending, harrived⟩ := waited_eq j v
  have hnothing : ∀ n, (j.waited v).arrived n = none := by
    intro n
    rw [harrived]
    exact h.arrived n
  have hwaits := looked_pending h v 0
  rw [← hpending] at hwaits
  show ((j.waited v).receive 0 v.answer).arrived n = _
  cases hasks : j.asks v with
  | false =>
    rw [if_neg fun h => by rw [hasks] at h; cases h.2] at hwaits
    unfold receive
    rw [hwaits, if_neg fun h => by cases h.2]
    exact hnothing n
  | true =>
    rw [if_pos ⟨rfl, hasks⟩] at hwaits
    rw [receive_of_waiting hwaits (hnothing 0)]
    show Function.update (j.waited v).arrived 0 (some v.fetch) n = _
    rw [Function.update_apply]
    by_cases hn : n = 0
    · rw [if_pos hn, if_pos ⟨hn, rfl⟩]
    · rw [if_neg hn, if_neg fun h => hn h.1]
      exact hnothing n

theorem store_receive (j : Journal Backend) (number : Nat) (answer : Answer) :
    (j.receive number answer).store = j.store := by
  unfold receive
  split
  · rfl
  · rfl

theorem wanes_lookup (j : Journal Backend) (v : Visit) :
    Wanes v.clock.instant j.store.contents (j.step v.lookup).2.store.contents := by
  unfold Visit.lookup
  rw [step_lookup]
  show Wanes _ _ (j.traffic.step _).2.proxy.store.contents
  rw [Traffic.arrival_proxy, Proxy.start_store]
  split_ifs
  · exact wanes_get j.store v.clock.instant (j.keyOf v.request)
  · exact fun key => Or.inl rfl

theorem mirrors_sweeps (hs : Sound limits j) (h : Mirrors default keyOf keys bound past seen j.store.contents)
    (ts : List Instant) :
    Mirrors default keyOf keys bound past (seen ++ ts) (j.run (ts.map .sweep)).store.contents := by
  induction ts generalizing j seen with
  | nil =>
    rw [List.append_nil]
    exact h
  | cons t ts ih =>
    rw [List.append_cons]
    exact ih (step_sound hs (.sweep t)) (h.wane (wanes_sweep hs.store.shaped t))

/-! ## What holds between visits -/

/-- what holds after visits `past` in which the backend was asked, when the clock showed `seen` -/
structure Exact (limits : Limits) (keys : Finset Key) (bound : Key → Nat) (past : List Visit) (seen : List Instant)
    (j : Journal Backend) : Prop where
  sound : Sound limits j
  idle : Idle j
  mirrors : Mirrors limits.defaultLifetime j.keyOf keys bound past seen j.store.contents

/-- the keys are no more than the objects allowed, and their bounds no more than the cost allowed -/
structure Ample (limits : Limits) (keys : Finset Key) (bound : Key → Nat) : Prop where
  objects : keys.card ≤ limits.maxObjects
  cost : ∑ key ∈ keys, bound key ≤ limits.maxCost

/-- a visit keeps to the keys and bounds, and its clock goes forward -/
structure Regular (keys : Finset Key) (bound : Key → Nat) (seen : List Instant) (j : Journal Backend)
    (v : Visit) : Prop where
  key : Proxy.isForDocument v.request = true → j.keyOf v.request ∈ keys
  size : j.asks v = true → v.fetch.size ≤ bound (j.keyOf v.request)
  forward : (seen ++ v.instants).Pairwise fun t u => t.nanos ≤ u.nanos
  shown : ∀ t ∈ v.instants, t.nanos < Instant.limit

theorem Regular.late (h : Regular keys bound seen j v) : Late (seen ++ v.before) v.clock.instant := by
  have hforward := h.forward
  unfold Visit.instants at hforward
  rw [← List.append_assoc, List.pairwise_append] at hforward
  refine ⟨fun t ht => hforward.2.2 t ht _ List.mem_cons_self, h.shown _ ?_⟩
  exact List.mem_append_right _ List.mem_cons_self

/-- **When a backend is asked.** For a document, exactly when nothing that past visits fetched for its key may still be
served. -/
theorem Exact.asks_iff (h : Exact limits keys bound past seen j) (hv : Regular keys bound seen j v)
    (hdoc : Proxy.isForDocument v.request = true) :
    j.asks v = true ↔ ¬∃ u ∈ past, j.keyOf u.request = j.keyOf v.request ∧
      u.Serves limits.defaultLifetime v.clock.instant := by
  have hentered := mirrors_sweeps h.sound h.mirrors v.before
  rw [Journal.asks_iff hdoc, ← hentered.served (j.keyOf v.request) v.clock.instant hv.late, Bool.not_eq_true]
  rfl

/-- the mirror when the answer is about to be taken -/
theorem Exact.answered (h : Exact limits keys bound past seen j) (v : Visit) :
    Mirrors limits.defaultLifetime j.keyOf keys bound past (seen ++ v.before ++ [v.clock.instant] ++ v.meanwhile)
      (j.answered v).store.contents := by
  have hentered : Sound limits (j.entered v) := run_sound h.sound _
  have hlooked : Sound limits (j.looked v) := step_sound hentered _
  have hmirrors := (mirrors_sweeps h.sound h.mirrors v.before).wane (wanes_lookup (j.entered v) v)
  have hwaited := mirrors_sweeps (j := j.looked v) hlooked hmirrors v.meanwhile
  show Mirrors _ _ _ _ _ _ ((j.waited v).receive 0 v.answer).store.contents
  rw [store_receive]
  exact hwaited

theorem Exact.answered_sound (h : Exact limits keys bound past seen j) (v : Visit) : Sound limits (j.answered v) :=
  step_sound (run_sound (step_sound (run_sound h.sound _) _) _) _

theorem answered_keyOf (j : Journal Backend) (v : Visit) (r : Request) : (j.answered v).keyOf r = j.keyOf r := by
  unfold Journal.answered waited looked entered
  rw [step_keyOf, run_keyOf, step_keyOf, run_keyOf]

/-- **There is room** for whatever a visit fetched. -/
theorem Exact.fits (h : Exact limits keys bound past seen j) (hample : Ample limits keys bound)
    (hv : Regular keys bound seen j v) (hasks : j.asks v = true) {entry : Entry}
    (hyields : v.fetch.Yields v.later.moment entry) : (j.answered v).store.Fits (j.keyOf v.request) entry := by
  have hmirrors := h.answered v
  have hcost : entry.cost ≤ bound (j.keyOf v.request) := hyields.cost_eq.trans_le (hv.size hasks)
  exact ResponseStore.fits_of_listed (h.answered_sound v).store hmirrors.listed hample.objects hmirrors.bounded
    hample.cost (hv.key hyields.forDocument) hcost

/-- **Nothing is refused, and nothing is evicted.** -/
theorem Exact.unhindered (h : Exact limits keys bound past seen j) (hample : Ample limits keys bound)
    (hv : Regular keys bound seen j v) {call : Call} (hcall : j.call? v = some call) :
    (call.perform (j.answered v).store).1.isYes = true ∧
    call.victims (j.answered v).store (j.keyOf v.request) = [] := by
  obtain ⟨f, harrived, hsettle⟩ := Option.bind_eq_some_iff.1 hcall
  rw [answered_arrived h.idle] at harrived
  split_ifs at harrived with hasks
  cases harrived
  obtain ⟨entry, hyields, hkeeps⟩ := Proxy.settleCall?_eq_some hsettle
  have hkey : (j.answered v).traffic.proxy.keyOf v.fetch.request = j.keyOf v.request := answered_keyOf j v _
  rw [hkey] at hkeeps
  have hfits := h.fits hample hv hasks.2 hyields
  have hsound := (h.answered_sound v).store
  constructor
  · rw [hkeeps.perform]
    exact (ResponseStore.insert_of_fits hsound hfits _ _ _ _).1
  · unfold Call.victims
    rw [hkeeps.rounds, ResponseStore.insertRounds_of_fits hsound hfits]
    rfl

/-! ## Visits -/

theorem serve_idle (h : Idle j) (v : Visit) : Idle (j.serve v) := by
  have hpending : ∀ n, (j.answered v).traffic.pending.lookup n =
      if n = 0 ∧ j.asks v = true then some v.request else none := by
    intro n
    rw [← looked_pending h v n, ← (waited_eq j v).1]
    show ((j.waited v).receive 0 v.answer).traffic.pending.lookup n = _
    unfold receive
    split
    · rfl
    · rfl
  have harrived := answered_arrived h v
  unfold serve Visit.store
  cases hasks : j.asks v with
  | false =>
    rw [hasks] at hpending harrived
    rw [step_store_of_none (by rw [harrived, if_neg fun h => by cases h.2])]
    refine ⟨fun n => ?_, fun n => ?_⟩
    · rw [hpending, if_neg fun h => by cases h.2]
    · rw [harrived, if_neg fun h => by cases h.2]
  | true =>
    rw [hasks] at hpending harrived
    have hcame : (j.answered v).arrived 0 = some v.fetch := by rw [harrived, if_pos ⟨rfl, rfl⟩]
    have hwaits : (j.answered v).traffic.pending.lookup 0 = some v.fetch.request := by
      rw [hpending, if_pos ⟨rfl, rfl⟩]
      rfl
    rw [step_store hcame hwaits]
    refine ⟨fun n => ?_, fun n => ?_⟩
    · show ((j.answered v).traffic.settled 0).lookup n = none
      by_cases hn : n = 0
      · subst hn
        exact Directory.lookup_filter_self 0 _
      · rw [Traffic.lookup_settled_of_ne _ hn, hpending, if_neg fun h => hn h.1]
    · show Function.update (j.answered v).arrived 0 none n = none
      rw [Function.update_apply, harrived]
      by_cases hn : n = 0
      · rw [if_pos hn]
      · rw [if_neg hn, if_neg fun h => hn h.1]

/-- the mirror after a visit in which the backend was not asked -/
theorem Exact.serve_quiet (h : Exact limits keys bound past seen j) (hasks : j.asks v = false) :
    Mirrors limits.defaultLifetime j.keyOf keys bound past (seen ++ v.instants) (j.serve v).store.contents := by
  have harrived : (j.answered v).arrived 0 = none := by
    rw [answered_arrived h.idle, if_neg fun h => by rw [hasks] at h; cases h.2]
  have hmirrors := (h.answered v).wane (t := v.later.instant) fun key => Or.inl rfl
  unfold serve Visit.store
  rw [step_store_of_none harrived]
  simpa [Visit.instants] using hmirrors

/-- the mirror after a visit in which the backend was asked -/
theorem Exact.serve_asked (h : Exact limits keys bound past seen j) (hample : Ample limits keys bound)
    (hv : Regular keys bound seen j v) (hasks : j.asks v = true) :
    Mirrors limits.defaultLifetime j.keyOf keys bound (past ++ [v]) (seen ++ v.instants)
      (j.serve v).store.contents := by
  have hmirrors := h.answered v
  have hsound := h.answered_sound v
  have hcame : (j.answered v).arrived 0 = some v.fetch := by rw [answered_arrived h.idle, if_pos ⟨rfl, hasks⟩]
  have hseen : seen ++ v.instants =
      seen ++ v.before ++ [v.clock.instant] ++ v.meanwhile ++ [v.later.instant] := by simp [Visit.instants]
  rw [hseen]
  unfold serve Visit.store
  by_cases hyields : ∃ entry, v.fetch.Yields v.later.moment entry
  · obtain ⟨entry, hyields⟩ := hyields
    -- nothing that is stored under the key could be served, or the backend would not have been asked
    have hover := (h.asks_iff hv hyields.forDocument).1 hasks
    have hroom : (j.answered v).store.Fits ((j.answered v).keyOf v.fetch.request) entry := by
      rw [answered_keyOf]
      exact h.fits hample hv hasks hyields
    obtain ⟨hcontents, -⟩ := store_deposits hsound hcame hyields hroom v.picks v.taken v.readings
    rw [hcontents, answered_keyOf]
    have hcost : entry.cost ≤ bound (j.keyOf v.request) := hyields.cost_eq.trans_le (hv.size hasks)
    refine hmirrors.put hyields (hv.key hyields.forDocument) hcost (t := v.clock.instant) (by simp) ?_ v.later.instant
    intro u hu hkey hserves
    exact hover ⟨u, hu, hkey, hserves⟩
  · have hnot : ∀ entry, ¬v.fetch.Yields v.later.moment entry := fun entry hy => hyields ⟨entry, hy⟩
    rw [store_of_not_yields hsound hcame hnot]
    exact hmirrors.pass hnot v.later.instant

/-- **One visit** keeps what holds between visits. -/
theorem serve_exact (h : Exact limits keys bound past seen j) (hample : Ample limits keys bound)
    (hv : Regular keys bound seen j v) :
    Exact limits keys bound (past ++ if j.asks v then [v] else []) (seen ++ v.instants) (j.serve v) := by
  have hkeyOf : (j.serve v).keyOf = j.keyOf := by
    funext r
    rw [serve_eq_run]
    exact run_keyOf j _ r
  refine ⟨step_sound (h.answered_sound v) _, serve_idle h.idle v, ?_⟩
  rw [hkeyOf]
  cases hasks : j.asks v with
  | false =>
    rw [if_neg Bool.false_ne_true, List.append_nil]
    exact h.serve_quiet hasks
  | true => exact h.serve_asked hample hv hasks

/-! ## Sessions -/

/-- the visits of a session keep to the keys and bounds, and the clock goes forward -/
structure Orderly (keys : Finset Key) (bound : Key → Nat) (seen : List Instant) (j : Journal Backend)
    (visits : List Visit) : Prop where
  keys : ∀ v ∈ visits, Proxy.isForDocument v.request = true → j.keyOf v.request ∈ keys
  sizes : ∀ v ∈ j.fetching visits, v.fetch.size ≤ bound (j.keyOf v.request)
  forward : (seen ++ visits.flatMap Visit.instants).Pairwise fun t u => t.nanos ≤ u.nanos
  shown : ∀ t ∈ visits.flatMap Visit.instants, t.nanos < Instant.limit

theorem fetching_cons (j : Journal Backend) (v : Visit) (visits : List Visit) :
    j.fetching (v :: visits) = (if j.asks v then [v] else []) ++ (j.serve v).fetching visits := by
  show (if j.asks v then v :: (j.serve v).fetching visits else (j.serve v).fetching visits) = _
  cases j.asks v with
  | false => rfl
  | true => rfl

theorem fetching_subset (j : Journal Backend) (visits : List Visit) : j.fetching visits ⊆ visits := by
  induction visits generalizing j with
  | nil => exact List.Subset.refl []
  | cons v visits ih =>
    intro u hu
    rw [fetching_cons] at hu
    rcases List.mem_append.1 hu with hu | hu
    · split_ifs at hu
      · exact List.mem_singleton.1 hu ▸ List.mem_cons_self
      · cases hu
    · exact List.mem_cons_of_mem v (ih _ hu)

theorem Orderly.head {visits : List Visit} (h : Orderly keys bound seen j (v :: visits)) :
    Regular keys bound seen j v := by
  obtain ⟨hkeys, hsizes, hforward, hshown⟩ := h
  rw [List.flatMap_cons] at hforward hshown
  rw [← List.append_assoc] at hforward
  refine ⟨hkeys v List.mem_cons_self, ?_, (List.pairwise_append.1 hforward).1,
    fun t ht => hshown t (List.mem_append_left _ ht)⟩
  intro hasks
  refine hsizes v ?_
  rw [fetching_cons, if_pos hasks]
  exact List.mem_append_left _ (List.mem_singleton_self v)

theorem Orderly.tail {visits : List Visit} (h : Orderly keys bound seen j (v :: visits)) :
    Orderly keys bound (seen ++ v.instants) (j.serve v) visits := by
  obtain ⟨hkeys, hsizes, hforward, hshown⟩ := h
  have hkeyOf : ∀ r, (j.serve v).keyOf r = j.keyOf r := session_keyOf j [v]
  rw [List.flatMap_cons] at hforward hshown
  refine ⟨?_, ?_, ?_, fun t ht => hshown t (List.mem_append_right _ ht)⟩
  · intro u hu hdoc
    rw [hkeyOf]
    exact hkeys u (List.mem_cons_of_mem v hu) hdoc
  · intro u hu
    rw [hkeyOf]
    refine hsizes u ?_
    rw [fetching_cons]
    exact List.mem_append_right _ hu
  · rw [List.append_assoc]
    exact hforward

/-- **A session** keeps what holds between visits, up to any visit of it. -/
theorem session_exact (h : Exact limits keys bound past seen j) (hample : Ample limits keys bound)
    {earlier after : List Visit} (ho : Orderly keys bound seen j (earlier ++ v :: after)) :
    ∃ seen', Exact limits keys bound (past ++ j.fetching earlier) seen' (j.session earlier) ∧
      Regular keys bound seen' (j.session earlier) v := by
  induction earlier generalizing j past seen with
  | nil =>
    refine ⟨seen, ?_, ho.head⟩
    show Exact limits keys bound (past ++ []) seen j
    rw [List.append_nil]
    exact h
  | cons u earlier ih =>
    rw [fetching_cons, ← List.append_assoc]
    exact ih (serve_exact h hample ho.head) ho.tail

theorem start_exact {p : Proxy Backend} (h : ResponseStore.new limits = .ok p.store) :
    Exact limits keys bound [] [] (start p) := by
  refine ⟨sound_start h, ⟨fun n => rfl, fun n => rfl⟩, ?_⟩
  show Mirrors _ _ _ _ _ _ p.store.contents
  rw [ResponseStore.contents_new h]
  exact mirrors_empty

theorem size_le_largest {visits : List Visit} {u : Visit} (hu : u ∈ j.fetching visits) :
    u.fetch.size ≤ j.largest visits (j.keyOf u.request) := by
  refine List.le_max?_getD_of_mem ?_
  refine List.mem_map.2 ⟨u, List.mem_filter.2 ⟨hu, ?_⟩, rfl⟩
  exact decide_eq_true rfl

theorem largest_le {visits : List Visit} {n : Nat} (h : ∀ u ∈ visits, u.fetch.size ≤ n) (key : Key) :
    j.largest visits key ≤ n := by
  unfold largest
  cases hmax : (((j.fetching visits).filter (j.keyOf ·.request = key)).map (·.fetch.size)).max? with
  | none => exact Nat.zero_le n
  | some m =>
    obtain ⟨u, hu, rfl⟩ := List.mem_map.1 (List.max?_mem hmax)
    exact h u (fetching_subset j visits (List.mem_filter.1 hu).1)

/-- the visits of a session keep to the keys of its documents and to the largest document of each -/
theorem orderly_start {p : Proxy Backend} {visits : List Visit} (h : Timely visits) :
    Orderly (documentKeys p visits) ((start p).largest visits) [] (start p) visits := by
  refine ⟨?_, fun u hu => size_le_largest hu, h.forward, h.shown⟩
  intro u hu hdoc
  refine List.mem_toFinset.2 (List.mem_map.2 ⟨u, List.mem_filter.2 ⟨hu, hdoc⟩, rfl⟩)

end Journal

namespace Sample

/-- a request for the document, which is two octets long if a backend is asked -/
def visit : Visit where
  request := asked
  before := []
  clock := now
  elapsed := ⟨0⟩
  answer := { said 200 [] with response.body := .ofText "ok" }
  meanwhile := []
  later := now
  picks := picks
  taken := ⟨0⟩
  readings := fun _ => ⟨0⟩

theorem visit_size : ∀ u ∈ [visit, visit], u.fetch.size ≤ 2 := by
  have hsize : visit.fetch.size ≤ 2 := by decide +kernel
  simpa using hsize

end Sample

namespace Journal

variable {j : Journal Backend} {v : Visit}

/-- **Without pressure the store is exact.** Take visits to a proxy with an empty store, one after the other, while the
clock goes forward: any requests, answers, sweeps and readings. Say that the documents that are asked for have no more
keys than the objects allowed, and that the largest documents that are fetched for each of them have no more octets
together than the cost allowed. Then no call of a visit is refused, and none evicts anything; and for a document the
backend is asked exactly when no earlier visit to its key, in which the backend was asked, led to an entry whose lifetime
has no end or is not over yet. -/
theorem exact_without_pressure {p : Proxy Backend} (hnew : ResponseStore.new limits = .ok p.store)
    {visits : List Visit} (htimely : Timely visits)
    (hobjects : (documentKeys p visits).card ≤ limits.maxObjects)
    (hcost : ∑ key ∈ documentKeys p visits, (start p).largest visits key ≤ limits.maxCost) :
    ∀ earlier v after, visits = earlier ++ v :: after →
      (∀ call, ((start p).session earlier).call? v = some call →
        (call.perform (((start p).session earlier).answered v).store).1.isYes = true ∧
        call.victims (((start p).session earlier).answered v).store (p.keyOf v.request) = []) ∧
      (Proxy.isForDocument v.request = true →
        (((start p).session earlier).asks v = true ↔
          ¬∃ u ∈ (start p).fetching earlier, p.keyOf u.request = p.keyOf v.request ∧
            u.Serves limits.defaultLifetime v.clock.instant)) := by
  rintro earlier v after rfl
  have hample : Ample limits (documentKeys p (earlier ++ v :: after)) ((start p).largest (earlier ++ v :: after)) :=
    ⟨hobjects, hcost⟩
  obtain ⟨seen, hexact, hregular⟩ := session_exact (start_exact hnew) hample (orderly_start htimely)
  have hkeyOf : ∀ r, ((start p).session earlier).keyOf r = p.keyOf r := session_keyOf (start p) earlier
  constructor
  · intro call hcall
    have hfree := hexact.unhindered hample hregular hcall
    rw [hkeyOf] at hfree
    exact hfree
  · intro hdoc
    have hasks := hexact.asks_iff hregular hdoc
    simp only [hkeyOf, List.nil_append] at hasks
    exact hasks

open Sample in
theorem exact_without_pressure_twice :
    ResponseStore.new ⟨2, 8, none⟩ = .ok idle.store ∧ Timely [visit, visit] ∧
    (documentKeys idle [visit, visit]).card ≤ 2 ∧
    ∑ key ∈ documentKeys idle [visit, visit], (start idle).largest [visit, visit] key ≤ 8 ∧
    (start idle).asks visit = true ∧ ((start idle).session [visit]).asks visit = false := by
  have htimely : Timely [visit, visit] := ⟨by decide, by decide⟩
  have hobjects : (documentKeys idle [visit, visit]).card ≤ 2 := List.toFinset_card_le _
  have hcost : ∑ key ∈ documentKeys idle [visit, visit], (start idle).largest [visit, visit] key ≤ 8 := by
    have hlargest : ∀ key ∈ documentKeys idle [visit, visit], (start idle).largest [visit, visit] key ≤ 2 :=
      fun key _ => largest_le visit_size key
    calc ∑ key ∈ documentKeys idle [visit, visit], (start idle).largest [visit, visit] key
      _ ≤ (documentKeys idle [visit, visit]).card * 2 := Finset.sum_le_card_nsmul _ _ 2 hlargest
      _ ≤ 2 * 2 := Nat.mul_le_mul_right 2 hobjects
      _ ≤ 8 := by decide
  have hexact := exact_without_pressure new_idle htimely hobjects hcost
  -- nothing was fetched before the first visit
  have hfirst : (start idle).asks visit = true := by
    refine ((hexact [] visit [visit] rfl).2 rfl).2 ?_
    rintro ⟨u, hu, -⟩
    cases hu
  -- the first visit fetched what the second one asks for, and that is kept for good
  have hserves : visit.Serves none now.instant := by
    have hallowed : Decision.ofHeader (Header.endToEnd []) now.moment ≠ .forbidden := by rw [says_nothing]; decide
    refine ⟨⟨_, rfl, rfl, ⟨_, rfl, rfl⟩, by decide, hallowed⟩, ?_⟩
    intro lifetime hlifetime
    have hnone : (Decision.ofHeader (Header.endToEnd []) now.moment).lifetimeOr none = none := by rw [says_nothing]; rfl
    cases hnone.symm.trans hlifetime
  have hsecond : ¬((start idle).session [visit]).asks visit = true := by
    intro hasks
    refine ((hexact [visit] visit [] rfl).2 rfl).1 hasks ⟨visit, ?_, rfl, hserves⟩
    rw [fetching_cons, if_pos hfirst]
    exact List.mem_cons_self
  exact ⟨new_idle, htimely, hobjects, hcost, hfirst, Bool.not_eq_true _ ▸ hsecond⟩

end Journal

end EdgeCache.Exchange
