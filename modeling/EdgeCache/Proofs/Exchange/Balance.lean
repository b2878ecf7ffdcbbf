/-
Totals and what they count.

- `Journal.lookup_arrives`, `Journal.step_handover`: what a request that arrives counts, and an answer that is handed on.
- `Journal.load`: exchanges under way, weighed by the answers that have come for them.
- `Journal.Apart`: exchanges under way have numbers of their own, and an answer that has come is for one that waits.
- `Journal.Totals`: the totals, with the questions, the responses from the store and the answers so far. `step_totals`:
  every step of an exchange that nobody leaves keeps this; `run_totals`: so do steps in a row.
- `Journal.counters_balance`: in a run in which every exchange comes to its end, the totals are those of the requests,
  the responses and the answers of backends.
-/
import Mathlib.Data.List.Perm.Subperm
import EdgeCache.Exchange.Balance
import EdgeCache.Proofs.Exchange.Provenance

namespace EdgeCache

open EdgeCache.Exchange EdgeCache.Message EdgeCache.Store EdgeCache.Time

variable {Backend : Type}

/-! ## What one exchange counts -/

/-- the failures in an answer: no backend was reached, and a document breaks off -/
def Exchange.Fetch.failures (f : Fetch) : Nat := f.isUnreached.toNat + f.isBroken.toNat

namespace Proxy

variable {p : Proxy Backend} {clock : Clock} {elapsed : Span} {r : Request}

theorem start_of_unreadable (hdoc : isForDocument r = false) (hbody : r.body.read? = none) :
    p.start clock elapsed r = (.answered (.plain 400 "Failed to read request body"), p) := by
  unfold start
  rw [if_neg (by rw [hdoc]; decide), hbody]

theorem start_of_readable (hdoc : isForDocument r = false) {body : ByteArray} (hbody : r.body.read? = some body) :
    p.start clock elapsed r = (.asking (.ofRequest r r.method body), p) := by
  unfold start
  rw [if_neg (by rw [hdoc]; decide), hbody]

/-- the last step counts the failures in the answer -/
theorem settle_counters (p : Proxy Backend) (clock : Clock) (picks : Nat → Pick) (elapsed : Span) (f : Fetch)
    (readings : Nat → Instant) :
    (p.settle clock picks elapsed f.request f.answer readings).2.counters =
      { p.counters with errors := p.counters.errors + f.failures } := by
  unfold settle Fetch.failures Fetch.isUnreached Fetch.isBroken
  cases hdoc : isForDocument f.request with
  | false => cases f.answer.reached <;> rfl
  | true =>
    rw [if_pos rfl]
    unfold settleDocument
    cases f.answer.response.body.read? <;> cases f.answer.reached <;> rfl

end Proxy

namespace Exchange.Journal

variable {j : Journal Backend} {coming : List Nat}

def counters (j : Journal Backend) : Counters := j.traffic.proxy.counters

/-- what a request leads to when it arrives: a document is found or it is absent, and another request is refused if its
body cannot be read and passed on if it can -/
inductive Arrives (j : Journal Backend) (s : Step) (number : Nat) (r : Request) : Prop where
  | found (document : Proxy.isForDocument r = true) (asks : (j.step s).1.asked? = none)
      (serves : j.served? s = some number) (counts : (j.step s).2.counters = j.counters.hit)
      (waiting : (j.step s).2.traffic.pending = j.traffic.pending)
  | absent (document : Proxy.isForDocument r = true) (asks : (j.step s).1.asked? = some number)
      (serves : j.served? s = none) (counts : (j.step s).2.counters = j.counters.miss)
      (waiting : (j.step s).2.traffic.pending = j.traffic.pending ++ [(number, r)])
  | refused (other : Proxy.isForDocument r = false) (unreadable : r.body.read?.isSome = false)
      (asks : (j.step s).1.asked? = none) (serves : j.served? s = none) (counts : (j.step s).2.counters = j.counters)
      (waiting : (j.step s).2.traffic.pending = j.traffic.pending)
  | passed (other : Proxy.isForDocument r = false) (readable : r.body.read?.isSome = true)
      (asks : (j.step s).1.asked? = some number) (serves : j.served? s = none)
      (counts : (j.step s).2.counters = j.counters)
      (waiting : (j.step s).2.traffic.pending = j.traffic.pending ++ [(number, r)])

theorem served?_of_nothing {s : Step} (h : (j.step s).1 = .nothing) : j.served? s = none := by
  unfold served?
  rw [h]
  cases j.request? s <;> rfl

theorem served?_of_question {s : Step} {number : Nat} {backend : Backend} {q : Forwarded}
    (h : (j.step s).1 = .question number backend q) : j.served? s = none := by
  unfold served?
  rw [h]
  cases j.request? s <;> rfl

/-- a response is from the store if it says so, and a document was asked for -/
theorem served?_of_response {s : Step} {number : Nat} {request : Request} {response : Response}
    (hrequest : j.request? s = some request) (h : (j.step s).1 = .response number response) :
    j.served? s = if Proxy.isForDocument request ∧ Outcome.hit.text ∈ response.header.values "x-cache" then some number
      else none := by
  unfold served?
  rw [hrequest, h]

theorem lookup_arrives (j : Journal Backend) (number : Nat) (clock : Clock) (elapsed : Span) (r : Request) :
    j.Arrives (.lookup number clock elapsed r) number r := by
  have hstep := (step_lookup j number clock elapsed r).trans (by rw [Traffic.step_arrival])
  cases hdoc : Proxy.isForDocument r with
  | true =>
    cases hget : (j.store.get clock.instant (j.keyOf r)).1 with
    | some entry =>
      rw [Proxy.start_of_found hdoc hget] at hstep
      refine .found hdoc ?_ ?_ ?_ ?_
      · rw [hstep]; rfl
      · rw [served?_of_response rfl (congrArg Prod.fst hstep)]
        refine if_pos ⟨hdoc, ?_⟩
        rw [values_marked]
        exact List.mem_singleton_self _
      · rw [hstep]; rfl
      · rw [hstep]
    | none =>
      rw [Proxy.start_of_absent hdoc hget] at hstep
      refine .absent hdoc ?_ ?_ ?_ ?_
      · rw [hstep]; rfl
      · exact served?_of_question (congrArg Prod.fst hstep)
      · rw [hstep]; rfl
      · rw [hstep]
  | false =>
    cases hbody : r.body.read? with
    | none =>
      rw [Proxy.start_of_unreadable hdoc hbody] at hstep
      refine .refused hdoc (by rw [hbody]; rfl) ?_ ?_ ?_ ?_
      · rw [hstep]; rfl
      · rw [served?_of_response rfl (congrArg Prod.fst hstep)]
        exact if_neg fun h => by rw [hdoc] at h; cases h.1
      · rw [hstep]
      · rw [hstep]
    | some body =>
      rw [Proxy.start_of_readable hdoc hbody] at hstep
      refine .passed hdoc (by rw [hbody]; rfl) ?_ ?_ ?_ ?_
      · rw [hstep]; rfl
      · exact served?_of_question (congrArg Prod.fst hstep)
      · rw [hstep]; rfl
      · rw [hstep]

/-- an answer that is handed on: nobody is asked, nothing comes from the store, and the failures in it count -/
structure Handover (j : Journal Backend) (s : Step) (number : Nat) (f : Fetch) : Prop where
  asks : (j.step s).1.asked? = none
  serves : j.served? s = none
  counts : (j.step s).2.counters = { j.counters with errors := j.counters.errors + f.failures }
  waiting : (j.step s).2.traffic.pending = j.traffic.settled number
  arrived : (j.step s).2.arrived = Function.update j.arrived number none
  fetches : (j.step s).2.fetches = j.fetches

theorem step_handover {number : Nat} {f : Fetch} (harrived : j.arrived number = some f)
    (hlookup : j.traffic.pending.lookup number = some f.request) (clock : Clock) (picks : Nat → Pick) (elapsed : Span)
    (readings : Nat → Instant) : j.Handover (.store number clock picks elapsed readings) number f := by
  have hstep := step_store harrived hlookup clock picks elapsed readings
  refine ⟨?_, ?_, ?_, ?_, ?_, ?_⟩
  · rw [hstep]; rfl
  · have habout : j.request? (.store number clock picks elapsed readings) = some f.request :=
      congrArg (Option.map Fetch.request) harrived
    rw [served?_of_response habout (congrArg Prod.fst hstep)]
    -- a client who waited is told that the document was not in the store
    refine if_neg ?_
    rintro ⟨hdoc, hsaid⟩
    rw [values_settle hdoc] at hsaid
    exact absurd hsaid (by decide)
  · rw [hstep]
    exact Proxy.settle_counters _ _ _ _ _ _
  · rw [hstep]
  · rw [hstep]
  · rw [hstep]

/-! ## Exchanges under way -/

/-- exchanges under way, each weighed by the answer that has come for it -/
def load (weight : Option Fetch → Nat) (arrived : Nat → Option Fetch) (pending : List (Nat × Request)) : Nat :=
  (pending.map fun e => weight (arrived e.1)).sum

variable (weight : Option Fetch → Nat) (arrived : Nat → Option Fetch) {pending : List (Nat × Request)} {number : Nat}

theorem load_arrival (pending : List (Nat × Request)) (number : Nat) (r : Request) :
    load weight arrived (pending ++ [(number, r)]) = load weight arrived pending + weight (arrived number) := by
  unfold load
  rw [List.map_append, List.sum_append]
  rfl

theorem load_update_of_notMem (h : number ∉ pending.map (·.1)) (new : Option Fetch) :
    load weight (Function.update arrived number new) pending = load weight arrived pending := by
  unfold load
  congr 1
  refine List.map_congr_left fun e he => ?_
  rw [Function.update_of_ne]
  rintro rfl
  exact h (List.mem_map_of_mem he)

theorem load_update (hnodup : (pending.map (·.1)).Nodup) (hmem : number ∈ pending.map (·.1)) (new : Option Fetch) :
    load weight (Function.update arrived number new) pending + weight (arrived number) =
      load weight arrived pending + weight new := by
  induction pending with
  | nil => cases hmem
  | cons e pending ih =>
    obtain ⟨hhead, hrest⟩ := List.nodup_cons.1 hnodup
    show weight (Function.update arrived number new e.1) + load weight _ pending + _ =
      weight (arrived e.1) + load weight arrived pending + _
    by_cases he : number = e.1
    · subst he
      rw [Function.update_self, load_update_of_notMem weight arrived hhead]
      omega
    · have hmem' : number ∈ pending.map (·.1) := (List.mem_cons.1 hmem).resolve_left he
      have := ih hrest hmem'
      rw [Function.update_of_ne (Ne.symm he)]
      omega

/-- an exchange that is over weighs nothing -/
theorem load_filter (hnodup : (pending.map (·.1)).Nodup) (hmem : number ∈ pending.map (·.1)) :
    load weight arrived (pending.filter (·.1 ≠ number)) + weight (arrived number) = load weight arrived pending := by
  induction pending with
  | nil => cases hmem
  | cons e pending ih =>
    obtain ⟨hhead, hrest⟩ := List.nodup_cons.1 hnodup
    show _ = weight (arrived e.1) + load weight arrived pending
    by_cases he : number = e.1
    · subst he
      have hothers : pending.filter (·.1 ≠ e.1) = pending := by
        refine List.filter_eq_self.2 fun e' he' => decide_eq_true ?_
        intro heq
        exact hhead (List.mem_map.2 ⟨e', he', heq⟩)
      rw [List.filter_cons_of_neg (by simp), hothers]
      omega
    · have hmem' : number ∈ pending.map (·.1) := (List.mem_cons.1 hmem).resolve_left he
      have := ih hrest hmem'
      rw [List.filter_cons_of_pos (by simpa using Ne.symm he)]
      show weight (arrived e.1) + load weight arrived (pending.filter (·.1 ≠ number)) + _ = _
      omega

theorem load_over (hnodup : (pending.map (·.1)).Nodup) (hmem : number ∈ pending.map (·.1)) (new : Option Fetch) :
    load weight (Function.update arrived number new) (pending.filter (·.1 ≠ number)) + weight (arrived number) =
      load weight arrived pending := by
  have hgone : number ∉ (pending.filter (·.1 ≠ number)).map (·.1) := by simp
  rw [load_update_of_notMem weight arrived hgone, load_filter weight arrived hnodup hmem]

/-- exchanges under way have numbers of their own, which no later one has, and an answer that has come is for one that
waits -/
structure Apart (j : Journal Backend) (coming : List Nat) : Prop where
  numbers : (j.traffic.pending.map (·.1) ++ coming).Nodup
  arrived : ∀ n f, j.arrived n = some f → j.traffic.pending.lookup n = some f.request

theorem apart_start (p : Proxy Backend) (h : coming.Nodup) : (start p).Apart coming :=
  ⟨h, fun n f hf => by cases hf⟩

theorem Apart.waiting (h : j.Apart coming) : (j.traffic.pending.map (·.1)).Nodup :=
  (List.nodup_append.1 h.numbers).1

theorem mem_waiting {n : Nat} {r : Request} (h : j.traffic.pending.lookup n = some r) :
    n ∈ j.traffic.pending.map (·.1) := by
  obtain ⟨before, behind, hsplit, -⟩ := List.lookup_eq_some_iff.1 h
  rw [hsplit]
  simp

/-- no answer has come for an exchange that is yet to begin -/
theorem Apart.nothing (h : j.Apart (number :: coming)) : j.arrived number = none := by
  cases harrived : j.arrived number with
  | none => rfl
  | some f =>
    have hmem := mem_waiting (h.arrived number f harrived)
    exact absurd rfl ((List.nodup_append.1 h.numbers).2.2 number hmem number List.mem_cons_self)

theorem step_apart {s : Step} (h : j.Apart (s.begun?.toList ++ coming)) : (j.step s).2.Apart coming := by
  -- those who are still under way are in order, whatever becomes of the others
  have hfewer : ∀ pending : List (Nat × Request), pending.Sublist j.traffic.pending →
      (pending.map (·.1) ++ coming).Nodup := fun pending hsub =>
    h.numbers.sublist ((hsub.map _).append (List.sublist_append_right _ _))
  cases s with
  | lookup number clock elapsed r =>
    have hnew : (j.traffic.pending.map (·.1) ++ number :: coming).Nodup := h.numbers
    refine ⟨?_, fun n f hf => ?_⟩
    · cases lookup_arrives j number clock elapsed r with
      | found _ _ _ _ hwaiting => rw [hwaiting]; exact hfewer _ (.refl _)
      | refused _ _ _ _ _ hwaiting => rw [hwaiting]; exact hfewer _ (.refl _)
      | absent _ _ _ _ hwaiting => rw [hwaiting, List.map_append, List.append_assoc]; exact hnew
      | passed _ _ _ _ _ hwaiting => rw [hwaiting, List.map_append, List.append_assoc]; exact hnew
    · exact Traffic.lookup_arrival_of_some (h.arrived n f hf) number clock elapsed r
  | fetch number answer =>
    show (j.receive number answer).Apart coming
    unfold receive
    split
    · rename_i request hlookup hnone
      refine ⟨h.numbers, fun n f hf => ?_⟩
      have hf' : Function.update j.arrived number (some ⟨request, answer⟩) n = some f := hf
      rw [Function.update_apply] at hf'
      split_ifs at hf' with hn
      · subst hn
        cases hf'
        exact hlookup
      · exact h.arrived n f hf'
    · exact h
  | store number clock picks elapsed readings =>
    cases harrived : j.arrived number with
    | none => rw [step_store_of_none harrived]; exact h
    | some f =>
      have hover := step_handover harrived (h.arrived number f harrived) clock picks elapsed readings
      refine ⟨?_, fun n g hg => ?_⟩
      · rw [hover.waiting]
        exact hfewer _ List.filter_sublist
      · rw [hover.arrived] at hg
        obtain ⟨hg', hsame⟩ := waiting_settled hg
        rw [hover.waiting, hsame]
        exact h.arrived n g hg'
  | abandon number =>
    refine ⟨hfewer _ List.filter_sublist, fun n f hf => ?_⟩
    obtain ⟨hf', hsame⟩ := waiting_settled hf
    exact hsame.trans (h.arrived n f hf')
  | sweep now => exact ⟨h.numbers, h.arrived⟩

/-! ## Totals -/

/-- an exchange whose answer has not come -/
def open? (came : Option Fetch) : Nat := if came.isNone then 1 else 0

/-- the failures in an answer that has come -/
def failing (came : Option Fetch) : Nat := (came.map Fetch.failures).getD 0

/-- the totals after so many questions, responses from the store, requests for documents and requests passed on: what is
not yet handed on is all that sets them apart from what backends answered -/
structure Totals (j : Journal Backend) (asks serves documents passes : Nat) : Prop where
  hits : j.counters.hits = serves
  requests : j.counters.hits + j.counters.misses = documents
  questions : j.counters.misses + passes = asks
  answers : j.fetches.length + load open? j.arrived j.traffic.pending = asks
  errors : j.counters.errors + load failing j.arrived j.traffic.pending = (j.fetches.map Fetch.failures).sum

theorem totals_start {p : Proxy Backend} (hfresh : p.counters = {}) : (start p).Totals 0 0 0 0 := by
  have hcounters : (start p).counters = {} := hfresh
  refine ⟨?_, ?_, ?_, rfl, ?_⟩ <;> rw [hcounters] <;> rfl

variable {asks serves documents passes : Nat}

/-- the totals after `x` more documents from the store, `y` more absent ones and `z` more requests passed on -/
theorem Totals.next {x y z : Nat} {d : Journal Backend} (ht : j.Totals asks serves documents passes)
    (hhits : d.counters.hits = j.counters.hits + x) (hmisses : d.counters.misses = j.counters.misses + y)
    (hanswers : d.fetches.length + load open? d.arrived d.traffic.pending =
      j.fetches.length + load open? j.arrived j.traffic.pending + (y + z))
    (herrors : d.counters.errors + load failing d.arrived d.traffic.pending + (j.fetches.map Fetch.failures).sum =
      j.counters.errors + load failing j.arrived j.traffic.pending + (d.fetches.map Fetch.failures).sum) :
    d.Totals (asks + (y + z)) (serves + x) (documents + (x + y)) (passes + z) := by
  obtain ⟨hits, requests, questions, answers, errors⟩ := ht
  exact ⟨by omega, by omega, by omega, by omega, by omega⟩

theorem Totals.lookup (ht : j.Totals asks serves documents passes) (number : Nat) (clock : Clock) (elapsed : Span)
    (r : Request) (h : j.Apart (number :: coming)) :
    (j.step (.lookup number clock elapsed r)).2.Totals
      (asks + (j.step (.lookup number clock elapsed r)).1.asked?.toList.length)
      (serves + (j.served? (.lookup number clock elapsed r)).toList.length)
      (documents + (Proxy.isForDocument r).toNat)
      (passes + (!Proxy.isForDocument r && r.body.read?.isSome).toNat) := by
  -- an exchange that waits is one for which no answer has come
  have hopen : load open? j.arrived (j.traffic.pending ++ [(number, r)]) = load open? j.arrived j.traffic.pending + 1 := by
    rw [load_arrival, h.nothing]
    rfl
  have hfailing : load failing j.arrived (j.traffic.pending ++ [(number, r)]) = load failing j.arrived j.traffic.pending := by
    rw [load_arrival, h.nothing]
    rfl
  cases lookup_arrives j number clock elapsed r with
  | found hdoc hasks hserves hcounts hwaiting =>
    rw [hasks, hserves, hdoc]
    refine ht.next (x := 1) (y := 0) (z := 0) ?_ ?_ ?_ ?_
    · rw [hcounts]; rfl
    · rw [hcounts]; rfl
    · rw [hwaiting]; rfl
    · rw [hcounts, hwaiting]; rfl
  | absent hdoc hasks hserves hcounts hwaiting =>
    rw [hasks, hserves, hdoc]
    refine ht.next (x := 0) (y := 1) (z := 0) ?_ ?_ ?_ ?_
    · rw [hcounts]; rfl
    · rw [hcounts]; rfl
    · rw [hwaiting]
      exact congrArg (j.fetches.length + ·) hopen
    · rw [hcounts, hwaiting]
      exact congrArg (j.counters.errors + · + (j.fetches.map Fetch.failures).sum) hfailing
  | refused hdoc hbody hasks hserves hcounts hwaiting =>
    rw [hasks, hserves, hdoc, hbody]
    refine ht.next (x := 0) (y := 0) (z := 0) ?_ ?_ ?_ ?_
    · rw [hcounts]; rfl
    · rw [hcounts]; rfl
    · rw [hwaiting]; rfl
    · rw [hcounts, hwaiting]; rfl
  | passed hdoc hbody hasks hserves hcounts hwaiting =>
    rw [hasks, hserves, hdoc, hbody]
    refine ht.next (x := 0) (y := 0) (z := 1) ?_ ?_ ?_ ?_
    · rw [hcounts]; rfl
    · rw [hcounts]; rfl
    · rw [hwaiting]
      exact congrArg (j.fetches.length + ·) hopen
    · rw [hcounts, hwaiting]
      exact congrArg (j.counters.errors + · + (j.fetches.map Fetch.failures).sum) hfailing

/-- an answer that comes is one more, and its exchange is no longer open -/
theorem Totals.receive (ht : j.Totals asks serves documents passes) (h : j.Apart coming) (number : Nat)
    (answer : Answer) : (j.receive number answer).Totals asks serves documents passes := by
  unfold Journal.receive
  split
  · rename_i request hlookup hnone
    have hmem := mem_waiting hlookup
    have hopen := load_update open? j.arrived h.waiting hmem (some ⟨request, answer⟩)
    have hfailing := load_update failing j.arrived h.waiting hmem (some ⟨request, answer⟩)
    rw [hnone] at hopen hfailing
    refine ht.next (x := 0) (y := 0) (z := 0) rfl rfl ?_ ?_
    · show j.fetches.length + 1 + load open? (Function.update j.arrived number _) j.traffic.pending = _
      have hone : open? none = 1 := rfl
      have hzero : open? (some ⟨request, answer⟩) = 0 := rfl
      omega
    · show j.counters.errors + load failing (Function.update j.arrived number _) j.traffic.pending + _ =
        _ + (Fetch.failures ⟨request, answer⟩ + (j.fetches.map Fetch.failures).sum)
      have hzero : failing none = 0 := rfl
      have hnew : failing (some ⟨request, answer⟩) = Fetch.failures ⟨request, answer⟩ := rfl
      omega
  · exact ht

/-- an answer that is handed on counts with its failures -/
theorem Totals.handover (ht : j.Totals asks serves documents passes) (h : j.Apart coming) {s : Step}
    {f : Fetch} (harrived : j.arrived number = some f) (hover : j.Handover s number f) :
    (j.step s).2.Totals asks serves documents passes := by
  have hmem := mem_waiting (h.arrived number f harrived)
  have hopen := load_over open? j.arrived h.waiting hmem none
  have hfailing := load_over failing j.arrived h.waiting hmem none
  rw [harrived] at hopen hfailing
  refine ht.next (x := 0) (y := 0) (z := 0) ?_ ?_ ?_ ?_
  · rw [hover.counts]; rfl
  · rw [hover.counts]; rfl
  · rw [hover.fetches, hover.arrived, hover.waiting]
    have hzero : open? (some f) = 0 := rfl
    show j.fetches.length + load open? _ (j.traffic.pending.filter _) = _
    omega
  · rw [hover.counts, hover.fetches, hover.arrived, hover.waiting]
    have hnew : failing (some f) = f.failures := rfl
    show j.counters.errors + f.failures + load failing _ (j.traffic.pending.filter _) + _ = _
    omega

/-- every step of an exchange that nobody leaves keeps the totals -/
theorem step_totals (ht : j.Totals asks serves documents passes) {s : Step}
    (h : j.Apart (s.begun?.toList ++ coming)) (hs : ∀ n, s ≠ .abandon n) :
    (j.step s).2.Totals (asks + (j.step s).1.asked?.toList.length) (serves + (j.served? s).toList.length)
      (documents + s.isForDocument.toNat) (passes + s.isPassed.toNat) := by
  cases s with
  | lookup number clock elapsed r => exact ht.lookup number clock elapsed r h
  | fetch number answer => exact ht.receive h number answer
  | store number clock picks elapsed readings =>
    cases harrived : j.arrived number with
    | none =>
      have hstep := step_store_of_none harrived clock picks elapsed readings
      rw [served?_of_nothing (by rw [hstep]), hstep]
      exact ht
    | some f =>
      have hover := step_handover harrived (h.arrived number f harrived) clock picks elapsed readings
      rw [hover.asks, hover.serves]
      exact ht.handover h harrived hover
  | abandon number => exact absurd rfl (hs number)
  | sweep now => exact ⟨ht.hits, ht.requests, ht.questions, ht.answers, ht.errors⟩

theorem begun_cons (s : Step) (steps : List Step) :
    (s :: steps).filterMap Step.begun? = s.begun?.toList ++ steps.filterMap Step.begun? := by
  cases hb : s.begun? with
  | none => rw [List.filterMap_cons_none hb]; rfl
  | some n => rw [List.filterMap_cons_some hb]; rfl

theorem run_totals {steps : List Step} (ht : j.Totals asks serves documents passes)
    (h : j.Apart (steps.filterMap Step.begun?)) (hsteps : ∀ n, .abandon n ∉ steps) :
    (j.run steps).Totals (asks + (j.asking steps).length) (serves + (j.served steps).length)
      (documents + steps.countP Step.isForDocument) (passes + steps.countP Step.isPassed) := by
  induction steps generalizing j asks serves documents passes with
  | nil => exact ht
  | cons s steps ih =>
    have hs : ∀ n, s ≠ .abandon n := fun n hn => hsteps n (hn ▸ List.mem_cons_self)
    have hrest : ∀ n, .abandon n ∉ steps := fun n hn => hsteps n (List.mem_cons_of_mem _ hn)
    rw [begun_cons] at h
    have hnext := ih (step_totals ht h hs) (step_apart h) hrest
    have hcount : ∀ q : Step → Bool, (s :: steps).countP q = (q s).toNat + steps.countP q := by
      intro q
      rw [List.countP_cons]
      cases q s <;> simp [Nat.add_comm]
    unfold asking served
    rw [List.length_append, List.length_append, hcount, hcount, ← Nat.add_assoc, ← Nat.add_assoc, ← Nat.add_assoc,
      ← Nat.add_assoc]
    exact hnext

/-! ## Each exchange at most once -/

/-- whoever asks a backend, or is served from the store, is an exchange that begins; none does both -/
theorem step_once {s : Step} (h : j.Apart (s.begun?.toList ++ coming)) :
    ((j.step s).1.asked?.toList ++ (j.served? s).toList).Sublist s.begun?.toList := by
  cases s with
  | lookup number clock elapsed r =>
    cases lookup_arrives j number clock elapsed r with
    | found _ hasks hserves _ _ => rw [hasks, hserves]; exact .refl _
    | absent _ hasks hserves _ _ => rw [hasks, hserves]; exact .refl _
    | refused _ _ hasks hserves _ _ => rw [hasks, hserves]; exact List.nil_sublist _
    | passed _ _ hasks hserves _ _ => rw [hasks, hserves]; exact .refl _
  | fetch number answer => exact .refl _
  | store number clock picks elapsed readings =>
    cases harrived : j.arrived number with
    | none =>
      have hstep := step_store_of_none harrived clock picks elapsed readings
      rw [served?_of_nothing (by rw [hstep]), hstep]
      exact .refl _
    | some f =>
      have hover := step_handover harrived (h.arrived number f harrived) clock picks elapsed readings
      rw [hover.asks, hover.serves]
      exact .refl _
  | abandon number => exact .refl _
  | sweep now => exact .refl _

/-- in a run no exchange asks twice, or asks and is served -/
theorem run_once {steps : List Step} (h : j.Apart (steps.filterMap Step.begun?)) :
    (j.asking steps ++ j.served steps).Subperm (steps.filterMap Step.begun?) := by
  induction steps generalizing j with
  | nil => exact .refl _
  | cons s steps ih =>
    rw [begun_cons] at h ⊢
    have honce := List.Subperm.append (step_once h).subperm (ih (step_apart h))
    -- what is asked in the first step, and what is served in it, change places
    have hswap : (((j.step s).1.asked?.toList ++ (j.step s).2.asking steps) ++
        ((j.served? s).toList ++ (j.step s).2.served steps)).Perm
        (((j.step s).1.asked?.toList ++ (j.served? s).toList) ++
          ((j.step s).2.asking steps ++ (j.step s).2.served steps)) := by
      rw [List.append_assoc, List.append_assoc]
      refine List.Perm.append_left _ ?_
      rw [← List.append_assoc, ← List.append_assoc]
      exact List.perm_append_comm.append_right _
    exact hswap.subperm.trans honce

/-! ## Runs in which every exchange comes to its end -/

/-- failures are answers for which no backend was reached, and documents that break off -/
theorem sum_failures (fetches : List Fetch) :
    (fetches.map Fetch.failures).sum = fetches.countP Fetch.isUnreached + fetches.countP Fetch.isBroken := by
  induction fetches with
  | nil => rfl
  | cons f fetches ih =>
    rw [List.map_cons, List.sum_cons, ih, List.countP_cons, List.countP_cons]
    unfold Fetch.failures
    cases f.isUnreached <;> cases f.isBroken <;> simp <;> omega

/-- an exchange with nothing in between comes to its end -/
theorem exchange_ends (hpending : j.traffic.pending = []) (harrived : ∀ n, j.arrived n = none) (number : Nat)
    (clock : Clock) (elapsed : Span) (r : Request) (a : Answer) (later : Clock) (picks : Nat → Pick) (taken : Span)
    (readings : Nat → Instant) :
    (j.run (exchange number clock elapsed r a later picks taken readings)).traffic.pending = [] ∧
    ∀ n, (j.run (exchange number clock elapsed r a later picks taken readings)).arrived n = none := by
  let looked := (j.step (.lookup number clock elapsed r)).2
  have hlooked : ∀ n, looked.arrived n = none := harrived
  show (((looked.receive number a).step (.store number later picks taken readings)).2).traffic.pending = [] ∧
    ∀ n, (((looked.receive number a).step (.store number later picks taken readings)).2).arrived n = none
  have hcases : looked.traffic.pending = [] ∨ looked.traffic.pending = [(number, r)] := by
    cases lookup_arrives j number clock elapsed r with
    | found _ _ _ _ hwaiting => exact .inl (hwaiting.trans hpending)
    | refused _ _ _ _ _ hwaiting => exact .inl (hwaiting.trans hpending)
    | absent _ _ _ _ hwaiting => exact .inr (hwaiting.trans (by rw [hpending]; rfl))
    | passed _ _ _ _ _ hwaiting => exact .inr (hwaiting.trans (by rw [hpending]; rfl))
  rcases hcases with hnobody | hone
  · have hsame : looked.receive number a = looked := by
      unfold Journal.receive
      rw [hnobody]
      rfl
    rw [hsame, step_store_of_none (hlooked number)]
    exact ⟨hnobody, hlooked⟩
  · have hlookup : looked.traffic.pending.lookup number = some r := by
      rw [hone]
      exact Directory.lookup_of_eq rfl _ _
    rw [receive_of_waiting hlookup (hlooked number)]
    have hover := step_handover (j := { looked with
      arrived := Function.update looked.arrived number (some ⟨r, a⟩)
      fetches := ⟨r, a⟩ :: looked.fetches }) (Function.update_self ..) hlookup later picks taken readings
    rw [hover.waiting, hover.arrived]
    refine ⟨?_, fun n => ?_⟩
    · show looked.traffic.pending.filter _ = []
      rw [hone]
      simp
    · show Function.update (Function.update looked.arrived number _) number none n = none
      rw [Function.update_idem, Function.update_apply, hlooked n]
      split_ifs <;> rfl

end Exchange.Journal

namespace Exchange.Sample

open Journal

/-- a document is fetched and then served from the store, and the backend of another request is not reached -/
def mixed : List Step :=
  exchange 0 now ⟨0⟩ asked (said 200 []) now picks ⟨0⟩ (fun _ => ⟨0⟩) ++ .lookup 1 now ⟨0⟩ askedHead ::
    exchange 2 now ⟨0⟩ { asked with method := "DELETE" } .none now picks ⟨0⟩ (fun _ => ⟨0⟩)

theorem mixed_completed : (start idle).Completed mixed := by
  refine ⟨by decide, fun n h => ?_, ?_⟩
  · simp [mixed, exchange] at h
  · obtain ⟨hpending, harrived⟩ := exchange_ends (j := start idle) rfl (fun _ => rfl) 0 now ⟨0⟩ asked (said 200 []) now
      picks ⟨0⟩ fun _ => ⟨0⟩
    -- the second request is answered at once
    obtain ⟨-, hhits, -⟩ := visited_hits (r := asked) (q := askedHead) rfl rfl rfl says_nothing
    obtain ⟨number, hanswered⟩ := hhits.answered
    have hwaiting : ((visited asked []).step (.lookup 1 now ⟨0⟩ askedHead)).2.traffic.pending = [] := by
      cases lookup_arrives (visited asked []) 1 now ⟨0⟩ askedHead with
      | found _ _ _ _ hwaiting => exact hwaiting.trans hpending
      | refused _ _ _ _ _ hwaiting => exact hwaiting.trans hpending
      | absent _ hasks => rw [hanswered] at hasks; cases hasks
      | passed _ _ hasks => rw [hanswered] at hasks; cases hasks
    unfold mixed
    rw [run_append]
    exact (exchange_ends hwaiting harrived _ _ _ _ _ _ _ _ _).1

end Exchange.Sample

namespace Exchange.Journal

variable {j : Journal Backend}

/-- **Totals and questions to backends balance.** However the steps of any number of exchanges follow each other and
whatever backends answer, once every exchange has come to its end: each request for a document is a hit or a miss; the
hits are the responses from the store; backends were asked once for each miss and once for each other request whose body
could be read, and each question was answered; the errors are the answers for which no backend was reached and the
documents that broke off. No exchange asks twice, and none that is served from the store asks. -/
theorem counters_balance {p : Proxy Backend} (hfresh : p.counters = {}) {steps : List Step}
    (h : (start p).Completed steps) {j : Journal Backend} (hrun : (start p).run steps = j) :
    j.counters.hits + j.counters.misses = steps.countP Step.isForDocument ∧
    j.counters.hits = ((start p).served steps).length ∧
    ((start p).asking steps).length = j.counters.misses + steps.countP Step.isPassed ∧
    j.fetches.length = ((start p).asking steps).length ∧
    j.counters.errors = j.fetches.countP Fetch.isUnreached + j.fetches.countP Fetch.isBroken ∧
    ((start p).asking steps ++ (start p).served steps).Nodup := by
  subst hrun
  have hapart := apart_start p h.numbers
  obtain ⟨hhits, hrequests, hquestions, hanswers, herrors⟩ := run_totals (totals_start hfresh) hapart h.patient
  -- nothing is under way in the end
  rw [h.ended] at hanswers herrors
  have hopen : load open? ((start p).run steps).arrived [] = 0 := rfl
  have hfailing : load failing ((start p).run steps).arrived [] = 0 := rfl
  have hsum := sum_failures ((start p).run steps).fetches
  refine ⟨by omega, by omega, by omega, by omega, by omega, ?_⟩
  obtain ⟨l, hperm, hsub⟩ := run_once hapart
  exact hperm.nodup_iff.1 (h.numbers.sublist hsub)

open Sample in
theorem counters_balance_mixed :
    idle.counters = {} ∧ (start idle).Completed mixed ∧
    mixed.countP Step.isForDocument = 2 ∧ mixed.countP Step.isPassed = 1 ∧
    ((start idle).run mixed).counters.hits + ((start idle).run mixed).counters.misses = 2 ∧
    ((start idle).run mixed).counters.hits = ((start idle).served mixed).length ∧
    ((start idle).asking mixed).length = ((start idle).run mixed).counters.misses + 1 ∧
    ((start idle).run mixed).fetches.length = ((start idle).asking mixed).length ∧
    ((start idle).run mixed).counters.errors = ((start idle).run mixed).fetches.countP Fetch.isUnreached +
      ((start idle).run mixed).fetches.countP Fetch.isBroken ∧
    ((start idle).asking mixed ++ (start idle).served mixed).Nodup :=
  ⟨rfl, mixed_completed, rfl, rfl, counters_balance rfl mixed_completed rfl⟩

end Exchange.Journal

end EdgeCache
