/-
What an exchange does to the store, and what it leaves alone.

- `Course.store_frame`: an exchange takes out at most an expired version of its key at its start. At its end it stores its
  document under that key, if its answer leads to an entry, and else does nothing.
- `Course.stored_of_fits`: an answer that leads to an entry is stored if there is room for it.
- `Replaced.notImplemented_replaces`: a status that may be stored although it tells of a failure.
-/
import EdgeCache.Proofs.Exchange.Calls
import EdgeCache.Proofs.Store.Effects

namespace EdgeCache.Exchange

open EdgeCache.Freshness EdgeCache.Message EdgeCache.Store EdgeCache.Time EdgeCache.ResponseStore

variable {Backend : Type} {limits : Limits}

/-! ## Steps -/

namespace Traffic

variable {t : Traffic Backend}

/-- what every call keeps, every event keeps -/
theorem step_induct {P : ResponseStore → Prop} (hP : ∀ s (call : Call), P s → P (call.perform s).2)
    (h : P t.proxy.store) (e : Event) : P (t.step e).2.proxy.store := by
  cases e with
  | arrival number clock elapsed r =>
    rw [arrival_proxy, Proxy.start_store]
    split_ifs
    · exact hP _ (.get clock.instant (t.proxy.keyOf r)) h
    · exact h
  | answer number clock picks elapsed a readings =>
    cases hn : t.pending.lookup number with
    | none => rw [step_answer_none hn]; exact h
    | some r =>
      rw [step_answer hn]
      show P (t.proxy.settle clock picks elapsed r a readings).2.store
      rw [Proxy.settle_store]
      split
      · exact hP _ _ h
      · exact h
  | abandonment number => exact h

theorem step_sound (h : Sound limits t.proxy.store) (e : Event) : Sound limits (t.step e).2.proxy.store :=
  step_induct (P := Sound limits) (fun _ call h => perform_sound h call) h e

theorem run_sound (h : Sound limits t.proxy.store) (events : List Event) :
    Sound limits (t.run events).2.proxy.store := by
  induction events generalizing t with
  | nil => exact h
  | cons e events ih => exact ih (step_sound h e)

theorem step_reachable (h : t.proxy.store.Reachable) (e : Event) : (t.step e).2.proxy.store.Reachable :=
  step_induct (fun _ call h => h.perform call) h e

theorem step_ignoreHost (t : Traffic Backend) (e : Event) : (t.step e).2.proxy.ignoreHost = t.proxy.ignoreHost := by
  cases e with
  | arrival number clock elapsed r =>
    rw [arrival_proxy]
    exact Proxy.start_ignoreHost t.proxy clock elapsed r
  | answer number clock picks elapsed a readings =>
    cases hn : t.pending.lookup number with
    | none => rw [step_answer_none hn]
    | some r =>
      rw [step_answer hn]
      exact Proxy.settle_ignoreHost t.proxy clock picks elapsed r a readings
  | abandonment number => rfl

theorem run_ignoreHost (t : Traffic Backend) (events : List Event) :
    (t.run events).2.proxy.ignoreHost = t.proxy.ignoreHost := by
  induction events generalizing t with
  | nil => rfl
  | cons e events ih => exact (ih (t.step e).2).trans (step_ignoreHost t e)

theorem arrival_store_of_absent (t : Traffic Backend) (number : Nat) (clock : Clock) (elapsed : Span) {r : Request}
    (hdoc : Proxy.isForDocument r = true) (h : t.proxy.store.contents (t.proxy.keyOf r) = none) :
    (t.step (.arrival number clock elapsed r)).2.proxy.store = t.proxy.store.touch (t.proxy.keyOf r) := by
  rw [arrival_proxy, Proxy.start_store, if_pos hdoc, get_of_absent h]

end Traffic

/-! ## Whole exchanges -/

/-- an exchange from the arrival of its request until its answer is taken, with what happens to others in between -/
structure Course (Backend : Type) where
  before : Traffic Backend
  number : Nat
  request : Request
  answer : Answer
  clock : Clock
  elapsed : Span
  meanwhile : List Event
  later : Clock
  picks : Nat → Pick
  taken : Span
  readings : Nat → Instant
  /-- the store can be in any state that calls lead to -/
  reachable : before.proxy.store.Reachable
  unused : before.pending.lookup number = none
  others : ∀ e ∈ meanwhile, e.number ≠ number

namespace Course

variable {c : Course Backend}

def looked (c : Course Backend) : Traffic Backend :=
  (c.before.step (.arrival c.number c.clock c.elapsed c.request)).2

def waiting (c : Course Backend) : Traffic Backend := (c.looked.run c.meanwhile).2

/-- after the answer is taken -/
def settled (c : Course Backend) : Traffic Backend :=
  (c.waiting.step (.answer c.number c.later c.picks c.taken c.answer c.readings)).2

def key (c : Course Backend) : Key := c.before.proxy.keyOf c.request

/-- the lookup found nothing -/
def Missed (c : Course Backend) : Prop := (c.before.proxy.store.get c.clock.instant c.key).1 = none

/-- the answer leads to this entry when it is taken -/
def Yields (c : Course Backend) (entry : Entry) : Prop := Fetch.Yields ⟨c.request, c.answer⟩ c.later.moment entry

/-- what the key holds once that entry is stored -/
def stored (c : Course Backend) (entry : Entry) : Entry × Option Instant :=
  (entry, (entry.lifetime? c.later.moment c.waiting.proxy.store.defaultLifetime).bind c.later.instant.after?)

theorem waiting_sound (c : Course Backend) : ∃ limits, Sound limits c.waiting.proxy.store := by
  obtain ⟨limits, h⟩ := c.reachable.sound
  exact ⟨limits, Traffic.run_sound (Traffic.step_sound h _) c.meanwhile⟩

theorem waiting_keyOf (c : Course Backend) : c.waiting.proxy.keyOf c.request = c.key := by
  have hsame : c.waiting.proxy.ignoreHost = c.before.proxy.ignoreHost :=
    (Traffic.run_ignoreHost c.looked c.meanwhile).trans (Traffic.step_ignoreHost c.before _)
  unfold key Proxy.keyOf
  rw [hsame]

theorem waiting_lookup (c : Course Backend) :
    c.waiting.pending.lookup c.number =
      match (c.before.proxy.start c.clock c.elapsed c.request).1 with
      | .answered _ => none
      | .asking _ => some c.request :=
  (Traffic.lookup_run_of_ne c.looked c.others).trans (Traffic.lookup_arrival_of_none c.unused _ _ _)

theorem waiting_lookup_of_missed (hdoc : Proxy.isForDocument c.request = true) (hmissed : c.Missed) :
    c.waiting.pending.lookup c.number = some c.request := by
  rw [waiting_lookup, Proxy.start_of_absent hdoc hmissed]

/-- the call that stores the document, if there is one, came after a lookup that found nothing -/
theorem settled_cases (c : Course Backend) :
    c.settled.proxy.store = c.waiting.proxy.store ∨
    (c.Missed ∧ ∃ entry call, c.Yields entry ∧ Proxy.Keeps call c.later c.picks c.key entry c.readings ∧
      c.settled.proxy.store = (call.perform c.waiting.proxy.store).2) := by
  have hlookup := c.waiting_lookup
  cases hstart : (c.before.proxy.start c.clock c.elapsed c.request).1 with
  | answered response =>
    rw [hstart] at hlookup
    unfold settled
    rw [Traffic.step_answer_none hlookup]
    exact Or.inl rfl
  | asking question =>
    rw [hstart] at hlookup
    unfold settled
    rw [Traffic.step_answer hlookup]
    show (c.waiting.proxy.settle c.later c.picks c.taken c.request c.answer c.readings).2.store = _ ∨ _
    rw [Proxy.settle_store]
    cases hcall : c.waiting.proxy.settleCall? c.later c.picks c.request c.answer c.readings with
    | none => exact Or.inl rfl
    | some call =>
      obtain ⟨entry, hyields, hkeeps⟩ := Proxy.settleCall?_eq_some hcall
      rw [waiting_keyOf] at hkeeps
      exact Or.inr ⟨Proxy.absent_of_asking hyields.forDocument hstart, entry, call, hyields, hkeeps, rfl⟩

/-- an answer that leads to an entry makes the call that stores it -/
theorem settled_of_yields {entry : Entry} (hmissed : c.Missed) (hyields : c.Yields entry) :
    ∃ call, Proxy.Keeps call c.later c.picks c.key entry c.readings ∧
      c.settled.proxy.store = (call.perform c.waiting.proxy.store).2 := by
  obtain ⟨call, hcall, hkeeps⟩ := Proxy.settleCall?_of_yields c.waiting.proxy c.picks c.readings hyields
  rw [waiting_keyOf] at hkeeps
  refine ⟨call, hkeeps, ?_⟩
  unfold settled
  rw [Traffic.step_answer (waiting_lookup_of_missed hyields.forDocument hmissed)]
  show (c.waiting.proxy.settle c.later c.picks c.taken c.request c.answer c.readings).2.store = _
  rw [Proxy.settle_store, hcall]

/-- an answer that leads to no entry changes nothing -/
theorem settled_of_not_yields (h : ¬(c.Missed ∧ ∃ entry, c.Yields entry)) :
    c.settled.proxy.store = c.waiting.proxy.store := by
  rcases c.settled_cases with hsame | ⟨hmissed, entry, call, hyields, -⟩
  · exact hsame
  · exact absurd ⟨hmissed, entry, hyields⟩ h

/-- **What an exchange does to the store.** Its lookup takes out at most an expired version of its key. When its answer is
taken the store stays as it is, unless a document was asked for and not found, the backend was reached, the body was
read to its end, the status may be stored and the header that reaches the client allows it. Then one call stores the
document, which touches its own key and evicts. So other methods, responses that stand in for a backend's, bodies that
break off, partial contents and failures of a server other than 501 change nothing. -/
theorem store_frame (c : Course Backend) :
    (if Proxy.isForDocument c.request then
      Reclaims c.clock.instant c.key c.before.proxy.store c.looked.proxy.store
    else c.looked.proxy.store = c.before.proxy.store) ∧
    (¬(c.Missed ∧ ∃ entry, c.Yields entry) → c.settled.proxy.store = c.waiting.proxy.store) ∧
    (∀ entry, c.Missed → c.Yields entry → ∃ call, Proxy.Keeps call c.later c.picks c.key entry c.readings ∧
      c.settled.proxy.store = (call.perform c.waiting.proxy.store).2 ∧
      StoresUnder call c.key (c.stored entry) c.waiting.proxy.store c.settled.proxy.store) ∧
    (Proxy.isForDocument c.request = false ∨ c.answer.reached = false ∨ c.answer.response.body.read? = none ∨
      c.answer.response.status = 206 ∨ (500 ≤ c.answer.response.status ∧ c.answer.response.status ≠ 501) →
      c.settled.proxy.store = c.waiting.proxy.store) := by
  refine ⟨?_, settled_of_not_yields, ?_, ?_⟩
  · have hproxy : c.looked.proxy = _ := Traffic.arrival_proxy c.before c.number c.clock c.elapsed c.request
    rw [hproxy, Proxy.start_store]
    split_ifs
    · exact get_reclaims _ _ _
    · rfl
  · intro entry hmissed hyields
    obtain ⟨limits, hsound⟩ := c.waiting_sound
    obtain ⟨call, hkeeps, hstore⟩ := settled_of_yields hmissed hyields
    refine ⟨call, hkeeps, hstore, ?_⟩
    rw [hstore]
    exact insert_storesUnder hsound (hkeeps.perform _) (hkeeps.rounds _)
  · intro hbad
    apply settled_of_not_yields
    rintro ⟨-, entry, hyields⟩
    obtain ⟨body, hbody, -⟩ := hyields.whole
    have hstatus : c.answer.response.status ∈ storableStatuses := hyields.status
    rcases hbad with hdoc | hreached | hbroken | hpartial | ⟨hlow, hnot⟩
    · rw [hyields.forDocument] at hdoc
      cases hdoc
    · rw [hyields.reached] at hreached
      cases hreached
    · rw [hbody] at hbroken
      cases hbroken
    · rw [hpartial] at hstatus
      exact absurd hstatus (by decide)
    · simp only [storableStatuses, List.mem_cons, List.not_mem_nil, or_false] at hstatus
      omega

/-- **A good answer is stored** when there is room for its document, and then no other key is lost. -/
theorem stored_of_fits {entry : Entry} (hmissed : c.Missed) (hyields : c.Yields entry)
    (hfits : c.waiting.proxy.store.Fits c.key entry) :
    c.settled.proxy.store.contents =
      Function.update c.waiting.proxy.store.contents c.key (some (c.stored entry)) := by
  obtain ⟨limits, hsound⟩ := c.waiting_sound
  obtain ⟨call, hkeeps, hstore⟩ := settled_of_yields hmissed hyields
  rw [hstore, hkeeps.perform]
  exact (insert_of_fits hsound hfits c.later.instant c.readings c.picks _).2

theorem missed_of_absent (h : c.before.proxy.store.contents c.key = none) : c.Missed := by
  unfold Missed
  rw [get_of_absent h]

end Course

/-! ## A small proxy -/

namespace Sample

/-- the clock stands still -/
def now : Clock := ⟨⟨0⟩, ⟨0, 0⟩⟩

def picks : Nat → Pick := fun _ => ⟨0, fun _ => 0⟩

/-- an empty store for two entries -/
def idle : Proxy Unit where
  store := ⟨Array.replicate 2 .empty, .new 2, ⟨2, 8, 0, 0, false⟩, none⟩
  hosts := ⟨(), ∅⟩
  ignoreHost := false

theorem new_idle : new ⟨2, 8, none⟩ = .ok idle.store := by
  have hshards : (min 2 maxShards).nextPowerOfTwo = 2 := by decide +kernel
  rw [new_eq _ (by decide) (by decide), hshards]
  rfl

theorem idle_contents (key : Key) : idle.store.contents key = none := congrFun (contents_new new_idle) key

def asked : Request := ⟨"GET", ⟨none, [], "/x".toList⟩, [⟨"host", "a.test"⟩], .empty⟩

/-- an answer without a body, and without fields other than those given -/
def said (status : Nat) (header : Header) : Answer := ⟨⟨status, header, .empty⟩, true⟩

theorem says_nothing : Decision.ofHeader (Header.endToEnd []) now.moment = .unspecified := by decide

theorem yields {r : Request} (hdoc : Proxy.isForDocument r = true) {status : Nat} (hstatus : status ∈ storableStatuses)
    {header : Header} (hallowed : Decision.ofHeader header.endToEnd now.moment ≠ .forbidden) :
    Fetch.Yields ⟨r, said status header⟩ now.moment (Proxy.document (said status header) .empty) :=
  ⟨hdoc, rfl, ⟨_, rfl, rfl⟩, hstatus, hallowed⟩

end Sample

/-! ## A failure that is stored

Two requests for one document are under way, and both found nothing. The answer to the first one is stored. Then the
second one is answered that the method is not implemented, which takes the place of what is stored. -/

namespace Replaced

open Sample

/-- the first request, while the second one arrives -/
def first (r : Request) : Course Unit where
  before := ⟨idle, []⟩
  number := 0
  request := r
  answer := said 200 []
  clock := now
  elapsed := ⟨0⟩
  meanwhile := [.arrival 1 now ⟨0⟩ r]
  later := now
  picks := picks
  taken := ⟨0⟩
  readings := fun _ => ⟨0⟩
  reachable := ⟨_, _, [], new_idle, rfl⟩
  unused := rfl
  others := by simp [Event.number]

/-- the second request, while the first one is answered -/
def second (r : Request) : Course Unit where
  before := (first r).looked
  number := 1
  request := r
  answer := said 501 []
  clock := now
  elapsed := ⟨0⟩
  meanwhile := [.answer 0 now picks ⟨0⟩ (said 200 []) fun _ => ⟨0⟩]
  later := now
  picks := picks
  taken := ⟨0⟩
  readings := fun _ => ⟨0⟩
  reachable := Traffic.step_reachable (first r).reachable _
  unused := Traffic.lookup_step_of_ne _ (by simp [Event.number, first])
  others := by simp [Event.number]

variable {r : Request} (hdoc : Proxy.isForDocument r = true)

include hdoc in
theorem looked_store : (first r).looked.proxy.store = idle.store.touch (first r).key :=
  Traffic.arrival_store_of_absent ⟨idle, []⟩ 0 now ⟨0⟩ hdoc (idle_contents _)

theorem looked_keyOf : (first r).looked.proxy.keyOf r = (first r).key := by
  unfold Course.key Proxy.keyOf
  rw [show (first r).looked.proxy.ignoreHost = idle.ignoreHost from Traffic.step_ignoreHost ⟨idle, []⟩ _]
  rfl

/-- what is stored of such an answer does not expire -/
theorem stored_eq (c : Course Unit) (h : Sound ⟨2, 8, none⟩ c.before.proxy.store) (hlater : c.later = now)
    (status : Nat) :
    c.stored (Proxy.document (said status []) .empty) = (Proxy.document (said status []) .empty, none) := by
  have hwaiting : Sound ⟨2, 8, none⟩ c.waiting.proxy.store := Traffic.run_sound (Traffic.step_sound h _) _
  have hnothing : Decision.ofHeader (Proxy.document (said status []) .empty).header now.moment = .unspecified := by
    rw [Proxy.ofHeader_document]
    exact says_nothing
  unfold Course.stored Entry.lifetime?
  rw [hlater, hwaiting.defaultLifetime, hnothing]
  rfl

include hdoc in
theorem first_stores : (first r).settled.proxy.store.contents =
    Function.update idle.store.contents (first r).key (some (Proxy.document (said 200 []) .empty, none)) := by
  have hnone : (first r).looked.proxy.store.contents ((first r).looked.proxy.keyOf r) = none := by
    rw [looked_store hdoc]
    exact idle_contents _
  have hwaiting : (first r).waiting.proxy.store = (idle.store.touch (first r).key).touch (first r).key := by
    have hstore : (first r).waiting.proxy.store = _ :=
      Traffic.arrival_store_of_absent (first r).looked 1 now ⟨0⟩ hdoc hnone
    rw [hstore, looked_keyOf, looked_store hdoc]
  have hsame : (first r).waiting.proxy.store.contents = idle.store.contents := by
    rw [hwaiting]
    exact contents_congr rfl
  have hfits : (first r).waiting.proxy.store.Fits (first r).key (Proxy.document (said 200 []) .empty) := by
    have hroom : idle.store.Fits (first r).key (Proxy.document (said 200 []) .empty) :=
      fits_new new_idle _ (Nat.zero_le 8)
    rw [hwaiting]
    exact (hroom.touch _).touch _
  have hmissed : (first r).Missed := Course.missed_of_absent (idle_contents (first r).key)
  have hyields : (first r).Yields _ := yields hdoc (by decide) (by rw [says_nothing]; decide)
  rw [Course.stored_of_fits hmissed hyields hfits, stored_eq (first r) (sound_new new_idle) rfl, hsame]

include hdoc in
/-- the answer that comes last takes the place of the other one -/
theorem second_replaces :
    (second r).waiting.proxy.store.contents (second r).key = some (Proxy.document (said 200 []) .empty, none) ∧
    (second r).settled.proxy.store.contents (second r).key = some (Proxy.document (said 501 []) .empty, none) := by
  have hsound : Sound ⟨2, 8, none⟩ (second r).before.proxy.store := Traffic.step_sound (sound_new new_idle) _
  have hkey : (second r).key = (first r).key := looked_keyOf
  have hheld : (second r).waiting.proxy.store.contents (second r).key =
      some (Proxy.document (said 200 []) .empty, none) := by
    have hsame : (second r).waiting = (first r).settled := rfl
    rw [hsame, first_stores hdoc, hkey, Function.update_self]
  have hmissed : (second r).Missed := by
    apply Course.missed_of_absent
    show (first r).looked.proxy.store.contents (second r).key = none
    rw [looked_store hdoc]
    exact idle_contents _
  have hfits : (second r).waiting.proxy.store.Fits (second r).key (Proxy.document (said 501 []) .empty) := by
    have hwaiting : Sound ⟨2, 8, none⟩ (second r).waiting.proxy.store :=
      Traffic.run_sound (Traffic.step_sound hsound _) _
    have hcost := hwaiting.booked.cost_le
    have hempty : ∀ status, (Proxy.document (said status []) .empty).cost = 0 := fun _ => rfl
    refine ⟨fun hnone => absurd (hheld.symm.trans hnone) (by simp), ?_⟩
    rw [hheld]
    simp only [Option.map_some, Option.getD_some, hempty]
    omega
  have hyields : (second r).Yields _ := yields hdoc (by decide) (by rw [says_nothing]; decide)
  refine ⟨hheld, ?_⟩
  rw [Course.stored_of_fits hmissed hyields hfits, stored_eq (second r) hsound rfl, Function.update_self]

/-- a failure of the server takes the place of a document -/
theorem notImplemented_replaces :
    500 ≤ (second asked).answer.response.status ∧ (second asked).answer.response.status < 600 ∧
    (second asked).waiting.proxy.store.contents (second asked).key =
      some (Proxy.document (said 200 []) .empty, none) ∧
    (second asked).settled.proxy.store.contents (second asked).key =
      some (Proxy.document (said 501 []) .empty, none) :=
  ⟨by decide, by decide, second_replaces rfl⟩

end Replaced

end EdgeCache.Exchange
