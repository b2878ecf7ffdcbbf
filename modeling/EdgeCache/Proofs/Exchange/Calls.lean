/-
What exchanges do to the store. The first step of one looks up the key of its request. The last step makes at most one
call, which stores the document in the answer.

- `start_of_found`, `start_of_absent`, `start_of_other`: the three ways of the first step.
- `settle_store`: the call that the last step makes; `settleCall?_eq_some` and `settleCall?_of_yields`: when it makes
  one, and which.
- `step_answer`, `lookup_step_of_ne`: what waits is settled by its own answer alone.
-/
import EdgeCache.Exchange.Journal
import EdgeCache.Proofs.Freshness.Directives

namespace EdgeCache.Proxy

open EdgeCache.Exchange EdgeCache.Freshness EdgeCache.Message EdgeCache.Store EdgeCache.Time

variable {Backend : Type} {p : Proxy Backend} {clock : Clock} {elapsed : Span} {picks : Nat → Pick} {r : Request}
  {a : Answer} {readings : Nat → Instant} {key : Key} {entry : Entry} {call : Call}

/-! ## Documents -/

/-- the proxy and the length of the body are all that is added to what reaches the other side -/
theorem values_document (a : Answer) (body : ByteArray) {name : String} (hvia : name ≠ "via")
    (hlength : name ≠ "content-length") :
    (document a body).header.values name = a.response.header.endToEnd.values name := by
  unfold document returnedHeader
  rw [Header.values_put_of_ne _ _ hlength, Header.values_add_of_ne _ _ hvia]

/-- a document is stored or not by the fields that came with it and reach the other side -/
theorem ofHeader_document (a : Answer) (body : ByteArray) (now : Moment) :
    Decision.ofHeader (document a body).header now = Decision.ofHeader a.response.header.endToEnd now :=
  ofHeader_congr (values_document a body (by decide) (by decide)) (values_document a body (by decide) (by decide))
    (values_document a body (by decide) (by decide)) now

/-! ## The first step -/

theorem keyOf_method (p : Proxy Backend) (r : Request) (method : String) :
    p.keyOf { r with method } = p.keyOf r := rfl

theorem start_of_found (hdoc : isForDocument r = true) (hget : (p.store.get clock.instant (p.keyOf r)).1 = some entry) :
    p.start clock elapsed r =
      (.answered { entry.toResponse (r.method == "HEAD") with header := marked entry.header .hit elapsed },
        { p with store := (p.store.get clock.instant (p.keyOf r)).2, counters := p.counters.hit }) := by
  unfold start
  rw [if_pos hdoc]
  cases hg : p.store.get clock.instant (p.keyOf r) with
  | mk found store =>
    rw [hg] at hget
    cases hget
    rfl

theorem start_of_absent (hdoc : isForDocument r = true) (hget : (p.store.get clock.instant (p.keyOf r)).1 = none) :
    p.start clock elapsed r =
      (.asking (.ofRequest r "GET" .empty),
        { p with store := (p.store.get clock.instant (p.keyOf r)).2, counters := p.counters.miss }) := by
  unfold start
  rw [if_pos hdoc]
  cases hg : p.store.get clock.instant (p.keyOf r) with
  | mk found store =>
    rw [hg] at hget
    cases hget
    rfl

theorem start_of_other (hdoc : isForDocument r = false) : (p.start clock elapsed r).2 = p := by
  unfold start
  rw [if_neg (by rw [hdoc]; decide)]
  cases r.body.read? with
  | none => rfl
  | some body => rfl

theorem start_store (p : Proxy Backend) (clock : Clock) (elapsed : Span) (r : Request) :
    (p.start clock elapsed r).2.store =
      if isForDocument r then (p.store.get clock.instant (p.keyOf r)).2 else p.store := by
  cases hdoc : isForDocument r with
  | false => rw [start_of_other hdoc]; rfl
  | true =>
    rw [if_pos rfl]
    cases hget : (p.store.get clock.instant (p.keyOf r)).1 with
    | none => rw [start_of_absent hdoc hget]
    | some entry => rw [start_of_found hdoc hget]

theorem start_ignoreHost (p : Proxy Backend) (clock : Clock) (elapsed : Span) (r : Request) :
    (p.start clock elapsed r).2.ignoreHost = p.ignoreHost := by
  cases hdoc : isForDocument r with
  | false => rw [start_of_other hdoc]
  | true =>
    cases hget : (p.store.get clock.instant (p.keyOf r)).1 with
    | none => rw [start_of_absent hdoc hget]
    | some entry => rw [start_of_found hdoc hget]

theorem absent_of_asking {question : Forwarded} (hdoc : isForDocument r = true)
    (h : (p.start clock elapsed r).1 = .asking question) :
    (p.store.get clock.instant (p.keyOf r)).1 = none := by
  cases hget : (p.store.get clock.instant (p.keyOf r)).1 with
  | none => rfl
  | some entry =>
    rw [start_of_found hdoc hget] at h
    cases h

/-! ## The last step -/

/-- a call stores an entry for the lifetime that its header gives it -/
structure Keeps (call : Call) (clock : Clock) (picks : Nat → Pick) (key : Key) (entry : Entry)
    (readings : Nat → Instant) : Prop where
  about : call.key? = some key
  perform : ∀ s, call.perform s =
    (.done (s.insert clock.instant picks key entry (entry.lifetime? clock.moment s.defaultLifetime) readings).1,
      (s.insert clock.instant picks key entry (entry.lifetime? clock.moment s.defaultLifetime) readings).2)
  rounds : ∀ s, call.rounds s =
    s.insertRounds clock.instant readings picks key entry (entry.lifetime? clock.moment s.defaultLifetime)

theorem keep_store (s : ResponseStore) (clock : Clock) (picks : Nat → Pick) (key : Key) (entry : Entry)
    (readings : Nat → Instant) :
    (keep s clock picks key entry readings).2 =
      match keepCall? clock picks key entry readings with
      | some call => (call.perform s).2
      | none => s := by
  unfold keep keepCall?
  cases Decision.ofHeader entry.header clock.moment with
  | forbidden => rfl
  | unspecified => rfl
  | lifetime d => rfl

theorem keeps_of_allowed (clock : Clock) (picks : Nat → Pick) (key : Key) (readings : Nat → Instant)
    (h : Decision.ofHeader entry.header clock.moment ≠ .forbidden) :
    ∃ call, keepCall? clock picks key entry readings = some call ∧ Keeps call clock picks key entry readings := by
  unfold keepCall?
  cases hd : Decision.ofHeader entry.header clock.moment with
  | forbidden => exact absurd hd h
  | lifetime d =>
    have hlife : ∀ default, entry.lifetime? clock.moment default = some d := by
      intro default
      unfold Entry.lifetime?
      rw [hd]; rfl
    exact ⟨_, rfl, rfl, fun s => by rw [hlife]; rfl, fun s => by rw [hlife]; rfl⟩
  | unspecified =>
    have hlife : ∀ default, entry.lifetime? clock.moment default = default := by
      intro default
      unfold Entry.lifetime?
      rw [hd]; rfl
    refine ⟨_, rfl, rfl, ?_, ?_⟩
    · intro s
      have hset : s.set clock picks key entry readings =
          s.insert clock.instant picks key entry s.defaultLifetime readings := by
        unfold ResponseStore.set
        simp only [hd]
      show (Reply.done (s.set clock picks key entry readings).1, (s.set clock picks key entry readings).2) = _
      rw [hset, hlife]
    · intro s
      unfold Call.rounds
      simp only [hd, hlife]

theorem allowed_of_keepCall? (h : keepCall? clock picks key entry readings = some call) :
    Decision.ofHeader entry.header clock.moment ≠ .forbidden := by
  intro hd
  unfold keepCall? at h
  rw [hd] at h
  cases h

/-- the last step of an exchange makes this call of the store, or none -/
theorem settle_store (p : Proxy Backend) (clock : Clock) (picks : Nat → Pick) (elapsed : Span) (r : Request)
    (a : Answer) (readings : Nat → Instant) :
    (p.settle clock picks elapsed r a readings).2.store =
      match p.settleCall? clock picks r a readings with
      | some call => (call.perform p.store).2
      | none => p.store := by
  unfold settle settleCall?
  cases hdoc : isForDocument r with
  | false => rfl
  | true =>
    simp only [if_true, Bool.true_and]
    unfold settleDocument
    cases hbody : a.response.body.read? with
    | none => cases a.reached <;> rfl
    | some body =>
      have hstatus : (document a body).status = a.response.status := rfl
      cases hreached : a.reached with
      | false => rfl
      | true =>
        simp only [hstatus, Bool.true_and, if_true]
        by_cases hs : storableStatuses.contains a.response.status = true
        · rw [if_pos hs, if_pos hs]
          exact keep_store p.store clock picks (p.keyOf r) (document a body) readings
        · rw [if_neg hs, if_neg hs]

theorem settle_ignoreHost (p : Proxy Backend) (clock : Clock) (picks : Nat → Pick) (elapsed : Span) (r : Request)
    (a : Answer) (readings : Nat → Instant) :
    (p.settle clock picks elapsed r a readings).2.ignoreHost = p.ignoreHost := by
  unfold settle
  cases isForDocument r with
  | false => rfl
  | true =>
    rw [if_pos rfl]
    unfold settleDocument
    cases a.response.body.read? <;> rfl

theorem settleCall?_eq_some (h : p.settleCall? clock picks r a readings = some call) :
    ∃ entry, Fetch.Yields ⟨r, a⟩ clock.moment entry ∧ Keeps call clock picks (p.keyOf r) entry readings := by
  unfold settleCall? at h
  by_cases hgood : (isForDocument r && a.reached) = true
  · rw [if_pos hgood] at h
    obtain ⟨hdoc, hreached⟩ := Bool.and_eq_true_iff.1 hgood
    cases hbody : a.response.body.read? with
    | none => rw [hbody] at h; cases h
    | some body =>
      rw [hbody] at h
      simp only at h
      by_cases hs : storableStatuses.contains a.response.status = true
      · rw [if_pos hs] at h
        have hallowed := allowed_of_keepCall? h
        obtain ⟨call', hcall, hkeeps⟩ := keeps_of_allowed clock picks (p.keyOf r) readings hallowed
        obtain rfl : call = call' := Option.some.inj (h.symm.trans hcall)
        rw [ofHeader_document] at hallowed
        exact ⟨document a body, ⟨hdoc, hreached, ⟨body, hbody, rfl⟩, List.contains_iff_mem.1 hs, hallowed⟩, hkeeps⟩
      · rw [if_neg hs] at h; cases h
  · rw [if_neg hgood] at h; cases h

theorem settleCall?_of_yields (p : Proxy Backend) (picks : Nat → Pick) (readings : Nat → Instant)
    (h : Fetch.Yields ⟨r, a⟩ clock.moment entry) :
    ∃ call, p.settleCall? clock picks r a readings = some call ∧ Keeps call clock picks (p.keyOf r) entry readings := by
  obtain ⟨hdoc, hreached, ⟨body, hbody, rfl⟩, hstatus, hallowed⟩ := h
  have hallowed' : Decision.ofHeader (document a body).header clock.moment ≠ .forbidden := by
    rw [ofHeader_document]; exact hallowed
  obtain ⟨call, hcall, hkeeps⟩ := keeps_of_allowed clock picks (p.keyOf r) readings hallowed'
  refine ⟨call, ?_, hkeeps⟩
  have hgood : (isForDocument r && a.reached) = true := Bool.and_eq_true_iff.2 ⟨hdoc, hreached⟩
  have hs : storableStatuses.contains a.response.status = true := List.contains_iff_mem.2 hstatus
  unfold settleCall?
  rw [if_pos hgood, hbody]
  simp only
  rw [if_pos hs, hcall]

end EdgeCache.Proxy

namespace EdgeCache.Exchange.Traffic

open EdgeCache.Message EdgeCache.Store EdgeCache.Time

variable {Backend : Type} {t : Traffic Backend} {number : Nat}

/-! ## Waiting for a backend -/

/-- a request that is answered at once does not wait; any other one does -/
theorem step_arrival (t : Traffic Backend) (number : Nat) (clock : Clock) (elapsed : Span) (r : Request) :
    t.step (.arrival number clock elapsed r) =
      match (t.proxy.start clock elapsed r).1 with
      | .answered response => (.response number response, ⟨(t.proxy.start clock elapsed r).2, t.pending⟩)
      | .asking question =>
        (.question number ((t.proxy.start clock elapsed r).2.hosts.lookup question.host) question,
          ⟨(t.proxy.start clock elapsed r).2, t.pending ++ [(number, r)]⟩) := by
  unfold step
  simp only
  cases hstart : t.proxy.start clock elapsed r with
  | mk progress proxy =>
    cases progress with
    | answered response => rfl
    | asking question => rfl

theorem arrival_proxy (t : Traffic Backend) (number : Nat) (clock : Clock) (elapsed : Span) (r : Request) :
    (t.step (.arrival number clock elapsed r)).2.proxy = (t.proxy.start clock elapsed r).2 := by
  rw [step_arrival]
  cases (t.proxy.start clock elapsed r).1 with
  | answered response => rfl
  | asking question => rfl

/-- who waits goes on waiting when a request arrives -/
theorem lookup_arrival_of_some {r' : Request} (h : t.pending.lookup number = some r') (n : Nat) (clock : Clock)
    (elapsed : Span) (r : Request) :
    (t.step (.arrival n clock elapsed r)).2.pending.lookup number = some r' := by
  rw [step_arrival]
  cases (t.proxy.start clock elapsed r).1 with
  | answered response => exact h
  | asking question =>
    show (t.pending ++ [(n, r)]).lookup number = some r'
    rw [List.lookup_append, h]
    rfl

/-- a number under which nobody waited is that of a request that is not answered at once -/
theorem lookup_arrival_of_none (h : t.pending.lookup number = none) (clock : Clock) (elapsed : Span) (r : Request) :
    (t.step (.arrival number clock elapsed r)).2.pending.lookup number =
      match (t.proxy.start clock elapsed r).1 with
      | .answered _ => none
      | .asking _ => some r := by
  rw [step_arrival]
  cases (t.proxy.start clock elapsed r).1 with
  | answered response => exact h
  | asking question =>
    show (t.pending ++ [(number, r)]).lookup number = some r
    rw [List.lookup_append, h, Directory.lookup_of_eq rfl]
    rfl

theorem step_answer {r : Request} (h : t.pending.lookup number = some r) (clock : Clock) (picks : Nat → Pick)
    (elapsed : Span) (a : Answer) (readings : Nat → Instant) :
    t.step (.answer number clock picks elapsed a readings) =
      (.response number (t.proxy.settle clock picks elapsed r a readings).1,
        ⟨(t.proxy.settle clock picks elapsed r a readings).2, t.settled number⟩) := by
  unfold step
  simp only [h]

theorem step_answer_none (h : t.pending.lookup number = none) (clock : Clock) (picks : Nat → Pick)
    (elapsed : Span) (a : Answer) (readings : Nat → Instant) :
    t.step (.answer number clock picks elapsed a readings) = (.nothing, t) := by
  unfold step
  simp only [h]

theorem lookup_settled_of_ne (t : Traffic Backend) {number other : Nat} (h : other ≠ number) :
    (t.settled number).lookup other = t.pending.lookup other := Directory.lookup_filter_of_ne h t.pending

/-- what happens to an exchange leaves the others waiting, or not, as they were -/
theorem lookup_step_of_ne (t : Traffic Backend) {e : Event} (h : e.number ≠ number) :
    (t.step e).2.pending.lookup number = t.pending.lookup number := by
  cases e with
  | arrival n clock elapsed r =>
    have hne : number ≠ n := Ne.symm h
    rw [step_arrival]
    cases (t.proxy.start clock elapsed r).1 with
    | answered response => rfl
    | asking question =>
      show (t.pending ++ [(n, r)]).lookup number = _
      rw [List.lookup_append, Directory.lookup_of_ne hne]
      simp
  | answer n clock picks elapsed a readings =>
    have hne : number ≠ n := Ne.symm h
    cases hn : t.pending.lookup n with
    | none => rw [step_answer_none hn]
    | some r =>
      rw [step_answer hn]
      exact lookup_settled_of_ne t hne
  | abandonment n => exact lookup_settled_of_ne t (Ne.symm h)

theorem lookup_run_of_ne (t : Traffic Backend) {events : List Event} (h : ∀ e ∈ events, e.number ≠ number) :
    (t.run events).2.pending.lookup number = t.pending.lookup number := by
  induction events generalizing t with
  | nil => rfl
  | cons e events ih =>
    have hrest := ih (t.step e).2 fun e he => h e (List.mem_cons_of_mem _ he)
    exact hrest.trans (lookup_step_of_ne t (h e List.mem_cons_self))

end EdgeCache.Exchange.Traffic
