/-
Requests for the header of a document, beside requests for the document.

- `Proxy.dispatch_eq_steps`: a dispatch is what its steps do, one behind the other.
- `Proxy.settle_proxy`: what the last step leaves does not depend on which of the two was asked for.
- `Dispatched.Agrees`: two dispatches that differ in the body of the response and in how long they took, and in nothing
  else.
- `Proxy.header_like_document`: so do a dispatch for the header and one for the document. The first has no body, unless
  the document breaks off.
-/
import EdgeCache.Exchange.Dispatch
import EdgeCache.Proofs.Exchange.Replies

namespace EdgeCache

open EdgeCache.Exchange EdgeCache.Freshness EdgeCache.Message EdgeCache.Store EdgeCache.Time

variable {Backend : Type}

namespace Message

theorem Header.without_put (h : Header) (name value : String) : (h.put name value).without name = h.without name := by
  unfold put add without
  rw [List.filter_append, List.filter_filter]
  simp

def Request.ofDocument (r : Request) : Request := { r with method := "GET" }

/-- a request for the header of the document alone -/
def Request.ofHeader (r : Request) : Request := { r with method := "HEAD" }

theorem Body.failure_ne_empty : Body.ofText "Failed to read backend response" ≠ .empty := by
  intro h
  have hsize := congrArg (·.octets.size) h
  revert hsize
  decide +kernel

end Message

namespace Exchange

/-- how long it took is told once, and does not count for the rest -/
theorem without_latency_marked (h : Header) (outcome : Outcome) (elapsed elapsed' : Span) :
    (marked h outcome elapsed).without "x-cache-latency" = (marked h outcome elapsed').without "x-cache-latency" := by
  unfold marked
  rw [Header.without_put, Header.without_put]

/-- two dispatches come to the same, but for the body of the response and how long they took -/
structure Dispatched.Agrees (d e : Dispatched Backend) : Prop where
  status : d.response.status = e.response.status
  header : d.response.header.without "x-cache-latency" = e.response.header.without "x-cache-latency"
  latency : (d.response.header.values "x-cache-latency").length = 1 ∧
    (e.response.header.values "x-cache-latency").length = 1
  question : d.question? = e.question?
  proxy : d.proxy = e.proxy

/-- the backend that is asked does not send its document to the end -/
def Dispatched.BreaksOff (d : Dispatched Backend) (around : Surroundings Backend) : Prop :=
  ∃ backend q, d.question? = some (backend, q) ∧ (around.fetch backend q).response.body.read? = none

end Exchange

namespace Proxy

variable {p : Proxy Backend} {around : Surroundings Backend} {delays : Delays} {r : Request} {entry : Entry}

/-! ## Dispatches as steps -/

theorem dispatch_of_answered {response : Response}
    (h : (p.start around.clock delays.elapsed r).1 = .answered response) :
    p.dispatch around delays r = ⟨response, none, (p.start around.clock delays.elapsed r).2⟩ := by
  unfold dispatch
  cases hstart : p.start around.clock delays.elapsed r with
  | mk progress proxy =>
    rw [hstart] at h
    cases h
    rfl

theorem dispatch_of_asking {q : Forwarded} (h : (p.start around.clock delays.elapsed r).1 = .asking q) :
    p.dispatch around delays r =
      let asked := (p.start around.clock delays.elapsed r).2
      let settled := (around.meanwhile asked).settle around.later around.picks delays.taken r
        (around.fetch (asked.hosts.lookup q.host) q) around.readings
      ⟨settled.1, some (asked.hosts.lookup q.host, q), settled.2⟩ := by
  unfold dispatch
  cases hstart : p.start around.clock delays.elapsed r with
  | mk progress proxy =>
    rw [hstart] at h
    cases h
    rfl

/-- a dispatch with nothing in between is an arrival and an answer -/
theorem dispatch_eq_steps {t : Traffic Backend} {number : Nat} (hunused : t.pending.lookup number = none)
    (hnothing : around.meanwhile = id) {a : Answer}
    (hanswer : ∀ backend q, (t.proxy.dispatch around delays r).question? = some (backend, q) → around.fetch backend q = a) :
    let arrived := t.step (.arrival number around.clock delays.elapsed r)
    let answered := arrived.2.step (.answer number around.later around.picks delays.taken a around.readings)
    answered.2.proxy = (t.proxy.dispatch around delays r).proxy ∧
    (arrived.1 = .response number (t.proxy.dispatch around delays r).response ∨
      answered.1 = .response number (t.proxy.dispatch around delays r).response) := by
  have hlookup := Traffic.lookup_arrival_of_none hunused around.clock delays.elapsed r
  have hproxy := Traffic.arrival_proxy t number around.clock delays.elapsed r
  have harrived := Traffic.step_arrival t number around.clock delays.elapsed r
  cases hstart : (t.proxy.start around.clock delays.elapsed r).1 with
  | answered response =>
    rw [hstart] at hlookup harrived
    simp only [dispatch_of_answered hstart]
    rw [Traffic.step_answer_none hlookup]
    refine ⟨hproxy, Or.inl ?_⟩
    rw [harrived]
  | asking q =>
    rw [hstart] at hlookup
    have hsettled := dispatch_of_asking hstart
    simp only [hnothing, id_eq] at hsettled
    rw [hsettled] at hanswer
    have ha := hanswer _ _ rfl
    simp only [hsettled, ha]
    rw [Traffic.step_answer hlookup, hproxy]
    exact ⟨rfl, Or.inr rfl⟩

/-! ## Dispatches for a document -/

theorem dispatch_of_found (hdoc : isForDocument r = true)
    (hget : (p.store.get around.clock.instant (p.keyOf r)).1 = some entry) :
    p.dispatch around delays r =
      ⟨{ entry.toResponse (r.method == "HEAD") with header := marked entry.header .hit delays.elapsed }, none,
        { p with
          store := (p.store.get around.clock.instant (p.keyOf r)).2
          counters := p.counters.hit }⟩ := by
  unfold dispatch
  rw [start_of_found hdoc hget]

/-- the proxy when a backend has answered a request for a document that was not found -/
def waits (p : Proxy Backend) (around : Surroundings Backend) (r : Request) : Proxy Backend :=
  around.meanwhile { p with
    store := (p.store.get around.clock.instant (p.keyOf r)).2
    counters := p.counters.miss }

/-- the answer to a request for a document that is not stored -/
def answerTo (p : Proxy Backend) (around : Surroundings Backend) (r : Request) : Answer :=
  around.fetch (p.hosts.lookup r.host) (.ofRequest r "GET" .empty)

theorem dispatch_of_absent (hdoc : isForDocument r = true)
    (hget : (p.store.get around.clock.instant (p.keyOf r)).1 = none) :
    p.dispatch around delays r =
      ⟨((p.waits around r).settle around.later around.picks delays.taken r (p.answerTo around r) around.readings).1,
        some (p.hosts.lookup r.host, .ofRequest r "GET" .empty),
        ((p.waits around r).settle around.later around.picks delays.taken r (p.answerTo around r) around.readings).2⟩ := by
  unfold dispatch
  rw [start_of_absent hdoc hget]
  rfl

/-- what the last step leaves depends neither on the method of a request for a document, nor on how long it took -/
theorem settle_proxy (p : Proxy Backend) (clock : Clock) (picks : Nat → Pick) (elapsed elapsed' : Span) (r : Request)
    (a : Answer) (readings : Nat → Instant) :
    (p.settle clock picks elapsed r.ofHeader a readings).2 = (p.settle clock picks elapsed' r.ofDocument a readings).2 := by
  have hheader : isForDocument r.ofHeader = true := rfl
  have hdocument : isForDocument r.ofDocument = true := rfl
  unfold settle
  rw [if_pos hheader, if_pos hdocument]
  unfold settleDocument
  cases a.response.body.read? <;> rfl

/-! ## The header alone -/

/-- a dispatch for the header comes to the same as one for the document, when the document is in the store -/
theorem header_like_document_of_found (hget : (p.store.get around.clock.instant (p.keyOf r)).1 = some entry)
    (delays' : Delays) : (p.dispatch around delays r.ofHeader).Agrees (p.dispatch around delays' r.ofDocument) := by
  rw [dispatch_of_found rfl (r := r.ofHeader) hget, dispatch_of_found rfl (r := r.ofDocument) hget]
  refine ⟨rfl, without_latency_marked .., ⟨?_, ?_⟩, rfl, rfl⟩
  · rw [values_marked_latency]
    rfl
  · rw [values_marked_latency]
    rfl

theorem settle_latency (hdoc : isForDocument r = true) (q : Proxy Backend) (clock : Clock) (picks : Nat → Pick)
    (elapsed : Span) (a : Answer) (readings : Nat → Instant) :
    ((q.settle clock picks elapsed r a readings).1.header.values "x-cache-latency").length = 1 := by
  cases hbody : a.response.body.read? with
  | none =>
    rw [settle_of_broken hdoc hbody, values_marked_latency]
    rfl
  | some body =>
    rw [settle_of_whole hdoc hbody, values_marked_latency]
    rfl

/-- and so it does when a backend is asked, whatever the answer is -/
theorem header_like_document_of_absent (hget : (p.store.get around.clock.instant (p.keyOf r)).1 = none)
    (delays' : Delays) : (p.dispatch around delays r.ofHeader).Agrees (p.dispatch around delays' r.ofDocument) := by
  rw [dispatch_of_absent rfl (r := r.ofHeader) hget, dispatch_of_absent rfl (r := r.ofDocument) hget]
  have hanswer : p.answerTo around r.ofHeader = p.answerTo around r.ofDocument := rfl
  have hwaits : p.waits around r.ofHeader = p.waits around r.ofDocument := rfl
  rw [hanswer, hwaits]
  refine ⟨?_, ?_, ⟨settle_latency rfl .., settle_latency rfl ..⟩, rfl, settle_proxy ..⟩
  · cases hbody : (p.answerTo around r.ofDocument).response.body.read? with
    | none => rw [settle_of_broken rfl hbody, settle_of_broken rfl hbody]
    | some body => rw [settle_of_whole rfl hbody, settle_of_whole rfl hbody]
  · cases hbody : (p.answerTo around r.ofDocument).response.body.read? with
    | none =>
      rw [settle_of_broken rfl hbody, settle_of_broken rfl hbody]
      exact without_latency_marked ..
    | some body =>
      rw [settle_of_whole rfl hbody, settle_of_whole rfl hbody]
      exact without_latency_marked ..

theorem not_breaksOff_of_found (hdoc : isForDocument r = true)
    (hget : (p.store.get around.clock.instant (p.keyOf r)).1 = some entry) :
    ¬(p.dispatch around delays r).BreaksOff around := by
  rw [dispatch_of_found hdoc hget]
  rintro ⟨backend, q, hnone, -⟩
  cases hnone

theorem breaksOff_iff_of_absent (hdoc : isForDocument r = true)
    (hget : (p.store.get around.clock.instant (p.keyOf r)).1 = none) :
    (p.dispatch around delays r).BreaksOff around ↔ (p.answerTo around r).response.body.read? = none := by
  rw [dispatch_of_absent hdoc hget]
  constructor
  · rintro ⟨backend, q, hasked, hbroken⟩
    cases hasked
    exact hbroken
  · intro hbroken
    exact ⟨_, _, rfl, hbroken⟩

theorem body_of_breaksOff (hdoc : isForDocument r = true) (hbreaks : (p.dispatch around delays r).BreaksOff around) :
    (p.dispatch around delays r).response.body = .ofText "Failed to read backend response" := by
  cases hget : (p.store.get around.clock.instant (p.keyOf r)).1 with
  | some entry => exact absurd hbreaks (not_breaksOff_of_found hdoc hget)
  | none =>
    have hbroken := (breaksOff_iff_of_absent hdoc hget).1 hbreaks
    rw [dispatch_of_absent hdoc hget, settle_of_broken hdoc hbroken]
    rfl

/-- a response to a request for the header has no body, if the document does not break off -/
theorem body_of_not_breaksOff (h : ¬(p.dispatch around delays r.ofHeader).BreaksOff around) :
    (p.dispatch around delays r.ofHeader).response.body = .empty := by
  cases hget : (p.store.get around.clock.instant (p.keyOf r.ofHeader)).1 with
  | some entry => rw [dispatch_of_found rfl hget]; rfl
  | none =>
    rw [breaksOff_iff_of_absent rfl hget] at h
    obtain ⟨body, hbody⟩ := Option.ne_none_iff_exists'.1 h
    rw [dispatch_of_absent rfl hget, settle_of_whole rfl hbody]
    rfl

theorem question_is_get (hdoc : isForDocument r = true) {backend : Backend} {q : Forwarded}
    (hasked : (p.dispatch around delays r).question? = some (backend, q)) : q.method = "GET" ∧ q.body = .empty := by
  cases hget : (p.store.get around.clock.instant (p.keyOf r)).1 with
  | some entry =>
    rw [dispatch_of_found hdoc hget] at hasked
    cases hasked
  | none =>
    rw [dispatch_of_absent hdoc hget] at hasked
    cases hasked
    exact ⟨rfl, rfl⟩

/-- **A request for the header is one for the document without its body.** From every state of the proxy, whatever backends
answer and whatever happens meanwhile, both get the same status and the same header but for the time that it tells, ask
the same of the same backend, namely for the document, and leave the same store, popularity and totals. The response to the
first has no body if and only if the document does not break off. If it does, the response has the text that tells so, as
the one to the second. -/
theorem header_like_document (p : Proxy Backend) (around : Surroundings Backend) (delays delays' : Delays) (r : Request) :
    (p.dispatch around delays r.ofHeader).Agrees (p.dispatch around delays' r.ofDocument) ∧
    (∀ backend q, (p.dispatch around delays r.ofHeader).question? = some (backend, q) →
      q.method = "GET" ∧ q.body = .empty) ∧
    ((p.dispatch around delays r.ofHeader).response.body = .empty ↔
      ¬(p.dispatch around delays r.ofHeader).BreaksOff around) ∧
    ((p.dispatch around delays r.ofHeader).BreaksOff around →
      (p.dispatch around delays r.ofHeader).response.body = .ofText "Failed to read backend response") := by
  refine ⟨?_, fun _ _ => question_is_get rfl, ⟨?_, body_of_not_breaksOff⟩, body_of_breaksOff rfl⟩
  · cases hget : (p.store.get around.clock.instant (p.keyOf r)).1 with
    | some entry => exact header_like_document_of_found hget delays'
    | none => exact header_like_document_of_absent hget delays'
  · intro hempty hbreaks
    rw [body_of_breaksOff rfl hbreaks] at hempty
    exact Body.failure_ne_empty hempty

end Proxy

/-! ## A document that breaks off -/

namespace Exchange.Sample

/-- a backend that sends a part of its document only -/
def failing : Surroundings Unit where
  clock := now
  fetch := fun _ _ => ⟨⟨200, [], ⟨"part".toUTF8, false, false⟩⟩, true⟩
  meanwhile := id
  later := now
  picks := picks
  readings := fun _ => ⟨0⟩

/-- the header alone is asked for, and the response has a body -/
theorem header_with_body :
    (idle.dispatch failing ⟨⟨0⟩, ⟨0⟩⟩ asked.ofHeader).response.status = 500 ∧
    (idle.dispatch failing ⟨⟨0⟩, ⟨0⟩⟩ asked.ofHeader).response.body = .ofText "Failed to read backend response" ∧
    (idle.dispatch failing ⟨⟨0⟩, ⟨0⟩⟩ asked.ofHeader).response.body ≠ .empty := by
  have hget : (idle.store.get now.instant (idle.keyOf asked.ofHeader)).1 = none := by
    rw [ResponseStore.get_of_absent (idle_contents _)]
  have hbreaks : (idle.dispatch failing ⟨⟨0⟩, ⟨0⟩⟩ asked.ofHeader).BreaksOff failing :=
    (Proxy.breaksOff_iff_of_absent rfl hget).2 rfl
  obtain ⟨-, -, hbody, htext⟩ := Proxy.header_like_document idle failing ⟨⟨0⟩, ⟨0⟩⟩ ⟨⟨0⟩, ⟨0⟩⟩ asked
  refine ⟨?_, htext hbreaks, fun hempty => hbody.1 hempty hbreaks⟩
  rw [Proxy.dispatch_of_absent rfl hget, Proxy.settle_of_broken rfl rfl]
  rfl

end Exchange.Sample

end EdgeCache
