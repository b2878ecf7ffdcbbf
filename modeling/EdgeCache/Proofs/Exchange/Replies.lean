/-
What goes out at a step, and where it comes from.

- `Journal.question_of_step`: a question is the request that arrives, as it is sent on to a backend.
- `Exit`, `Journal.exit_of_step`: every response is a document from the store, a document from a backend, an answer that is
  passed on, or one of two short texts of the proxy's own.
- `Document.of_marked`: the header of a document is what is left of the header that a backend sent, and what the proxy
  writes itself.
-/
import EdgeCache.Proofs.Exchange.Balance
import EdgeCache.Proofs.Message.HopByHop

namespace EdgeCache

open EdgeCache.Exchange EdgeCache.Freshness EdgeCache.Message EdgeCache.Store EdgeCache.Time

variable {Backend : Type} {limits : Limits}

/-- the finite lifetime for which a decision lets an answer be stored -/
def Freshness.Decision.finite? (default : Option Span) : Decision → Option Span
  | .forbidden => none
  | .lifetime d => some d
  | .unspecified => default

namespace Exchange

/-- the finite lifetime that is announced with an answer: the backend was reached, the status may be stored, and the
header that goes on to the client gives it one -/
def Fetch.announced? (f : Fetch) (default : Option Span) (now : Moment) : Option Span :=
  if f.answer.reached && storableStatuses.contains f.answer.response.status then
    (Decision.ofHeader f.answer.response.header.endToEnd now).finite? default
  else none

/-! ## The header of a document -/

/-- the names that the proxy writes itself into the header of a document -/
def ownNames (lifetime : Option Span) : List String :=
  ["x-cache-latency", "x-cache"] ++ (lifetime.map fun _ => "x-cache-ttl").toList ++ ["content-length", "via"]

/-- the header of a document: what is left of the header that a backend sent, with the proxy added to those that it came
through, the length of the body, where the response is from, how long that took, and the lifetime if one is announced -/
structure Document (source : Header) (size : Nat) (lifetime : Option Span) (outcome : Outcome) (elapsed : Span)
    (sent : Header) : Prop where
  relays : Relays source (ownNames lifetime) sent
  cameThrough : ∃ earlier, Leaves source "via" earlier ∧ sent.values "via" = earlier ++ [via]
  length : sent.values "content-length" = [toString size]
  cache : sent.values "x-cache" = [outcome.text]
  latency : sent.values "x-cache-latency" = [elapsed.rounded]
  ttl : ∀ d, lifetime = some d → sent.values "x-cache-ttl" = [d.compound]

theorem values_marked_latency (h : Header) (outcome : Outcome) (elapsed : Span) :
    (marked h outcome elapsed).values "x-cache-latency" = [elapsed.rounded] := Header.values_put_self ..

theorem values_marked_of_ne (h : Header) (outcome : Outcome) (elapsed : Span) {name : String} (hcache : name ≠ "x-cache")
    (hlatency : name ≠ "x-cache-latency") : (marked h outcome elapsed).values name = h.values name := by
  unfold marked
  rw [Header.values_put_of_ne _ _ hlatency, Header.values_put_of_ne _ _ hcache]

theorem values_announced_of_ne (h : Header) (lifetime : Option Span) {name : String} (httl : name ≠ "x-cache-ttl") :
    (announced h lifetime).values name = h.values name := by
  cases lifetime with
  | none => rfl
  | some d => exact Header.values_put_of_ne _ _ httl

theorem values_plain (status : Nat) (text : String) {name : String} (hname : name ≠ "content-type") :
    (Response.plain status text).header.values name = [] := by
  unfold Response.plain Header.values
  simp [Ne.symm hname]

/-- what the proxy makes of the header that came with an answer -/
theorem Document.of_marked (a : Answer) (body : ByteArray) (lifetime : Option Span) (outcome : Outcome) (elapsed : Span) :
    Document a.response.header body.size lifetime outcome elapsed
      (marked (announced (Proxy.document a body).header lifetime) outcome elapsed) := by
  have hentry : Relays a.response.header ["content-length", "via"] (Proxy.document a body).header :=
    ((Relays.endToEnd a.response.header).add "via" via).put "content-length" (toString body.size)
  refine ⟨?_, ?_, ?_, values_marked _ _ _, values_marked_latency _ _ _, ?_⟩
  · cases lifetime with
    | none => exact (hentry.put "x-cache" outcome.text).put "x-cache-latency" elapsed.rounded
    | some d =>
      exact ((hentry.put "x-cache-ttl" d.compound).put "x-cache" outcome.text).put "x-cache-latency" elapsed.rounded
  · refine ⟨_, Header.leaves_endToEnd a.response.header "via", ?_⟩
    rw [values_marked_of_ne _ _ _ (by decide) (by decide), values_announced_of_ne _ _ (by decide)]
    unfold Proxy.document returnedHeader
    rw [Header.values_put_of_ne _ _ (by decide), Header.values_add_self]
  · rw [values_marked_of_ne _ _ _ (by decide) (by decide), values_announced_of_ne _ _ (by decide)]
    exact Header.values_put_self ..
  · rintro d rfl
    rw [values_marked_of_ne _ _ _ (by decide) (by decide)]
    exact Header.values_put_self ..

/-- where no lifetime is announced there is only what is left of one that a backend sent -/
theorem Document.ttl_of_none {source sent : Header} {size : Nat} {outcome : Outcome} {elapsed : Span}
    (h : Document source size none outcome elapsed sent) :
    sent.values "x-cache-ttl" = source.endToEnd.values "x-cache-ttl" := by
  have hleaves : Leaves source "x-cache-ttl" (sent.values "x-cache-ttl") := h.relays.others _ (by decide)
  exact hleaves.unique (Header.leaves_endToEnd source "x-cache-ttl")

/-! ## Ways out -/

/-- where a response comes from, and what goes into it -/
inductive Exit where
  /-- a document that was stored -/
  | found (d : Deposit) (body : ByteArray) (elapsed : Span)
  /-- the body of another request cannot be read -/
  | refused
  /-- a document of which the answer has come -/
  | fetched (f : Fetch) (body : ByteArray) (now : Moment) (elapsed : Span)
  /-- a document that breaks off -/
  | broken (f : Fetch) (elapsed : Span)
  /-- another answer -/
  | passed (f : Fetch)

def Exit.response (default : Option Span) (r : Request) : Exit → Response
  | .found d body elapsed =>
    { status := d.fetch.answer.response.status
      header := marked (Proxy.document d.fetch.answer body).header .hit elapsed
      body := if r.method = "HEAD" then .empty else .ofOctets body }
  | .refused => .plain 400 "Failed to read request body"
  | .fetched f body now elapsed =>
    { status := f.answer.response.status
      header := marked (announced (Proxy.document f.answer body).header (f.announced? default now)) .miss elapsed
      body := if r.method = "HEAD" then .empty else .ofOctets body }
  | .broken _ elapsed =>
    { Response.plain 500 "Failed to read backend response" with
      header := marked (Response.plain 500 "Failed to read backend response").header .miss elapsed }
  | .passed f => { f.answer.response with header := returnedHeader f.answer.response.header }

/-- where a document breaks off, the proxy tells the type of its text, and marks it -/
theorem Exit.values_broken (f : Fetch) (elapsed : Span) (default : Option Span) (r : Request) {name : String}
    (htype : name ≠ "content-type") (hcache : name ≠ "x-cache") (hlatency : name ≠ "x-cache-latency") :
    ((Exit.broken f elapsed).response default r).header.values name = [] := by
  unfold Exit.response
  rw [values_marked_of_ne _ _ _ hcache hlatency]
  exact values_plain _ _ htype

theorem Deposit.Answers.response_eq {d : Deposit} {r : Request} {elapsed : Span} {body : ByteArray} {response : Response}
    (h : d.Answers r elapsed body response) {default : Option Span} :
    response = (Exit.found d body elapsed).response default r := by
  obtain ⟨-, -, hstatus, hheader, hbody⟩ := h
  cases response
  cases hstatus
  cases hheader
  cases hbody
  rfl

end Exchange

/-! ## The first step and the last -/

namespace Proxy

variable {p : Proxy Backend} {clock : Clock} {picks : Nat → Pick} {elapsed : Span} {r : Request} {a : Answer}
  {readings : Nat → Instant}

/-- what is asked of a backend is the request, sent on with a method and a body -/
theorem ofRequest_of_asking {q : Forwarded} (h : (p.start clock elapsed r).1 = .asking q) :
    ∃ method body, q = .ofRequest r method body := by
  cases hdoc : isForDocument r with
  | true =>
    cases hget : (p.store.get clock.instant (p.keyOf r)).1 with
    | some entry =>
      rw [start_of_found hdoc hget] at h
      cases h
    | none =>
      rw [start_of_absent hdoc hget] at h
      cases h
      exact ⟨"GET", .empty, rfl⟩
  | false =>
    cases hbody : r.body.read? with
    | none =>
      rw [start_of_unreadable hdoc hbody] at h
      cases h
    | some body =>
      rw [start_of_readable hdoc hbody] at h
      cases h
      exact ⟨r.method, body, rfl⟩

theorem keep_lifetime (s : ResponseStore) (clock : Clock) (picks : Nat → Pick) (key : Key) (entry : Entry)
    (readings : Nat → Instant) :
    (keep s clock picks key entry readings).1 =
      (Decision.ofHeader entry.header clock.moment).finite? s.defaultLifetime := by
  unfold keep
  cases Decision.ofHeader entry.header clock.moment <;> rfl

/-- the lifetime that is announced is the one that the last step finds -/
theorem announced?_eq (p : Proxy Backend) (clock : Clock) (picks : Nat → Pick) (r : Request) (a : Answer)
    (body : ByteArray) (readings : Nat → Instant) :
    (if a.reached && storableStatuses.contains (document a body).status then
      keep p.store clock picks (p.keyOf r) (document a body) readings else (none, p.store)).1 =
      Fetch.announced? ⟨r, a⟩ p.store.defaultLifetime clock.moment := by
  unfold Fetch.announced?
  rw [apply_ite Prod.fst, keep_lifetime, ofHeader_document]
  rfl

theorem settle_of_whole (hdoc : isForDocument r = true) {body : ByteArray} (hbody : a.response.body.read? = some body) :
    (p.settle clock picks elapsed r a readings).1 =
      { status := a.response.status
        header := marked (announced (document a body).header
          (Fetch.announced? ⟨r, a⟩ p.store.defaultLifetime clock.moment)) .miss elapsed
        body := if r.method = "HEAD" then .empty else .ofOctets body } := by
  have hcounted := announced?_eq { p with counters := p.counters.failureIf (!a.reached) } clock picks r a body readings
  unfold settle
  rw [if_pos hdoc]
  unfold settleDocument
  rw [hbody]
  simp only [hcounted]
  rfl

theorem settle_of_broken (hdoc : isForDocument r = true) (hbody : a.response.body.read? = none) :
    (p.settle clock picks elapsed r a readings).1 =
      { Response.plain 500 "Failed to read backend response" with
        header := marked (Response.plain 500 "Failed to read backend response").header .miss elapsed } := by
  unfold settle
  rw [if_pos hdoc]
  unfold settleDocument
  rw [hbody]

theorem settle_of_other (hdoc : isForDocument r = false) :
    (p.settle clock picks elapsed r a readings).1 =
      { a.response with header := returnedHeader a.response.header } := by
  unfold settle
  rw [if_neg (by rw [hdoc]; decide)]

end Proxy

/-! ## What goes out at a step -/

namespace Exchange.Journal

variable {j : Journal Backend} {number : Nat}

theorem question_of_step {s : Step} {backend : Backend} {q : Forwarded}
    (h : (j.step s).1 = .question number backend q) :
    ∃ r method body, j.request? s = some r ∧ q = .ofRequest r method body := by
  cases s with
  | lookup n clock elapsed r =>
    rw [step_lookup, Traffic.step_arrival] at h
    cases hstart : (j.traffic.proxy.start clock elapsed r).1 with
    | answered response =>
      rw [hstart] at h
      cases h
    | asking question =>
      rw [hstart] at h
      cases h
      obtain ⟨method, body, rfl⟩ := Proxy.ofRequest_of_asking hstart
      exact ⟨r, method, body, rfl, rfl⟩
  | fetch n answer => cases h
  | store n clock picks elapsed readings =>
    cases harrived : j.arrived n with
    | none =>
      rw [step_store_of_none harrived] at h
      cases h
    | some f =>
      rw [step_store_of_some harrived] at h
      cases hlookup : j.traffic.pending.lookup n with
      | none =>
        rw [Traffic.step_answer_none hlookup] at h
        cases h
      | some r =>
        rw [Traffic.step_answer hlookup] at h
        cases h
  | abandon n => cases h
  | sweep now => cases h

inductive Takes (j : Journal Backend) : Step → Request → Exit → Prop where
  | found {number : Nat} {clock : Clock} {elapsed : Span} {r : Request} {d : Deposit} {body : ByteArray}
      (document : Proxy.isForDocument r = true) (latest : j.latest? (j.keyOf r) = some d) (fetched : d.fetch ∈ j.fetches)
      (whole : d.fetch.answer.response.body.read? = some body) :
      Takes j (.lookup number clock elapsed r) r (.found d body elapsed)
  | refused {number : Nat} {clock : Clock} {elapsed : Span} {r : Request} (other : Proxy.isForDocument r = false)
      (unreadable : r.body.read? = none) : Takes j (.lookup number clock elapsed r) r .refused
  | fetched {number : Nat} {clock : Clock} {picks : Nat → Pick} {elapsed : Span} {readings : Nat → Instant} {f : Fetch}
      {body : ByteArray} (document : Proxy.isForDocument f.request = true) (arrived : j.arrived number = some f)
      (whole : f.answer.response.body.read? = some body) :
      Takes j (.store number clock picks elapsed readings) f.request (.fetched f body clock.moment elapsed)
  | broken {number : Nat} {clock : Clock} {picks : Nat → Pick} {elapsed : Span} {readings : Nat → Instant} {f : Fetch}
      (document : Proxy.isForDocument f.request = true) (arrived : j.arrived number = some f)
      (breaks : f.answer.response.body.read? = none) :
      Takes j (.store number clock picks elapsed readings) f.request (.broken f elapsed)
  | passed {number : Nat} {clock : Clock} {picks : Nat → Pick} {elapsed : Span} {readings : Nat → Instant} {f : Fetch}
      (other : Proxy.isForDocument f.request = false) (arrived : j.arrived number = some f) :
      Takes j (.store number clock picks elapsed readings) f.request (.passed f)

/-- a response at the first step of a dispatch is from the store, or says that a body cannot be read -/
theorem exit_of_lookup (hs : Sound limits j) {n : Nat} {clock : Clock} {elapsed : Span} {r : Request}
    {response : Response} (h : (j.step (.lookup n clock elapsed r)).1 = .response number response) :
    ∃ exit, j.Takes (.lookup n clock elapsed r) r exit ∧ response = exit.response limits.defaultLifetime r := by
  have hanswered := h
  rw [step_lookup, Traffic.step_arrival] at h
  cases hdoc : Proxy.isForDocument r with
  | true =>
    cases hget : (j.store.get clock.instant (j.keyOf r)).1 with
    | some entry =>
      rw [Proxy.start_of_found hdoc hget] at h
      cases h
      have hsaid : Outcome.hit.text ∈ (marked entry.header .hit elapsed).values "x-cache" := by
        rw [values_marked]
        exact List.mem_singleton_self _
      have hhit : j.Hits (.lookup number clock elapsed r) r _ := ⟨rfl, hdoc, ⟨_, hanswered⟩, hsaid⟩
      obtain ⟨_, _, _, d, body, hstep, hd, hanswers, -⟩ := hhit.source hs
      cases hstep
      have hfetch : d.fetch ∈ j.fetches := (hs.deposits d (mem_of_latest? hd).1).1
      exact ⟨.found d body elapsed, .found hdoc hd hfetch hanswers.whole, hanswers.response_eq⟩
    | none =>
      rw [Proxy.start_of_absent hdoc hget] at h
      cases h
  | false =>
    cases hbody : r.body.read? with
    | none =>
      rw [Proxy.start_of_unreadable hdoc hbody] at h
      cases h
      exact ⟨.refused, .refused hdoc hbody, rfl⟩
    | some body =>
      rw [Proxy.start_of_readable hdoc hbody] at h
      cases h

/-- a response at the last step of a dispatch is made of the answer that has come -/
theorem exit_of_store (hs : Sound limits j) {n : Nat} {clock : Clock} {picks : Nat → Pick} {elapsed : Span}
    {readings : Nat → Instant} {f : Fetch} (harrived : j.arrived n = some f) {response : Response}
    (h : (j.step (.store n clock picks elapsed readings)).1 = .response number response) :
    ∃ exit, j.Takes (.store n clock picks elapsed readings) f.request exit ∧
      response = exit.response limits.defaultLifetime f.request := by
  have hdefault : j.traffic.proxy.store.defaultLifetime = limits.defaultLifetime := hs.store.defaultLifetime
  rw [step_store harrived (hs.arrived n f harrived).2] at h
  cases h
  cases hdoc : Proxy.isForDocument f.request with
  | false => exact ⟨.passed f, .passed hdoc harrived, Proxy.settle_of_other hdoc⟩
  | true =>
    cases hbody : f.answer.response.body.read? with
    | none => exact ⟨.broken f elapsed, .broken hdoc harrived hbody, Proxy.settle_of_broken hdoc hbody⟩
    | some body =>
      refine ⟨.fetched f body clock.moment elapsed, .fetched hdoc harrived hbody, ?_⟩
      rw [Proxy.settle_of_whole hdoc hbody, hdefault]
      rfl

/-- **Every response goes one of the ways out.** -/
theorem exit_of_step (hs : Sound limits j) {s : Step} {response : Response}
    (h : (j.step s).1 = .response number response) :
    ∃ r exit, j.request? s = some r ∧ j.Takes s r exit ∧ response = exit.response limits.defaultLifetime r := by
  cases s with
  | lookup n clock elapsed r =>
    obtain ⟨exit, htakes, hresponse⟩ := exit_of_lookup hs h
    exact ⟨r, exit, rfl, htakes, hresponse⟩
  | fetch n answer => cases h
  | store n clock picks elapsed readings =>
    cases harrived : j.arrived n with
    | none =>
      rw [step_store_of_none harrived] at h
      cases h
    | some f =>
      have habout : j.request? (.store n clock picks elapsed readings) = some f.request :=
        congrArg (Option.map Fetch.request) harrived
      obtain ⟨exit, htakes, hresponse⟩ := exit_of_store hs harrived h
      exact ⟨f.request, exit, habout, htakes, hresponse⟩
  | abandon n => cases h
  | sweep now => cases h

end Exchange.Journal

end EdgeCache
