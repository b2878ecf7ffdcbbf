/-
What a client is told about where its response came from.

- `Fetch.announced?_eq_some_iff`: which lifetime is announced with an answer, if any.
- `Exit.Marked`: the marks of a response, by where it came from.
- `Journal.marks_own`: the proxy sets the marks of every document; other responses have those that their backend set.
- `Chained.marks_foreign`: a run in which a response has marks that the proxy did not set.
-/
import EdgeCache.Proofs.Exchange.Relay

namespace EdgeCache.Exchange

open EdgeCache.Freshness EdgeCache.Message EdgeCache.Store EdgeCache.Time

variable {Backend : Type} {limits : Limits}

def markNames : List String := ["x-cache", "x-cache-latency", "x-cache-ttl"]

/-- an answer is to be stored for a finite lifetime: the backend was reached, the status may be stored, and the header
that goes on gives the lifetime, or says nothing and the lifetime is that of entries that say nothing -/
structure Fetch.Announces (f : Fetch) (default : Option Span) (now : Moment) (d : Span) : Prop where
  reached : f.answer.reached = true
  status : f.answer.response.status ∈ storableStatuses
  chosen : Decision.ofHeader f.answer.response.header.endToEnd now = .lifetime d ∨
    Decision.ofHeader f.answer.response.header.endToEnd now = .unspecified ∧ default = some d

theorem finite?_eq_some_iff {decision : Decision} {default : Option Span} {d : Span} :
    decision.finite? default = some d ↔ decision = .lifetime d ∨ decision = .unspecified ∧ default = some d := by
  cases decision <;> simp [Decision.finite?]

theorem Fetch.announced?_eq_some_iff {f : Fetch} {default : Option Span} {now : Moment} {d : Span} :
    f.announced? default now = some d ↔ f.Announces default now d := by
  unfold announced?
  rw [Option.ite_none_right_eq_some, Bool.and_eq_true, List.contains_iff_mem, finite?_eq_some_iff]
  exact ⟨fun ⟨⟨hreached, hstatus⟩, hchosen⟩ => ⟨hreached, hstatus, hchosen⟩,
    fun h => ⟨⟨h.reached, h.status⟩, h.chosen⟩⟩

/-- the marks of a document: where it came from, how long that took, and the lifetime if one is announced. If none is,
there is what came with the fields that the document has from a backend. -/
structure Marks (source : Header) (outcome : Outcome) (elapsed : Span) (lifetime : Option Span) (sent : Header) :
    Prop where
  cache : sent.values "x-cache" = [outcome.text]
  latency : sent.values "x-cache-latency" = [elapsed.rounded]
  announced : ∀ d, lifetime = some d → sent.values "x-cache-ttl" = [d.compound]
  silent : lifetime = none → sent.values "x-cache-ttl" = source.endToEnd.values "x-cache-ttl"

theorem Document.marks {source sent : Header} {size : Nat} {lifetime : Option Span} {outcome : Outcome} {elapsed : Span}
    (h : Document source size lifetime outcome elapsed sent) : Marks source outcome elapsed lifetime sent := by
  refine ⟨h.cache, h.latency, h.ttl, ?_⟩
  rintro rfl
  exact h.ttl_of_none

/-- the marks of a response: of a document, set by the proxy, with a lifetime if the answer is to be stored for one; of an
answer that is passed on, those that its backend set; and none if the body of the request cannot be read -/
def Exit.Marked (default : Option Span) (sent : Header) : Exit → Prop
  | .found d _ elapsed => Marks d.fetch.answer.response.header .hit elapsed none sent
  | .refused => ∀ name ∈ markNames, sent.values name = []
  | .fetched f _ now elapsed =>
    ∃ lifetime, (∀ d, lifetime = some d ↔ f.Announces default now d) ∧
      Marks f.answer.response.header .miss elapsed lifetime sent
  | .broken _ elapsed => Marks [] .miss elapsed none sent
  | .passed f => ∀ name ∈ markNames, sent.values name = f.answer.response.header.endToEnd.values name

theorem Exit.marked_response (exit : Exit) (default : Option Span) (r : Request) :
    exit.Marked default (exit.response default r).header := by
  cases exit with
  | found d body elapsed => exact (Document.of_marked d.fetch.answer body none .hit elapsed).marks
  | refused =>
    refine fun name hname => values_plain _ _ ?_
    rintro rfl
    exact absurd hname (by decide)
  | fetched f body now elapsed =>
    exact ⟨_, fun d => Fetch.announced?_eq_some_iff, (Document.of_marked f.answer body _ .miss elapsed).marks⟩
  | broken f elapsed =>
    refine ⟨values_marked _ _ _, values_marked_latency _ _ _, ?_, ?_⟩
    · rintro d hd
      cases hd
    · intro _
      exact values_broken f elapsed default r (by decide) (by decide) (by decide)
  | passed f =>
    refine fun name hname => Header.values_add_of_ne _ _ ?_
    rintro rfl
    exact absurd hname (by decide)

namespace Sample

open Journal

/-- an answer that is fresh for a minute, and came through another proxy with marks of its own -/
def aged : Header := [⟨"x-cache", "hit"⟩, ⟨"cache-control", "max-age=60"⟩, ⟨"x-cache-ttl", "9s"⟩]

theorem told_arrived_of_other {r : Request} (hother : Proxy.isForDocument r = false) {body : ByteArray}
    (hbody : r.body.read? = some body) (header : Header) : (told r header).arrived 0 = some ⟨r, said 200 header⟩ := by
  have hwaits : ((start idle).step (.lookup 0 now ⟨0⟩ r)).2.traffic.pending.lookup 0 = some r := by
    show ((start idle).traffic.step (.arrival 0 now ⟨0⟩ r)).2.pending.lookup 0 = some r
    rw [Traffic.lookup_arrival_of_none rfl, Proxy.start_of_readable hother hbody]
  exact arrived_of_waiting hwaits header

end Sample

namespace Journal

variable {j : Journal Backend}

/-- **The proxy speaks for its documents.** Whatever backends send, and however the steps of exchanges follow each other,
a response to a request for a document tells once where it came from, which is the store if and only if the lookup found
it there, and once how long that took. It tells the lifetime for which an answer is to be stored, if that is finite, and
then once; else it has no lifetime but what came with the answer, and none if the answer could not be read. A response to
another request has of the three marks what its backend sent, and none if the body of the request could not be read. -/
theorem marks_own (h : Reachable limits j) {s : Step} {number : Nat} {response : Response}
    (hsent : (j.step s).1 = .response number response) :
    ∃ r exit, j.request? s = some r ∧ j.Takes s r exit ∧ exit.Marked limits.defaultLifetime response.header := by
  obtain ⟨r, exit, hr, htakes, rfl⟩ := exit_of_step h.sound hsent
  exact ⟨r, exit, hr, htakes, exit.marked_response _ r⟩

open Sample in
theorem marks_own_aged :
    (told asked aged).Reachable ⟨2, 8, none⟩ ∧
    ((told asked aged).step (.store 0 now picks ⟨0⟩ fun _ => ⟨0⟩)).1 = .response 0 (handed asked aged) ∧
    (handed asked aged).header.values "x-cache" = ["miss"] ∧
    (handed asked aged).header.values "x-cache-ttl" = ["1m0s"] ∧
    ∃ r exit, (told asked aged).request? (.store 0 now picks ⟨0⟩ fun _ => ⟨0⟩) = some r ∧
      (told asked aged).Takes (.store 0 now picks ⟨0⟩ fun _ => ⟨0⟩) r exit ∧
      exit.Marked none (handed asked aged).header :=
  ⟨told_reachable asked aged, told_hands rfl aged, by decide +kernel, by decide +kernel,
    marks_own (told_reachable asked aged) (told_hands rfl aged)⟩

end Journal

/-! ## Proxies in a row -/

namespace Chained

open Sample Journal

def posted : Request := { asked with method := "POST" }

/-- the marks of another proxy, which had the answer in its store -/
def foreign : Header := [⟨"x-cache", "hit"⟩, ⟨"x-cache-latency", "1.000ms"⟩, ⟨"x-cache-ttl", "1m0s"⟩]

/-- an answer that is passed on has the marks that it came with -/
theorem marks_foreign :
    (told posted foreign).Reachable ⟨2, 8, none⟩ ∧
    ((told posted foreign).step (.store 0 now picks ⟨0⟩ fun _ => ⟨0⟩)).1 =
      .response 0 ⟨200, returnedHeader foreign, .empty⟩ ∧
    (told posted foreign).request? (.store 0 now picks ⟨0⟩ fun _ => ⟨0⟩) = some posted ∧
    posted.method = "POST" ∧ (returnedHeader foreign).values "x-cache" = ["hit"] ∧
    (returnedHeader foreign).values "x-cache-latency" = ["1.000ms"] ∧
    (returnedHeader foreign).values "x-cache-ttl" = ["1m0s"] := by
  have harrived := told_arrived_of_other (r := posted) rfl rfl foreign
  have hwaits := ((told_reachable posted foreign).sound.arrived 0 _ harrived).2
  refine ⟨told_reachable posted foreign, ?_, ?_, rfl, by decide +kernel, by decide +kernel, by decide +kernel⟩
  · rw [step_store harrived hwaits, Proxy.settle_of_other rfl]
    rfl
  · exact congrArg (Option.map Fetch.request) harrived

end Chained

end EdgeCache.Exchange
