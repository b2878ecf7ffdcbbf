/-
Which fields go from one side of the proxy to the other.

- `Asks`, `Passes`, `Document`: what goes on to a backend, what is passed on to a client, and what a client gets with a
  document.
- `Exit.Relays`: where the fields of a response come from.
- `Journal.connection_severed`: nothing of a connection crosses, and everything else does.
-/
import EdgeCache.Proofs.Exchange.Prohibition
import EdgeCache.Proofs.Exchange.Replies

namespace EdgeCache.Exchange

open EdgeCache.Message EdgeCache.Store EdgeCache.Time

variable {Backend : Type} {limits : Limits}

/-- the header of a request on its way to a backend: what is left of the client's, without the host and the length -/
structure Asks (source sent : Header) : Prop where
  relays : Relays source ["content-length", "host"] sent
  host : sent.values "host" = []
  length : sent.values "content-length" = []

/-- the header of an answer that is passed on: what is left of the backend's, with the proxy added to those that it came
through -/
structure Passes (source sent : Header) : Prop where
  relays : Relays source ["via"] sent
  cameThrough : ∃ earlier, Leaves source "via" earlier ∧ sent.values "via" = earlier ++ [via]

theorem asks_forwardedHeader (h : Header) : Asks h (forwardedHeader h) := by
  refine ⟨((Relays.endToEnd h).without "host").without "content-length", ?_, Header.values_without_self ..⟩
  unfold forwardedHeader
  rw [Header.values_without_of_ne _ (by decide), Header.values_without_self]

theorem passes_returnedHeader (h : Header) : Passes h (returnedHeader h) :=
  ⟨(Relays.endToEnd h).add "via" via, _, Header.leaves_endToEnd h "via", Header.values_add_self ..⟩

/-! ## Responses -/

/-- where the fields of a response come from: with a document and with an answer that is passed on, from what a backend
sent; where a body cannot be read, from the proxy alone -/
def Exit.Relays (sent : Header) : Exit → Prop
  | .found d body elapsed => Document d.fetch.answer.response.header body.size none .hit elapsed sent
  | .refused => ∀ name, name ≠ "content-type" → sent.values name = []
  | .fetched f body _ elapsed => ∃ lifetime, Document f.answer.response.header body.size lifetime .miss elapsed sent
  | .broken _ _ => ∀ name, name ∉ ["content-type", "x-cache", "x-cache-latency"] → sent.values name = []
  | .passed f => Passes f.answer.response.header sent

theorem Exit.relays_response (exit : Exit) (default : Option Span) (r : Request) :
    exit.Relays (exit.response default r).header := by
  cases exit with
  | found d body elapsed => exact Document.of_marked d.fetch.answer body none .hit elapsed
  | refused => exact fun name hname => values_plain _ _ hname
  | fetched f body now elapsed => exact ⟨_, Document.of_marked f.answer body _ .miss elapsed⟩
  | broken f elapsed =>
    intro name hname
    simp only [List.mem_cons, List.not_mem_nil, or_false, not_or] at hname
    obtain ⟨htype, hcache, hlatency⟩ := hname
    exact values_broken f elapsed default r htype hcache hlatency
  | passed f => exact passes_returnedHeader f.answer.response.header

theorem Exit.Relays.clean {exit : Exit} {sent : Header} (h : exit.Relays sent) {name : String}
    (hname : name ∈ hopByHopNames) : sent.values name = [] := by
  have hdisjoint : ∀ name ∈ hopByHopNames, name ∉ ["content-type", "x-cache", "x-cache-latency"] := by decide
  cases exit with
  | found d body elapsed => exact (Document.relays h).clean name hname
  | refused => exact h name (List.ne_and_not_mem_of_not_mem_cons (hdisjoint name hname)).1
  | fetched f body now elapsed =>
    obtain ⟨lifetime, hdocument⟩ := h
    exact hdocument.relays.clean name hname
  | broken f elapsed => exact h name (hdisjoint name hname)
  | passed f => exact (Passes.relays h).clean name hname

namespace Journal

variable {j : Journal Backend}

/-- what goes out at a step has nothing of the connection that it came over, and all the rest -/
structure Severs (j : Journal Backend) (s : Step) : Prop where
  asks : ∀ number backend q, (j.step s).1 = .question number backend q →
    ∃ r, j.request? s = some r ∧ Asks r.header q.header
  tells : ∀ number response, (j.step s).1 = .response number response →
    ∃ r exit, j.request? s = some r ∧ j.Takes s r exit ∧ exit.Relays response.header
  clean : ∀ number response, (j.step s).1 = .response number response →
    ∀ name ∈ hopByHopNames, response.header.values name = []

/-- **Nothing of a connection crosses the proxy.** Whatever clients and backends send, and however the steps of exchanges
follow each other: a question to a backend has, of the client's fields, neither one that always concerns the connection
nor one that the message nominates, and neither host nor length, but all the others with their values in order. So it is
with what a backend sends and the response to the client, be it now or from the store, but that the proxy adds itself to
those that the answer came through, and sets the length and its own marks on a document. Responses of the proxy's own
have no other fields than the type of the text and those marks.

A field is taken out of a header if and only if it is one of the connection; the others keep their order, and all of them
stay the next time. -/
theorem connection_severed (h : Reachable limits j) (s : Step) :
    j.Severs s ∧
    ∀ g : Header, g.endToEnd.Sublist g ∧ (∀ f, f ∈ g.endToEnd ↔ f ∈ g ∧ ¬OfConnection g f.name) ∧
      g.endToEnd.endToEnd = g.endToEnd := by
  have htold : ∀ number response, (j.step s).1 = .response number response →
      ∃ r exit, j.request? s = some r ∧ j.Takes s r exit ∧ exit.Relays response.header := by
    intro number response hresponse
    obtain ⟨r, exit, hr, htakes, rfl⟩ := exit_of_step h.sound hresponse
    exact ⟨r, exit, hr, htakes, exit.relays_response _ r⟩
  refine ⟨⟨?_, htold, ?_⟩, ?_⟩
  · intro number backend q hquestion
    obtain ⟨r, method, body, hr, rfl⟩ := question_of_step hquestion
    exact ⟨r, hr, asks_forwardedHeader r.header⟩
  · intro number response hresponse name hname
    obtain ⟨r, exit, -, -, hrelays⟩ := htold number response hresponse
    exact hrelays.clean hname
  · intro g
    exact ⟨g.endToEnd_sublist, fun f => Header.mem_endToEnd_iff, g.endToEnd_endToEnd⟩

end Journal

/-! ## A small exchange -/

namespace Sample

open Journal

/-- what the client of a request for the document is told -/
def handed (r : Request) (header : Header) : Response where
  status := 200
  header := marked (announced (Proxy.document (said 200 header) .empty).header
    (Fetch.announced? ⟨r, said 200 header⟩ none now.moment)) .miss ⟨0⟩
  body := if r.method = "HEAD" then .empty else .ofOctets .empty

theorem told_hands {r : Request} (hdoc : Proxy.isForDocument r = true) (header : Header) :
    ((told r header).step (.store 0 now picks ⟨0⟩ fun _ => ⟨0⟩)).1 = .response 0 (handed r header) := by
  have hs := (told_reachable r header).sound
  have harrived := told_arrived hdoc header
  have hdefault : (told r header).traffic.proxy.store.defaultLifetime = none := hs.store.defaultLifetime
  rw [step_store harrived (hs.arrived 0 _ harrived).2, Proxy.settle_of_whole hdoc rfl, hdefault]
  rfl

/-- fields of a connection among others; one that nominates the field of the proxies on the way -/
def linked : Header :=
  [⟨"connection", "X-Trace , close"⟩, ⟨"link", "b"⟩, ⟨"x-trace", "1"⟩, ⟨"connection", "via"⟩, ⟨"via", "1.1 a"⟩,
    ⟨"keep-alive", "5"⟩, ⟨"link", "c"⟩]

end Sample

open Sample in
theorem Journal.connection_severed_linked :
    (told asked linked).Reachable ⟨2, 8, none⟩ ∧
    ((told asked linked).step (.store 0 now picks ⟨0⟩ fun _ => ⟨0⟩)).1 = .response 0 (handed asked linked) ∧
    linked.endToEnd = [⟨"link", "b"⟩, ⟨"link", "c"⟩] ∧
    (told asked linked).Severs (.store 0 now picks ⟨0⟩ fun _ => ⟨0⟩) ∧
    ∀ g : Header, g.endToEnd.Sublist g ∧ (∀ f, f ∈ g.endToEnd ↔ f ∈ g ∧ ¬OfConnection g f.name) ∧
      g.endToEnd.endToEnd = g.endToEnd :=
  ⟨told_reachable asked linked, told_hands rfl linked, by decide +kernel,
    connection_severed (told_reachable asked linked) _⟩

end EdgeCache.Exchange
