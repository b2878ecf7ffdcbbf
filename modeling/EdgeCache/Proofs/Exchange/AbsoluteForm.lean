/-
Requests with the host in the target, beside requests with the host in a field.

- `Request.Alike`: requests that differ in nothing that the proxy reads from them.
- `Proxy.dispatch_congr`: the proxy does the same for such requests.
- `Request.alike_of_forms`: a request in absolute form and the one for its path with its authority as the only Host field
  are alike.
- `Proxy.absolute_like_rooted`: so they get the same response, by the same question to the same backend, and leave the
  same proxy.
-/
import EdgeCache.Proofs.Exchange.HeaderOnly
import EdgeCache.Proofs.Exchange.Isolation
import EdgeCache.Proofs.Exchange.Target

namespace EdgeCache

open EdgeCache.Exchange EdgeCache.Message EdgeCache.Store EdgeCache.Text EdgeCache.Time

variable {Backend : Type}

/-! ## What the proxy reads from a request -/

/-- two requests differ in nothing that the proxy reads from them -/
structure Message.Request.Alike (r q : Request) : Prop where
  method : r.method = q.method
  host : r.host = q.host
  path : r.path = q.path
  pathAndQuery : r.target.pathAndQuery = q.target.pathAndQuery
  header : forwardedHeader r.header = forwardedHeader q.header
  body : r.body = q.body

namespace Message.Request.Alike

variable {r q : Request}

theorem isForDocument (h : r.Alike q) : Proxy.isForDocument r = Proxy.isForDocument q := by
  unfold Proxy.isForDocument
  rw [h.method]

theorem keyOf (h : r.Alike q) (p : Proxy Backend) : p.keyOf r = p.keyOf q := by
  unfold Proxy.keyOf
  rw [h.host, h.path]

theorem forwarded (h : r.Alike q) (method : String) (body : ByteArray) :
    Forwarded.ofRequest r method body = Forwarded.ofRequest q method body := by
  unfold Forwarded.ofRequest
  rw [h.host, h.pathAndQuery, h.header]

end Message.Request.Alike

namespace Proxy

variable {r q : Request}

theorem start_congr (h : r.Alike q) (p : Proxy Backend) (clock : Clock) (elapsed : Span) :
    p.start clock elapsed r = p.start clock elapsed q := by
  unfold start
  simp only [h.isForDocument, h.keyOf, h.method, h.body, h.forwarded]

theorem settle_congr (h : r.Alike q) (p : Proxy Backend) (clock : Clock) (picks : Nat → Pick) (elapsed : Span) (a : Answer)
    (readings : Nat → Instant) :
    p.settle clock picks elapsed r a readings = p.settle clock picks elapsed q a readings := by
  unfold settle settleDocument
  simp only [h.isForDocument, h.method, h.keyOf]

/-- **The proxy does the same for requests that are alike.** -/
theorem dispatch_congr (h : r.Alike q) (p : Proxy Backend) (around : Surroundings Backend) (delays : Delays) :
    p.dispatch around delays r = p.dispatch around delays q := by
  unfold dispatch
  rw [start_congr h]
  simp only [settle_congr h]

end Proxy

/-! ## How long it took -/

/-- two dispatches come to the same, but for the time that the response tells -/
structure Exchange.Dispatched.SameButLatency (d e : Dispatched Backend) : Prop where
  status : d.response.status = e.response.status
  header : d.response.header.without "x-cache-latency" = e.response.header.without "x-cache-latency"
  body : d.response.body = e.response.body
  question : d.question? = e.question?
  proxy : d.proxy = e.proxy

namespace Proxy

variable {r : Request}

theorem settle_elapsed (p : Proxy Backend) (clock : Clock) (picks : Nat → Pick) (elapsed elapsed' : Span) (r : Request)
    (a : Answer) (readings : Nat → Instant) (question? : Option (Backend × Forwarded)) :
    (Dispatched.mk (p.settle clock picks elapsed r a readings).1 question?
      (p.settle clock picks elapsed r a readings).2).SameButLatency
    ⟨(p.settle clock picks elapsed' r a readings).1, question?, (p.settle clock picks elapsed' r a readings).2⟩ := by
  unfold settle
  by_cases hdoc : isForDocument r = true
  · rw [if_pos hdoc, if_pos hdoc]
    unfold settleDocument
    cases a.response.body.read? with
    | none => exact ⟨rfl, without_latency_marked .., rfl, rfl, rfl⟩
    | some body => exact ⟨rfl, without_latency_marked .., rfl, rfl, rfl⟩
  · rw [if_neg hdoc, if_neg hdoc]
    exact ⟨rfl, rfl, rfl, rfl, rfl⟩

/-- the time that passes is told, and changes nothing else -/
theorem dispatch_delays (p : Proxy Backend) (around : Surroundings Backend) (delays delays' : Delays) (r : Request) :
    (p.dispatch around delays r).SameButLatency (p.dispatch around delays' r) := by
  by_cases hdoc : isForDocument r = true
  · cases hget : (p.store.get around.clock.instant (p.keyOf r)).1 with
    | some entry =>
      rw [dispatch_of_found hdoc hget, dispatch_of_found hdoc hget]
      exact ⟨rfl, without_latency_marked .., rfl, rfl, rfl⟩
    | none =>
      rw [dispatch_of_absent hdoc hget, dispatch_of_absent hdoc hget]
      exact settle_elapsed ..
  · -- nothing is told of the time when the request is passed on
    have hstart : p.start around.clock delays.elapsed r = p.start around.clock delays'.elapsed r := by
      unfold start
      rw [if_neg hdoc, if_neg hdoc]
    unfold dispatch
    rw [hstart]
    cases p.start around.clock delays'.elapsed r with
    | mk progress proxy =>
      cases progress with
      | answered response => exact ⟨rfl, rfl, rfl, rfl, rfl⟩
      | asking q => exact settle_elapsed ..

end Proxy

/-! ## The host in the target, and the host in a field -/

namespace Message

theorem Header.nominated_congr {h h' : Header} (hsame : h.values "connection" = h'.values "connection") :
    h.nominated = h'.nominated := by
  unfold nominated elements lines
  rw [hsame]

theorem Header.without_withoutAll (h : Header) (names : List String) (name : String) :
    (h.withoutAll names).without name = (h.without name).withoutAll names := by
  unfold without withoutAll
  rw [List.filter_filter, List.filter_filter]
  apply List.filter_congr
  intro f _
  exact Bool.and_comm ..

end Message

theorem Exchange.forwardedHeader_of_without {h h' : Header} (hsame : h.without "host" = h'.without "host") :
    forwardedHeader h = forwardedHeader h' := by
  have hne : "connection" ≠ "host" := by decide
  have hconnection : h.values "connection" = h'.values "connection" := by
    rw [← Header.values_without_of_ne h hne, hsame, Header.values_without_of_ne h' hne]
  unfold forwardedHeader Header.endToEnd
  rw [Header.without_withoutAll h, Header.without_withoutAll h', hsame, Header.nominated_congr hconnection]

theorem Message.RequestTarget.IsAuthority.isVisibleAscii {s : String} (h : IsAuthority s) : isVisibleAscii s = true := by
  unfold Message.isVisibleAscii
  apply List.all_eq_true.2
  intro c hc
  obtain ⟨hlow, hhigh⟩ := h.visible c hc
  simp only [Bool.or_eq_true, Bool.and_eq_true, decide_eq_true_eq]
  exact Or.inl ⟨by omega, hhigh⟩

namespace Message.Request

variable {q : Request} {authority path : String}

/-- the host of a request without an authority is its Host field, if that is an authority itself -/
theorem host_of_field (hauthority : RequestTarget.IsAuthority authority) (htarget : q.target.authority = [])
    (hhost : q.header.values "host" = [authority]) : q.host = authority := by
  have hline : q.header.line? "host" = some authority := by
    unfold Header.line? Header.value? visible?
    rw [hhost, List.head?_cons, Option.bind_some, if_pos hauthority.isVisibleAscii]
  unfold host host?
  rw [if_neg (not_not_intro htarget), hline, Option.map_some, hauthority.trimmed,
    Option.filter_some, if_pos (decide_eq_true hauthority.1)]
  rfl

/-- **One request in two forms.** A target with scheme and authority, whatever the Host fields are, and its path alone with
the authority in the one Host field make requests that are alike. -/
theorem alike_of_forms (hauthority : RequestTarget.IsAuthority authority) (hslash : path.toList.head? = some '/')
    (hread : RequestTarget.read path = .ok q.target) (hhost : q.header.values "host" = [authority]) {header : Header}
    (hothers : header.without "host" = q.header.without "host") :
    Alike { q with target := ⟨some "http".toList, authority.toList, q.target.rest⟩, header } q := by
  obtain ⟨hrest, htarget⟩ := RequestTarget.read_rooted hslash hread
  have hnone : q.target.authority = [] := by rw [htarget]
  have hsome : authority.toList ≠ [] := by
    intro hnil
    exact hauthority.1 (String.toList_inj.1 hnil)
  obtain ⟨cs, hcs⟩ := List.head?_eq_some_iff.1 hslash
  obtain ⟨more, hmore⟩ := RequestTarget.readRest_slash (hcs ▸ hrest)
  have hbefore : q.target.rest.takeWhile (· ≠ '?') = '/' :: more.takeWhile (· ≠ '?') := by rw [hmore]; rfl
  constructor
  case method => rfl
  case host =>
    rw [host_of_field hauthority hnone hhost, host_of_authority hsome]
    exact String.ofList_toList
  case path =>
    apply congrArg String.ofList
    rw [RequestTarget.path_of_slash hbefore]
    exact RequestTarget.path_of_slash hbefore
  case pathAndQuery => rfl
  case header => exact forwardedHeader_of_without hothers
  case body => rfl

end Message.Request

/-- a proxy makes no difference between two requests -/
structure Proxy.TreatsAlike (p : Proxy Backend) (r q : Request) : Prop where
  key : p.keyOf r = p.keyOf q
  backend : p.hosts.lookup r.host = p.hosts.lookup q.host
  /-- the same response, the same question to a backend and the same proxy afterwards -/
  dispatch : ∀ around delays, p.dispatch around delays r = p.dispatch around delays q
  /-- also if one takes longer than the other -/
  latency : ∀ around delays delays', (p.dispatch around delays r).SameButLatency (p.dispatch around delays' q)

theorem Message.Request.Alike.treatsAlike {r q : Request} (h : r.Alike q) (p : Proxy Backend) : p.TreatsAlike r q where
  key := h.keyOf p
  backend := by rw [h.host]
  dispatch around delays := Proxy.dispatch_congr h p around delays
  latency around delays delays' := by
    rw [Proxy.dispatch_congr h]
    exact Proxy.dispatch_delays p around delays delays' q

namespace Proxy

/-- **An absolute form is the path with its host in a field.** Take a request for a path from the root, with an authority as
its one Host field. The authority with its scheme in front of the path can be read, if that is not too long. A request for
that, with any Host fields or none but the same in all the rest, is treated alike from every state of the proxy: it has
the same key, goes to the same backend, asks the same of it, gets the same response and leaves the same proxy. -/
theorem absolute_like_rooted {q : Request} {authority path : String} (hauthority : RequestTarget.IsAuthority authority)
    (hslash : path.toList.head? = some '/') (hread : RequestTarget.read path = .ok q.target)
    (hhost : q.header.values "host" = [authority])
    (hlength : ("http://" ++ authority ++ path).utf8ByteSize ≤ RequestTarget.maxLength) :
    ∃ target, RequestTarget.read ("http://" ++ authority ++ path) = .ok target ∧
      ∀ header : Header, header.without "host" = q.header.without "host" →
        ∀ p : Proxy Backend, p.TreatsAlike { q with target, header } q := by
  refine ⟨_, RequestTarget.read_absolute hauthority hslash hread hlength, ?_⟩
  intro header hothers p
  exact (Request.alike_of_forms hauthority hslash hread hhost hothers).treatsAlike p

open Sample in
theorem absolute_like_rooted_host :
    RequestTarget.IsAuthority "a.test" ∧ "/x".toList.head? = some '/' ∧ RequestTarget.read "/x" = .ok asked.target ∧
    asked.header.values "host" = ["a.test"] ∧ ("http://" ++ "a.test" ++ "/x").utf8ByteSize ≤ RequestTarget.maxLength ∧
    ∃ target, RequestTarget.read "http://a.test/x" = .ok target ∧
      idle.TreatsAlike { asked with target, header := [] } asked ∧
      idle.TreatsAlike { asked with target, header := [⟨"host", "b.test"⟩] } asked := by
  have hauthority : RequestTarget.IsAuthority "a.test" := ⟨by decide, by decide +kernel⟩
  have hread : RequestTarget.read "/x" = .ok asked.target := by decide +kernel
  have hlength : ("http://" ++ "a.test" ++ "/x").utf8ByteSize ≤ RequestTarget.maxLength := by decide +kernel
  obtain ⟨target, habsolute, hsame⟩ := absolute_like_rooted hauthority rfl hread rfl hlength
  refine ⟨hauthority, rfl, hread, rfl, hlength, target, habsolute, ?_, ?_⟩
  · exact hsame [] rfl idle
  · exact hsame [⟨"host", "b.test"⟩] rfl idle

end Proxy

end EdgeCache
