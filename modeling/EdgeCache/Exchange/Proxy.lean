/-
The proxy. A request for a document (GET or HEAD) is answered from the store or from a backend, whose answer is then
stored if it may be; every other request goes through to the backend.

An exchange has three steps: `begin` looks into the store, the backend is asked, and `settle` takes its answer. Between
the steps of one exchange there can be steps of others. Clock readings, the time that passed and the picks of the store
are arguments.
-/
import EdgeCache.Exchange.Counters
import EdgeCache.Exchange.Forwarded
import EdgeCache.Routing.HostTable
import EdgeCache.Store.Basic

namespace EdgeCache

open EdgeCache.Exchange EdgeCache.Freshness EdgeCache.Message EdgeCache.Routing EdgeCache.Store EdgeCache.Time

structure Proxy (Backend : Type) where
  store : ResponseStore
  hosts : HostTable Backend
  counters : Counters := {}
  /-- documents of one path are the same whatever their host -/
  ignoreHost : Bool

/-- where an exchange stands after its first step -/
inductive Progress where
  | answered (response : Response)
  | asking (question : Forwarded)

namespace Proxy

variable {Backend : Type}

/-- requests that the store may answer -/
def isForDocument (r : Request) : Bool := r.method == "GET" || r.method == "HEAD"

def keyOf (p : Proxy Backend) (r : Request) : Key := .derive p.ignoreHost r.host r.path

/-- first step: an answer from the store, or a question for a backend -/
def start (p : Proxy Backend) (clock : Clock) (elapsed : Span) (r : Request) : Progress × Proxy Backend :=
  if isForDocument r then
    match p.store.get clock.instant (p.keyOf r) with
    | (some entry, store) =>
      let response := entry.toResponse (r.method == "HEAD")
      (.answered { response with header := marked response.header .hit elapsed },
        { p with store, counters := p.counters.hit })
    | (none, store) =>
      (.asking (.ofRequest r "GET" .empty), { p with store, counters := p.counters.miss })
  else
    match r.body.read? with
    | none => (.answered (.plain 400 "Failed to read request body"), p)
    | some body => (.asking (.ofRequest r r.method body), p)

/-- store an entry for the lifetime that its header gives it; the lifetime, if it is finite. Evictions go by `readings`
of the clock. -/
def keep (s : ResponseStore) (clock : Clock) (picks : Nat → Pick) (key : Key) (entry : Entry)
    (readings : Nat → Instant := fun _ => clock.instant) : Option Span × ResponseStore :=
  match Decision.ofHeader entry.header clock.moment with
  | .forbidden => (none, s)
  | .lifetime d => (some d, (s.insert clock.instant picks key entry (some d) readings).2)
  | .unspecified => (s.defaultLifetime, (s.set clock picks key entry readings).2)

/-- the document in an answer whose body was read to its end -/
def document (a : Answer) (body : ByteArray) : Entry :=
  ⟨a.response.status, (returnedHeader a.response.header).put "content-length" (toString body.size), body⟩

/-- last step of a request for a document: store the answer if it may be, and hand it on -/
def settleDocument (p : Proxy Backend) (clock : Clock) (picks : Nat → Pick) (elapsed : Span) (r : Request)
    (a : Answer) (readings : Nat → Instant := fun _ => clock.instant) : Response × Proxy Backend :=
  match a.response.body.read? with
  | none =>
    let response := Response.plain 500 "Failed to read backend response"
    ({ response with header := marked response.header .miss elapsed }, { p with counters := p.counters.failure })
  | some body =>
    let entry := document a body
    let (lifetime, store) :=
      if a.reached && storableStatuses.contains entry.status then
        keep p.store clock picks (p.keyOf r) entry readings
      else (none, p.store)
    ({ status := entry.status
       header := marked (announced entry.header lifetime) .miss elapsed
       body := if r.method = "HEAD" then .empty else .ofOctets body },
      { p with store })

/-- last step: take the backend's answer -/
def settle (p : Proxy Backend) (clock : Clock) (picks : Nat → Pick) (elapsed : Span) (r : Request) (a : Answer)
    (readings : Nat → Instant := fun _ => clock.instant) : Response × Proxy Backend :=
  let p := { p with counters := p.counters.failureIf (!a.reached) }
  if isForDocument r then p.settleDocument clock picks elapsed r a readings
  else ({ a.response with header := returnedHeader a.response.header }, p)

end Proxy

end EdgeCache
