/-
One request from its arrival to its response, with backends that answer what they are asked. What the proxy does not
decide comes in as arguments: the readings of the clock and the picks of the store, the time that passes, and what
happens to the proxy while a backend answers.
-/
import EdgeCache.Exchange.Proxy

namespace EdgeCache

open EdgeCache.Exchange EdgeCache.Message EdgeCache.Store EdgeCache.Time

namespace Exchange

/-- what a dispatch meets with, but for the time that passes -/
structure Surroundings (Backend : Type) where
  clock : Clock
  /-- how a backend answers a question -/
  fetch : Backend → Forwarded → Answer
  /-- what other exchanges do until the answer has come -/
  meanwhile : Proxy Backend → Proxy Backend
  later : Clock
  picks : Nat → Pick
  readings : Nat → Instant

/-- the time that passed when the store was looked into, and when the answer was taken -/
structure Delays where
  elapsed : Span
  taken : Span

/-- what a dispatch leads to -/
structure Dispatched (Backend : Type) where
  response : Response
  /-- what was asked of which backend, if one was asked -/
  question? : Option (Backend × Forwarded)
  proxy : Proxy Backend

end Exchange

namespace Proxy

variable {Backend : Type}

def dispatch (p : Proxy Backend) (around : Surroundings Backend) (delays : Delays) (r : Request) : Dispatched Backend :=
  match p.start around.clock delays.elapsed r with
  | (.answered response, p) => ⟨response, none, p⟩
  | (.asking q, p) =>
    let backend := p.hosts.lookup q.host
    let (response, p) := (around.meanwhile p).settle around.later around.picks delays.taken r
      (around.fetch backend q) around.readings
    ⟨response, some (backend, q), p⟩

end Proxy

end EdgeCache
