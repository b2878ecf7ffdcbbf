/-
Exchanges under way at the same time. Each has a number; a request arrives, its backend answers later, and in between
anything can happen to other exchanges. An interleaving of exchanges is a list of events.
-/
import EdgeCache.Exchange.Proxy

namespace EdgeCache.Exchange

open EdgeCache.Message EdgeCache.Store EdgeCache.Time

/-- something that happens to the exchange of a given number -/
inductive Event where
  | arrival (number : Nat) (clock : Clock) (elapsed : Span) (request : Request)
  | answer (number : Nat) (clock : Clock) (picks : Nat → Pick) (elapsed : Span) (answer : Answer)
    (readings : Nat → Instant := fun _ => clock.instant)
  /-- nobody waits for the response any more -/
  | abandonment (number : Nat)

def Event.number : Event → Nat
  | .arrival number .. => number
  | .answer number .. => number
  | .abandonment number => number

/-- what an event leads to -/
inductive Effect (Backend : Type) where
  | response (number : Nat) (response : Response)
  | question (number : Nat) (backend : Backend) (question : Forwarded)
  | nothing

/-- the proxy, and the requests that wait for a backend -/
structure Traffic (Backend : Type) where
  proxy : Proxy Backend
  pending : List (Nat × Request) := []

namespace Traffic

variable {Backend : Type}

/-- an exchange no longer waits -/
def settled (t : Traffic Backend) (number : Nat) : List (Nat × Request) := t.pending.filter (·.1 ≠ number)

def step (t : Traffic Backend) : Event → Effect Backend × Traffic Backend
  | .arrival number clock elapsed request =>
    match t.proxy.start clock elapsed request with
    | (.answered response, proxy) => (.response number response, { t with proxy })
    | (.asking question, proxy) =>
      (.question number (proxy.hosts.lookup question.host) question,
        { proxy, pending := t.pending ++ [(number, request)] })
  | .answer number clock picks elapsed answer readings =>
    match t.pending.lookup number with
    | none => (.nothing, t)
    | some request =>
      let (response, proxy) := t.proxy.settle clock picks elapsed request answer readings
      (.response number response, { proxy, pending := t.settled number })
  | .abandonment number => (.nothing, { t with pending := t.settled number })

/-- events one after the other, with what they lead to -/
def run (t : Traffic Backend) : List Event → List (Effect Backend) × Traffic Backend
  | [] => ([], t)
  | e :: es =>
    let (effect, t) := t.step e
    let (effects, t) := t.run es
    (effect :: effects, t)

end Traffic

end EdgeCache.Exchange
