/-
What clients meet before and behind the proxy: every request gets an identifier, a body may not be too long, an answer
may not take too long, and only paths that start with a slash exist.
-/
import EdgeCache.Exchange.Forwarded
import EdgeCache.Text.Decimal

namespace EdgeCache.Exchange

open EdgeCache.Message EdgeCache.Text EdgeCache.Time

/-- the bounds that clients are held to -/
structure Service where
  maxBodySize : Nat
  timeout : Span

/-- the field that holds a request's identifier -/
def identifierName : String := "x-request-id"

def bare (status : Nat) : Response := ⟨status, [], .empty⟩

/-- a request with an identifier; one that it brings is kept -/
def identified (identifier : String) (r : Request) : Request :=
  if (r.header.value? identifierName).isSome then r
  else { r with header := r.header.put identifierName identifier }

/-- a body of which reading fails beyond a limit -/
def limited (limit : Nat) (b : Body) : Body := if b.octets.size ≤ limit then b else { b with complete := false }

namespace Service

def announcedLength? (r : Request) : Option Nat := (r.header.line? "content-length").bind fun v => count? v.toList

/-- how long a body may be, unless the announced length is too much -/
def bodyLimit? (s : Service) (r : Request) : Option Nat :=
  match announcedLength? r with
  | none => some s.maxBodySize
  | some n => if s.maxBodySize < n then none else some n

/-- let a request in, or answer it at once -/
def accept (s : Service) (r : Request) : Except Response Request :=
  match s.bodyLimit? r with
  | none => .error (.plain 413 "length limit exceeded")
  | some limit =>
    if r.target.path.head? = some '/' then .ok { r with body := limited limit r.body } else .error (bare 404)

/-- an exchange that took so long is answered without its result -/
def isLate (s : Service) (taken : Span) : Bool := s.timeout.nanos < taken.nanos

def timedOut : Response := bare 408

/-- the response carries the identifier of the request, unless it brings one -/
def withIdentifier (r : Request) (response : Response) : Response :=
  match response.header.value? identifierName, r.header.value? identifierName with
  | none, some identifier => { response with header := response.header.put identifierName identifier }
  | _, _ => response

/-- the response carries the length of its body, if that is known -/
def withLength (response : Response) : Response :=
  if (response.header.value? "content-length").isNone && response.body.sized then
    { response with header := response.header.put "content-length" (toString response.body.octets.size) }
  else response

/-- a tunnel that was granted has no body: one that is announced or known to be there is dropped -/
def tunnelled (response : Response) : Response :=
  if (response.header.value? "content-length").isSome || (response.header.value? "transfer-encoding").isSome ||
      (response.body.sized && response.body.octets.size ≠ 0) then
    { response with body := .empty }
  else response

/-- what goes to the client in the end -/
def finish (r : Request) (response : Response) : Response :=
  let response := withIdentifier r response
  if r.method = "CONNECT" ∧ 200 ≤ response.status ∧ response.status < 300 then tunnelled response
  else
    let response := withLength response
    if r.method = "HEAD" then { response with body := .empty } else response

end Service

end EdgeCache.Exchange
