/-
Requests of clients, and what a proxy reads from them.
-/
import EdgeCache.Message.HopByHop
import EdgeCache.Message.RequestTarget
import EdgeCache.Message.Response

namespace EdgeCache.Message

open EdgeCache.Text

structure Request where
  method : String
  target : RequestTarget
  header : Header
  body : Body

/-- a text is a method; methods are told apart by case -/
def isMethod (s : String) : Bool := s ≠ "" && s.toList.all isTokenChar

def methodMessage : String := "invalid HTTP method"

namespace Request

/-- the host that the client addressed: the authority of the target, else the first Host field -/
def host? (r : Request) : Option String :=
  if r.target.authority ≠ [] then some (String.ofList r.target.authority)
  else ((r.header.line? "host").map trimmed).filter (· ≠ "")

/-- the host, empty when the request names none -/
def host (r : Request) : String := r.host?.getD ""

def path (r : Request) : String := String.ofList r.target.path

/-- the identifier that the request carries, for logs -/
def identifier (r : Request) : String := (r.header.line? "x-request-id").getD "-"

end Request

end EdgeCache.Message
