/-
What goes from the proxy to a backend and back: the forwarded request, the backend's answer, and the answer that takes
its place when the backend cannot be reached.
-/
import EdgeCache.Message.Request
import EdgeCache.Time.SpanText

namespace EdgeCache.Exchange

open EdgeCache.Message EdgeCache.Time

/-- how the proxy names itself to others -/
def via : String := "caching-proxy 0.1.0"

/-- a request on its way to a backend -/
structure Forwarded where
  method : String
  /-- the host as the client addressed it -/
  host : String
  /-- path and query, starting with a slash -/
  path : String
  header : Header
  body : ByteArray

/-- fields that go on to the backend: end to end ones, but neither the host nor the length, which are sent anew -/
def forwardedHeader (h : Header) : Header := (h.endToEnd.without "host").without "content-length"

def Forwarded.ofRequest (r : Request) (method : String) (body : ByteArray) : Forwarded where
  method
  host := r.host
  path := String.ofList r.target.pathAndQuery
  header := forwardedHeader r.header
  body

/-- fields of an answer that go on to the client, with this proxy added to those it came through -/
def returnedHeader (h : Header) : Header := h.endToEnd.add "via" via

structure Answer where
  response : Response
  /-- the backend was reached; otherwise the response stands in its place -/
  reached : Bool

def unavailableText : String :=
  "<html><body><h1>Backend unavailable</h1>" ++
    "<p>The proxy could not reach the backend for this request.</p></body></html>"

/-- the response that stands in for a backend's -/
def unavailable : Response where
  status := 500
  header := [
    ⟨"x-backend-name", "synthetic"⟩,
    ⟨"content-type", "text/html; charset=utf-8"⟩,
    ⟨"content-length", toString unavailableText.utf8ByteSize⟩]
  body := .ofText unavailableText

/-- the answer when no backend is reached -/
def Answer.none : Answer := ⟨unavailable, false⟩

/-- where a response came from, as clients are told -/
inductive Outcome where
  | hit
  | miss
deriving DecidableEq

def Outcome.text : Outcome → String
  | .hit => "hit"
  | .miss => "miss"

/-- tell the client where the response came from and how long that took -/
def marked (h : Header) (outcome : Outcome) (elapsed : Span) : Header :=
  (h.put "x-cache" outcome.text).put "x-cache-latency" elapsed.rounded

/-- tell the client the lifetime that a response was stored for -/
def announced (h : Header) : Option Span → Header
  | some d => h.put "x-cache-ttl" d.compound
  | Option.none => h

end EdgeCache.Exchange
