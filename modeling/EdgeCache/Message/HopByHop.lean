/-
Fields that concern one connection only. A proxy drops them in both directions: a fixed list, and every name that a
Connection field of the message nominates.
-/
import EdgeCache.Message.Field

namespace EdgeCache.Message

open EdgeCache.Text

/-- names that always concern the connection -/
def hopByHopNames : List String :=
  ["connection", "keep-alive", "proxy-authenticate", "proxy-authorization", "te", "trailers", "transfer-encoding",
    "upgrade"]

namespace Header

/-- names that the message's Connection fields nominate -/
def nominated (h : Header) : List String :=
  (h.elements "connection").filterMap fun e => fieldName? (String.ofList e)

/-- the fields that reach the other side -/
def endToEnd (h : Header) : Header := h.withoutAll (h.nominated ++ hopByHopNames)

end Header

end EdgeCache.Message
