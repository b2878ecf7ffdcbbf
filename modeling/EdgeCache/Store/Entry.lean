/-
What the store holds under a key: a response with its whole body. It costs as much as its body is long.
-/
import EdgeCache.Message.Response

namespace EdgeCache.Store

open EdgeCache.Message

structure Entry where
  status : Nat
  header : Header
  body : ByteArray

namespace Entry

/-- the octets of the body count against the budget -/
def cost (e : Entry) : Nat := e.body.size

/-- the entry as a response, its body left out for a request of the header alone -/
def toResponse (e : Entry) (headerOnly : Bool) : Response :=
  ⟨e.status, e.header, if headerOnly then .empty else .ofOctets e.body⟩

end Entry

/-- statuses that a shared cache may store without being told so -/
def storableStatuses : List Nat := [200, 203, 204, 300, 301, 308, 404, 405, 410, 414, 501]

end EdgeCache.Store
