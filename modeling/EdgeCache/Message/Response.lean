/-
Bodies, statuses and responses.
-/
import EdgeCache.Message.Field

namespace EdgeCache.Message

/-- a body as its reader meets it -/
structure Body where
  octets : ByteArray
  /-- reading reaches the end; otherwise it fails behind the octets -/
  complete : Bool
  /-- the length is known before reading -/
  sized : Bool

namespace Body

def ofOctets (octets : ByteArray) : Body := ⟨octets, true, true⟩

def empty : Body := ofOctets ByteArray.empty

def ofText (s : String) : Body := ofOctets s.toUTF8

/-- all octets, if reading reaches the end -/
def read? (b : Body) : Option ByteArray := if b.complete then some b.octets else none

end Body

/-- statuses have three digits -/
def status? (n : Nat) : Option Nat := if 100 ≤ n ∧ n < 1000 then some n else none

def statusMessage : String := "invalid status code"

structure Response where
  status : Nat
  header : Header
  body : Body

def Response.plain (status : Nat) (text : String) : Response :=
  ⟨status, [⟨"content-type", "text/plain; charset=utf-8"⟩], .ofText text⟩

end EdgeCache.Message
