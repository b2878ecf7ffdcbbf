/-
Keys of stored responses: the SHA-256 digest of the requested host followed by the path, or of the path alone. Nothing
marks where the host ends. The digest is read as four words, which choose the shard and the counters of a key.
-/
import EdgeCache.Text.Sha256
import EdgeCache.Text.Decimal

namespace EdgeCache.Store

open EdgeCache.Text

/-- the digest of a host and a path -/
structure Key where
  octets : List UInt8
deriving DecidableEq, Inhabited

namespace Key

/-- a number from octets, least significant first -/
def littleEndian (os : List UInt8) : Nat := os.foldr (fun o n => o.toNat + 256 * n) 0

/-- the `i`-th of the four words of 64 bits -/
def word (k : Key) (i : Nat) : Nat := littleEndian ((k.octets.drop (8 * (i % 4))).take 8)

instance : Hashable Key := ⟨fun k => UInt64.ofNat (k.word 0)⟩

/-- the text whose digest is the key: host and path, or the path alone -/
def material (ignoreHost : Bool) (host path : String) : List UInt8 :=
  if ignoreHost then path.toUTF8.data.toList else host.toUTF8.data.toList ++ path.toUTF8.data.toList

def derive (ignoreHost : Bool) (host path : String) : Key := ⟨Sha256.digest (material ignoreHost host path)⟩

def hexText (k : Key) : String := String.join (k.octets.map fun o => hexByte o.toNat)

/-- the first eight octets in hexadecimal, as logs show a key -/
def shortText (k : Key) : String := String.join ((k.octets.take 8).map fun o => hexByte o.toNat) ++ "…"

end Key

end EdgeCache.Store
