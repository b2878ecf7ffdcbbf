/-
IPv4 addresses in the forms that a URL may write them: one to four numbers, each decimal, octal or hexadecimal, the
last one filling the octets that are left.
-/
import EdgeCache.Text.Blank
import EdgeCache.Text.Decimal

namespace EdgeCache.Address

open EdgeCache.Text

structure Ipv4 where
  bits : Nat
  bits_lt : bits < 0x100000000
deriving DecidableEq

namespace Ipv4

/-- the four octets, first to last -/
def octets (a : Ipv4) : List Nat :=
  [a.bits / 0x1000000, a.bits / 0x10000 % 256, a.bits / 0x100 % 256, a.bits % 256]

/-- dotted decimal -/
def text (a : Ipv4) : String := String.intercalate "." (a.octets.map toString)

/-- digits of a base, read -/
def inBase? (base : Nat) (cs : List Char) : Option Nat :=
  cs.foldlM (fun n c => (hexValue? c).bind fun d => if d < base then some (base * n + d) else none) 0

/-- a number of any length: hexadecimal after "0x", octal after "0", else decimal -/
def number? : List Char → Option Nat
  | [] => none
  | '0' :: 'x' :: r => inBase? 16 r
  | '0' :: 'X' :: r => inBase? 16 r
  | '0' :: c :: r => inBase? 8 (c :: r)
  | cs => inBase? 10 cs

/-- the labels of a name without the empty one that a final dot leaves -/
def parts (cs : List Char) : List (List Char) :=
  let ps := splitOn '.' cs
  if ps.length > 1 ∧ ps.getLast? = some [] then ps.dropLast else ps

/-- the last label makes a host name an IPv4 address -/
def isNumeric (cs : List Char) : Bool :=
  match (parts cs).getLast? with
  | some l => (!l.isEmpty && l.all Char.isDigit) || (number? l).isSome
  | none => false

/-- the leading octets, each below 256 -/
def leading? (ns : List Nat) : Option Nat :=
  ns.foldlM (fun n x => if x < 256 then some (256 * n + x) else none) 0

def read? (cs : List Char) : Option Ipv4 := do
  let ns ← (parts cs).mapM number?
  let last ← ns.getLast?
  if ns.length > 4 then none
  else
    let rest := Nat.pow 256 (5 - ns.length)
    let head ← leading? ns.dropLast
    if last < rest then
      let bits := head * rest + last
      if h : bits < 0x100000000 then some ⟨bits, h⟩ else none
    else none

end Ipv4

end EdgeCache.Address
