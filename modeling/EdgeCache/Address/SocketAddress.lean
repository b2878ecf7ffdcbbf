/-
Socket addresses: an IPv4 address in dotted decimal or an IPv6 address in brackets, with a port. Names are not
resolved, and nothing may stand around the address.
-/
import EdgeCache.Address.Ipv6
import EdgeCache.Text.Blank

namespace EdgeCache.Address

open EdgeCache.Text

inductive SocketAddress where
  | v4 (octets : List Nat) (port : Nat)
  | v6 (ip : Ipv6) (zone port : Nat)
deriving DecidableEq

namespace SocketAddress

/-- a decimal number below a limit, of any length -/
def number? (limit : Nat) (cs : List Char) : Option Nat := (digits? cs).filter (· < limit)

def port? : List Char → Option Nat := number? 65536

/-- one octet in decimal, without leading zeros -/
def octet? (cs : List Char) : Option Nat :=
  if cs.length > 3 ∨ (cs.head? = some '0' ∧ cs.length > 1) then none else number? 256 cs

/-- four octets and a port -/
def readV4? (cs : List Char) : Option SocketAddress := do
  let (host, port) ← cutFirst ':' cs
  let octets ← (splitOn '.' host).mapM octet?
  if octets.length = 4 then return .v4 octets (← port? port) else none

/-- an address in brackets, with the number of a zone or without, and a port -/
def readV6? (cs : List Char) : Option SocketAddress := do
  let (inner, port) ← cutFirst ']' cs
  let port ← (match port with | ':' :: digits => port? digits | _ => none)
  match cutFirst '%' inner with
  | none => return .v6 (← Ipv6.read? inner) 0 port
  | some (ip, zone) => return .v6 (← Ipv6.read? ip) (← number? 0x100000000 zone) port

def read? (text : String) : Option SocketAddress :=
  match text.toList with
  | '[' :: cs => readV6? cs
  | cs => readV4? cs

end SocketAddress

end EdgeCache.Address
