/-
Hosts of a URL: a name in its ASCII form, an IPv4 or an IPv6 address, or text that means something to its own scheme.
-/
import EdgeCache.Unicode.DomainName
import EdgeCache.Address.Ipv4
import EdgeCache.Address.Ipv6

namespace EdgeCache.Address

open EdgeCache.Text

inductive UrlError where
  | emptyHost
  | domainName
  | port
  | ipv4
  | ipv6
  | relative
  | domainCharacter
deriving DecidableEq

def UrlError.message : UrlError → String
  | .emptyHost => "empty host"
  | .domainName => "invalid international domain name"
  | .port => "invalid port number"
  | .ipv4 => "invalid IPv4 address"
  | .ipv6 => "invalid IPv6 address"
  | .relative => "relative URL without a base"
  | .domainCharacter => "invalid domain character"

inductive Host where
  | name : String → Host
  | ipv4 : Ipv4 → Host
  | ipv6 : Ipv6 → Host
deriving DecidableEq

namespace Host

/-- the host as a URL writes it -/
def text : Host → String
  | .name s => s
  | .ipv4 a => a.text
  | .ipv6 a => "[" ++ a.text ++ "]"

/-- octets with each "%xx" replaced by the octet it stands for -/
def unescape : List UInt8 → List UInt8
  | [] => []
  | [a] => [a]
  | [a, b] => [a, b]
  | a :: b :: c :: r =>
    match a == '%'.toUInt8, hexValue? (Char.ofNat b.toNat), hexValue? (Char.ofNat c.toNat) with
    | true, some x, some y => UInt8.ofNat (16 * x + y) :: unescape r
    | _, _, _ => a :: unescape (b :: c :: r)

/-- the text with each "%xx" replaced, if the octets are UTF-8 -/
def unescaped? (cs : List Char) : Option String :=
  if '%' ∈ cs then String.fromUTF8? ⟨(unescape (String.ofList cs).toUTF8.data.toList).toArray⟩
  else some (String.ofList cs)

def bracketed? (cs : List Char) : Except UrlError Host :=
  match cs.getLast? with
  | some ']' =>
    match Ipv6.read? (cs.drop 1).dropLast with
    | some a => .ok (.ipv6 a)
    | none => .error .ipv6
  | _ => .error .ipv6

/-- read the host of a URL whose scheme knows domain names -/
def read (cs : List Char) : Except UrlError Host :=
  if cs.head? = some '[' then bracketed? cs
  else
    match (unescaped? cs).bind Unicode.DomainName.toAscii? with
    | none => .error .domainName
    | some ascii =>
      if ascii = "" then .error .emptyHost
      else if Ipv4.isNumeric ascii.toList then
        match Ipv4.read? ascii.toList with
        | some a => .ok (.ipv4 a)
        | none => .error .ipv4
      else .ok (.name ascii)

/-- read the host of a URL whose scheme is not known; such a host may be empty -/
def readOpaque (cs : List Char) : Except UrlError Host :=
  if cs.head? = some '[' then bracketed? cs
  else if cs.any (fun c => "\x00\t\n\r #/:<>?@[\\]^|".toList.contains c) then .error .domainCharacter
  else .ok (.name (String.ofList cs))

end Host

end EdgeCache.Address
