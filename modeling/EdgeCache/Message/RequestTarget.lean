/-
Request targets: what stands between method and version in a request line. A target is a path with an optional query,
an absolute form with scheme and authority in front, an authority alone, or an asterisk. A fragment is dropped.
-/
import EdgeCache.Text.Blank
import EdgeCache.Text.Decimal

namespace EdgeCache.Message

open EdgeCache.Text

inductive TargetError where
  | empty
  | tooLong
  | character
  | authority
  | format
  | schemeTooLong
deriving DecidableEq

def TargetError.message : TargetError → String
  | .empty => "empty string"
  | .tooLong => "uri too long"
  | .character => "invalid uri character"
  | .authority => "invalid authority"
  | .format => "invalid format"
  | .schemeTooLong => "scheme too long"

structure RequestTarget where
  /-- the scheme of an absolute form -/
  scheme : Option (List Char)
  /-- empty unless the target names an authority -/
  authority : List Char
  /-- path and query as written, empty when the target has none -/
  rest : List Char
deriving DecidableEq, Inhabited

namespace RequestTarget

def isAuthorityChar (c : Char) : Bool := c.isAlphanum || "!$&'()*+,-.:;=@[]_~".toList.contains c

def isPathChar (c : Char) : Bool :=
  let n := c.toNat
  0x21 ≤ n && c ≠ '#' && c ≠ '<' && c ≠ '>' && c ≠ '?' && c ≠ '`'

def isQueryChar (c : Char) : Bool :=
  let n := c.toNat
  0x21 ≤ n && c ≠ '"' && c ≠ '#' && c ≠ '<' && c ≠ '>'

def isSchemeChar (c : Char) : Bool := c.isAlphanum || c = '+' || c = '-' || c = '.' || c = '~'

/-- most octets in a target -/
def maxLength : Nat := 65534

/-- what has been seen of an authority -/
structure AuthorityScan where
  colons : Nat
  opened : Bool
  closed : Bool
  percent : Bool
  /-- the last character was an "@" -/
  atEnd : Bool

def AuthorityScan.step (st : AuthorityScan) (c : Char) : Except TargetError AuthorityScan :=
  let st := { st with atEnd := false }
  if c = ':' then if st.colons ≥ 8 then .error .authority else .ok { st with colons := st.colons + 1 }
  else if c = '[' then if st.percent || st.opened then .error .authority else .ok { st with opened := true }
  else if c = ']' then
    if !st.opened || st.closed then .error .authority
    else .ok { st with closed := true, colons := 0, percent := false }
  else if c = '@' then .ok { st with colons := 0, percent := false, atEnd := true }
  else if c = '%' then .ok { st with percent := true }
  else if isAuthorityChar c then .ok st
  else .error .character

/-- an authority in front of a path, a query or the end, and what follows it -/
def takeAuthority (cs : List Char) : Except TargetError (List Char × List Char) := do
  let front := cs.takeWhile fun c => c ≠ '/' ∧ c ≠ '?' ∧ c ≠ '#'
  let st ← front.foldlM AuthorityScan.step ⟨0, false, false, false, false⟩
  if st.opened ≠ st.closed ∨ st.colons > 1 ∨ st.atEnd ∨ st.percent then .error .authority
  else .ok (front, cs.drop front.length)

/-- path and query without the fragment -/
def readRest (cs : List Char) : Except TargetError (List Char) :=
  let path := cs.takeWhile fun c => c ≠ '?' ∧ c ≠ '#'
  if !path.all isPathChar then .error .character
  else
    match cs.drop path.length with
    | '?' :: r =>
      let query := r.takeWhile (· ≠ '#')
      if query.all isQueryChar then .ok (path ++ '?' :: query) else .error .character
    | _ => .ok path

/-- a scheme and what follows its "://" -/
def takeScheme (cs : List Char) : Except TargetError (Option (List Char) × List Char) :=
  let name := cs.takeWhile isSchemeChar
  match cs.drop name.length with
  | ':' :: '/' :: '/' :: r => if name.length > 64 then .error .schemeTooLong else .ok (some name, r)
  | _ => .ok (none, cs)

def read (s : String) : Except TargetError RequestTarget :=
  let cs := s.toList
  if s.utf8ByteSize > maxLength then .error .tooLong
  else
    match cs with
    | [] => .error .empty
    | ['*'] => .ok ⟨none, [], cs⟩
    | '/' :: _ => (readRest cs).map fun rest => ⟨none, [], rest⟩
    | [_] => do
      let (authority, rest) ← takeAuthority cs
      if rest = [] then .ok ⟨none, authority, []⟩ else .error .character
    | _ => do
      let (scheme, cs) ← takeScheme cs
      let (authority, rest) ← takeAuthority cs
      match scheme with
      | none => if rest = [] then .ok ⟨none, authority, []⟩ else .error .format
      | some name => if authority = [] then .error .format else .ok ⟨some name, authority, ← readRest rest⟩

/-- the path: an absolute form without one has the root, an authority alone has none -/
def path (t : RequestTarget) : List Char :=
  let p := t.rest.takeWhile (· ≠ '?')
  if t.scheme.isSome ∨ t.rest ≠ [] then (if p = [] then ['/'] else p) else []

def query? (t : RequestTarget) : Option (List Char) := (cutFirst '?' t.rest).map (·.2)

/-- path and query as an origin is asked for them, always from the root -/
def pathAndQuery (t : RequestTarget) : List Char := if t.rest.head? = some '/' then t.rest else ['/']

end RequestTarget

end EdgeCache.Message
