/-
Absolute URLs. `Url.read` takes a text apart into scheme, user information, host, port, path, query and fragment, or
says why the text is no URL. Tabs and line ends inside the text are skipped, as are blanks and controls at its ends.
A known scheme accepts a backslash for a slash and any number of slashes in front of the authority.
-/
import EdgeCache.Address.Host

namespace EdgeCache.Address

open EdgeCache.Text

/-- kinds of scheme, which read what follows them in different ways -/
inductive SchemeKind where
  | file
  /-- a scheme with a host and a default port -/
  | network (defaultPort : Nat)
  | other

def schemeKind (scheme : String) : SchemeKind :=
  if scheme = "file" then .file
  else if scheme = "http" ∨ scheme = "ws" then .network 80
  else if scheme = "https" ∨ scheme = "wss" then .network 443
  else if scheme = "ftp" then .network 21
  else .other

/-- the scheme is one whose URLs name hosts of the network -/
def knowsHosts : SchemeKind → Bool
  | .other => false
  | _ => true

/-- a URL, its text after the host as it was written -/
structure Url where
  scheme : String
  /-- user name and password, when the authority holds any -/
  userInfo : Option (List Char)
  host : Option Host
  /-- a port that is not the default of the scheme -/
  port : Option Nat
  path : List Char
  query : Option (List Char)
  fragment : Option (List Char)
deriving DecidableEq

namespace Url

/-- the text without blanks and controls at its ends, tabs and line ends -/
def clean (cs : List Char) : List Char :=
  let low : Char → Bool := fun c => c.toNat ≤ 0x20
  (((cs.dropWhile low).reverse.dropWhile low).reverse).filter fun c => c ≠ '\t' ∧ c ≠ '\n' ∧ c ≠ '\r'

/-- the scheme in small letters and what follows its colon -/
def scheme? (cs : List Char) : Option (String × List Char) :=
  match cutFirst ':' cs with
  | some (name, rest) =>
    if name.head?.any Char.isAlpha ∧ name.all (fun c => c.isAlphanum || c = '+' || c = '-' || c = '.') then
      some (lower (String.ofList name), rest)
    else none
  | none => none

def endsAuthority (known : Bool) (c : Char) : Bool := c = '/' || c = '?' || c = '#' || (known && c = '\\')

/-- what an authority holds in front of its last "@" -/
structure UserInfo where
  text : Option (List Char)
  rest : List Char

/-- split user information off; a URL with an "@" needs a host behind it -/
def splitUser (known : Bool) (cs : List Char) : Except UrlError UserInfo :=
  let authority := cs.takeWhile (fun c => !endsAuthority known c)
  let after := cs.drop authority.length
  match cutLast '@' authority with
  | none => .ok ⟨none, cs⟩
  | some (user, host) =>
    if user = [] ∧ host = [] ∧ after ≠ [] then .error .emptyHost
    else .ok ⟨if user = [] ∨ user = [':'] then none else some user, host ++ after⟩

/-- the character ends a host, `inside` saying whether a bracket is open -/
def endsHost (known inside : Bool) (c : Char) : Bool := endsAuthority known c || (c = ':' && !inside)

def splitHost (known inside : Bool) : List Char → List Char × List Char
  | [] => ([], [])
  | c :: cs =>
    if endsHost known inside c then ([], c :: cs)
    else
      let inside := if c = '[' then true else if c = ']' then false else inside
      let (h, r) := splitHost known inside cs
      (c :: h, r)

/-- a port number, nothing when no digit is there, and what follows -/
def readPort (cs : List Char) : Except UrlError (Option Nat × List Char) :=
  let digits := cs.takeWhile Char.isDigit
  let rest := cs.drop digits.length
  if digitsFrom 0 digits > 65535 then .error .port
  else
    match rest with
    | c :: _ =>
      if c = '/' ∨ c = '\\' ∨ c = '?' ∨ c = '#' then .ok (digits? digits, rest) else .error .port
    | [] => .ok (digits? digits, [])

/-- path, query and fragment -/
def splitPath (cs : List Char) : List Char × Option (List Char) × Option (List Char) :=
  let (front, fragment) :=
    match cutFirst '#' cs with
    | some (a, b) => (a, some b)
    | none => (cs, none)
  match cutFirst '?' front with
  | some (a, b) => (a, some b, fragment)
  | none => (front, none, fragment)

/-- a URL without authority -/
def bare (scheme : String) (cs : List Char) : Url :=
  let (path, query, fragment) := splitPath cs
  { scheme, userInfo := none, host := none, port := none, path, query, fragment }

/-- a host, a port and the rest, behind user information -/
def readHost (scheme : String) (kind : SchemeKind) (user : UserInfo) : Except UrlError Url := do
  let known := knowsHosts kind
  let (hostText, rest) := splitHost known false user.rest
  if known ∧ hostText = [] then throw .emptyHost
  let host ← if known then Host.read hostText else Host.readOpaque hostText
  if hostText = [] ∧ rest.head? = some ':' then throw .emptyHost
  let (port, rest) ←
    match rest with
    | ':' :: r => readPort r
    | r => pure (none, r)
  if hostText = [] ∧ user.text.isSome then throw .emptyHost
  let (path, query, fragment) := splitPath rest
  let port := match kind with | .network d => if port = some d then none else port | _ => port
  return {
    scheme, userInfo := user.text, host := if hostText = [] then none else some host, port, path, query, fragment }

def readAuthority (scheme : String) (kind : SchemeKind) (cs : List Char) : Except UrlError Url := do
  let user ← splitUser (knowsHosts kind) cs
  readHost scheme kind user

/-- a letter and a colon or bar, which a file URL does not take for a host -/
def isDriveLetter : List Char → Bool
  | [a, b] => a.isAlpha && (b = ':' || b = '|')
  | _ => false

/-- a file URL: a host only after two slashes -/
def readFile (cs : List Char) : Except UrlError Url :=
  let slash : Char → Bool := fun c => c = '/' || c = '\\'
  match cs with
  | a :: b :: r =>
    if slash a && slash b then
      let hostText := r.takeWhile (fun c => !endsAuthority true c)
      if hostText = [] ∨ isDriveLetter hostText then .ok (bare "file" r)
      else
        (Host.read hostText).map fun h =>
          { bare "file" (r.drop hostText.length) with host := if h = .name "localhost" then none else some h }
    else .ok (bare "file" cs)
  | _ => .ok (bare "file" cs)

def read (s : String) : Except UrlError Url :=
  match scheme? (clean s.toList) with
  | none => .error .relative
  | some (scheme, rest) =>
    match schemeKind scheme with
    | .file => readFile rest
    | .network d => readAuthority scheme (.network d) (rest.dropWhile fun c => c = '/' || c = '\\')
    | .other =>
      match rest with
      | '/' :: '/' :: r => readAuthority scheme .other r
      | r => .ok (bare scheme r)

end Url

end EdgeCache.Address
