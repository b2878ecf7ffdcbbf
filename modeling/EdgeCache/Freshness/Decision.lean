/-
How long a response stays fresh. Cache-Control decides first: a directive that forbids storing wins over every
lifetime, and the lifetime for shared caches over the general one. Then comes Expires, less the Age that the response
has. A response that says nothing usable is left to the default of the store. Values that cannot be read count as
absent.
-/
import EdgeCache.Message.Field
import EdgeCache.Freshness.HttpDate

namespace EdgeCache.Freshness

open EdgeCache.Text EdgeCache.Time EdgeCache.Message

/-- what the header of a response says about storing it -/
inductive Decision where
  /-- not to be stored -/
  | forbidden
  /-- nothing usable -/
  | unspecified
  /-- fresh for this long -/
  | lifetime (span : Span)
deriving DecidableEq

def Decision.isStorable : Decision → Bool
  | .forbidden => false
  | _ => true

/-- drop quotes at both ends -/
def unquote (cs : List Char) : List Char :=
  let quote : Char → Bool := fun c => c = '"'
  ((cs.dropWhile quote).reverse.dropWhile quote).reverse

/-- a positive number of seconds, perhaps in quotes -/
def seconds? (cs : List Char) : Option Nat := (count? (unquote (trim cs))).filter (0 < ·)

/-- two words are the same up to ASCII case -/
def isWord (word : List Char) (cs : List Char) : Bool := cs.map Char.toLower = word

def prohibitions : List (List Char) := ["no-store", "private", "no-cache"].map String.toList

def isProhibition (directive : List Char) : Bool := prohibitions.any (isWord · directive)

def directiveSeconds? (name directive : List Char) : Option Nat :=
  match cutFirst '=' directive with
  | some (n, v) => if isWord name (trim n) then seconds? v else none
  | none => none

/-- what the directives have said so far -/
structure DirectiveScan where
  shared : Option Nat
  general : Option Nat

/-- take in one directive; `none` when it forbids storing -/
def DirectiveScan.step (st : DirectiveScan) (directive : List Char) : Option DirectiveScan :=
  if isProhibition directive then none
  else some {
    shared := st.shared <|> directiveSeconds? "s-maxage".toList directive
    general := st.general <|> directiveSeconds? "max-age".toList directive }

/-- what directives decide, if they decide -/
def ofDirectives? (directives : List (List Char)) : Option Decision :=
  match directives.foldlM DirectiveScan.step ⟨none, none⟩ with
  | none => some .forbidden
  | some st => (st.shared <|> st.general).map fun n => .lifetime (.ofSeconds n)

/-- seconds of age count up to this many -/
def ageLimit : Nat := 0xFFFFFFFF

/-- what is left of a lifetime until `expires`, when the response already has an age -/
def ofExpiry (expires now : Moment) (age : Option Nat) : Decision :=
  let left := expires.since now - (min (age.getD 0) ageLimit : Nat) * nanosPerSecond
  if 0 < left then .lifetime ⟨left.toNat⟩ else .forbidden

/-- decide at a moment -/
def Decision.ofHeader (h : Header) (now : Moment) : Decision :=
  match ofDirectives? (h.elements "cache-control") with
  | some d => d
  | none =>
    match (h.line? "expires").bind readDate? with
    | some expires => ofExpiry expires now ((h.line? "age").bind fun v => seconds? v.toList)
    | none => .unspecified

end EdgeCache.Freshness
