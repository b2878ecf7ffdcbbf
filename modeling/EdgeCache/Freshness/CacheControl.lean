/-
What the directives of Cache-Control mean, each taken by itself, and which of them decides. The order of the rules is
that of their weight and not that of the directives: a prohibition before a lifetime for shared caches, and that before
a lifetime for all. `FollowsCacheControl` says what this comes to for a whole header: what decides, and what does not
count.
-/
import Mathlib.Algebra.GroupWithZero.Nat
import EdgeCache.Freshness.Decision

namespace EdgeCache.Freshness

open EdgeCache.Text EdgeCache.Time EdgeCache.Message

/-- the text writes a number: digits, after at most one plus sign -/
def Writes (cs : List Char) (n : Nat) : Prop :=
  ∃ digits, (cs = digits ∨ cs = '+' :: digits) ∧ digits ≠ [] ∧ (∀ c ∈ digits, c.isDigit = true) ∧
    digitsFrom 0 digits = n

/-- the directive is a word that forbids storing, in small or capital letters -/
def Forbids (directive : List Char) : Prop :=
  ∃ word ∈ ["no-store", "private", "no-cache"], directive.map Char.toLower = word.toList

/-- the directive has a name and a value, with the first equals sign between them. Case and blanks around the name do
not count. -/
def Assigns (name : String) (directive value : List Char) : Prop :=
  ∃ label, directive = label ++ '=' :: value ∧ '=' ∉ label ∧ (trim label).map Char.toLower = name.toList

/-- the directive gives a number of seconds under a name: its value without blanks, and then without quotes, at its ends
writes a number that is not zero and has 64 bits -/
def Gives (name : String) (directive : List Char) (n : Nat) : Prop :=
  ∃ value, Assigns name directive value ∧ Writes (unquote (trim value)) n ∧ 1 ≤ n ∧ n ≤ 2 ^ 64 - 1

/-- the first of the directives that gives seconds under a name gives so many -/
def GivesFirst (name : String) (directives : List (List Char)) (n : Nat) : Prop :=
  ∃ before directive after, directives = before ++ directive :: after ∧ Gives name directive n ∧
    ∀ d ∈ before, ∀ m, ¬Gives name d m

/-- none of the directives gives seconds under a name -/
def GivesNone (name : String) (directives : List (List Char)) : Prop := ∀ d ∈ directives, ∀ n, ¬Gives name d n

/-- what directives decide, with `otherwise` for those that decide nothing -/
inductive Means (directives : List (List Char)) (otherwise : Decision) : Decision → Prop where
  | forbidden (one : ∃ d ∈ directives, Forbids d) : Means directives otherwise .forbidden
  | shared {n : Nat} (allowed : ∀ d ∈ directives, ¬Forbids d) (first : GivesFirst "s-maxage" directives n) :
      Means directives otherwise (.lifetime (.ofSeconds n))
  | general {n : Nat} (allowed : ∀ d ∈ directives, ¬Forbids d) (noShared : GivesNone "s-maxage" directives)
      (first : GivesFirst "max-age" directives n) : Means directives otherwise (.lifetime (.ofSeconds n))
  | silent (allowed : ∀ d ∈ directives, ¬Forbids d) (noShared : GivesNone "s-maxage" directives)
      (noGeneral : GivesNone "max-age" directives) : Means directives otherwise otherwise

def isNamed (name : String) (directive : List Char) : Bool :=
  (cutFirst '=' directive).any fun (label, _) => isWord name.toList (trim label)

/-- two headers say the same about freshness outside of Cache-Control -/
def SameOtherwise (h g : Header) : Prop :=
  g.values "expires" = h.values "expires" ∧ g.values "age" = h.values "age"

structure FollowsCacheControl (h : Header) (now : Moment) : Prop where
  /-- the decision is what the directives mean. It is that without Cache-Control if they decide nothing. -/
  meant : ∀ d, Means (h.elements "cache-control") (.ofHeader (h.without "cache-control") now) d ↔ d = .ofHeader h now
  /-- if the directives decide, then nothing else does: no other field and not the moment -/
  alone : (∃ d ∈ h.elements "cache-control", Forbids d ∨ ∃ n, Gives "s-maxage" d n ∨ Gives "max-age" d n) →
    ∀ (g : Header) (moment : Moment), g.elements "cache-control" = h.elements "cache-control" →
      Decision.ofHeader g moment = .ofHeader h now
  /-- it does not count at which commas the text of the directives is spread over lines -/
  lines : ∀ g, SameOtherwise h g → ",".intercalate (g.lines "cache-control") = ",".intercalate (h.lines "cache-control") →
    Decision.ofHeader g now = .ofHeader h now
  /-- the order of the directives does not count, except among those of one of the two names -/
  order : ∀ g, SameOtherwise h g → (g.elements "cache-control").Perm (h.elements "cache-control") →
    (∀ name ∈ ["s-maxage", "max-age"],
      (g.elements "cache-control").filter (isNamed name) = (h.elements "cache-control").filter (isNamed name)) →
    Decision.ofHeader g now = .ofHeader h now

end EdgeCache.Freshness
