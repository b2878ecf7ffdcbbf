/-
Amounts of time: a number with a unit, as the terms of a span's text are. A text that is made of amounts says which they
are, so that a rule about the terms of a text can be put as one about amounts.
-/
import EdgeCache.Time.Span

namespace EdgeCache.Time

/-- the units of spans -/
inductive Measure where
  | hour
  | minute
  | second
  | millisecond
  | microsecond
  | nanosecond
deriving DecidableEq

namespace Measure

def name : Measure → List Char
  | .hour => ['h']
  | .minute => ['m']
  | .second => ['s']
  | .millisecond => ['m', 's']
  | .microsecond => ['u', 's']
  | .nanosecond => ['n', 's']

def nanos : Measure → Nat
  | .hour => 3600 * nanosPerSecond
  | .minute => 60 * nanosPerSecond
  | .second => nanosPerSecond
  | .millisecond => 1000000
  | .microsecond => 1000
  | .nanosecond => 1

end Measure

/-- a decimal number of units -/
structure Amount where
  whole : Nat
  /-- the digits behind the point, none for a whole number -/
  decimals : List Char
  unit : Measure
deriving DecidableEq

namespace Amount

def number (a : Amount) : List Char :=
  Nat.toDigits 10 a.whole ++ if a.decimals = [] then [] else '.' :: a.decimals

def text (a : Amount) : List Char := a.number ++ a.unit.name

/-- a text is made of amounts, one behind the other -/
structure Spells (s : String) (amounts : List Amount) : Prop where
  text : s.toList = amounts.flatMap Amount.text
  digits : ∀ a ∈ amounts, ∀ c ∈ a.decimals, c.isDigit = true

end Amount

end EdgeCache.Time
