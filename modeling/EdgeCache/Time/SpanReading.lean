/-
Spans from text: a sum of numbers with units, as in "1h2m3.5s". A number is written in decimal, perhaps with a fraction;
the units are hours, minutes, seconds and the thousandths of each other below them. Each term is a whole number of
nanoseconds, and there is at least one.
-/
import EdgeCache.Text.Blank
import EdgeCache.Text.Decimal
import EdgeCache.Time.Span

namespace EdgeCache.Time

open EdgeCache.Text

def unit? : List Char → Option Nat
  | ['h'] => some (3600 * nanosPerSecond)
  | ['m'] => some (60 * nanosPerSecond)
  | ['s'] => some nanosPerSecond
  | ['m', 's'] => some 1000000
  | ['u', 's'] => some 1000
  | ['n', 's'] => some 1
  | _ => none

/-- a number times a unit, if that is a whole number -/
def times? (number : List Char) (unit : Nat) : Option Nat :=
  match splitOn '.' number with
  | [whole] => (digits? whole).map (· * unit)
  | [whole, decimals] =>
    match digits? whole, digits? decimals with
    | some n, some m =>
      let scale := Nat.pow 10 decimals.length
      if m * unit % scale = 0 then some (n * unit + m * unit / scale) else none
    | _, _ => none
  | _ => none

def isNumberChar (c : Char) : Bool := c.isDigit || c = '.'

/-- numbers and the names between them, in turn -/
def runs (cs : List Char) : List (List Char) := cs.splitBy fun a b => isNumberChar a == isNumberChar b

/-- the nanoseconds of numbers with units -/
def sum? : List (List Char) → Option Nat
  | [] => some 0
  | [_] => none
  | number :: name :: rest => ((unit? name).bind (times? number)).bind fun n => (sum? rest).map (n + ·)

def Span.ofCompound? (s : String) : Option Span := if s = "" then none else (sum? (runs s.toList)).map Span.mk

end EdgeCache.Time
