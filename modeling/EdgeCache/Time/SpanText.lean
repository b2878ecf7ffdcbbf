/-
Spans as text, in two forms.

`Span.compound` writes a sum of numbers with units, largest unit first: "1h2m3.5s", "250ms", "1.5us", "0s". The number
is exact, and a fraction has no zeros at its end.

`Span.rounded` writes one number with three decimals in the largest unit that keeps it at least 1: "1.250s". The
number is first held as a binary fraction of 53 bits, as is its quotient by the unit, and the decimals round that
quotient, a half going to the even neighbour.
-/
import EdgeCache.Time.Span

namespace EdgeCache.Time

/-! ## Exact text -/

/-- a number below `10 ^ width` in exactly `width` digits, last digit first -/
def digitsReversed : Nat → Nat → List Char
  | 0, _ => []
  | width + 1, n => Nat.digitChar (n % 10) :: digitsReversed width (n / 10)

/-- the digits of a fraction of `width` decimals without the zeros at its end -/
def fractionDigits (width n : Nat) : List Char := ((digitsReversed width n).dropWhile (· = '0')).reverse

/-- `value / Nat.pow 10 width` in decimal -/
def decimal (value width : Nat) : List Char :=
  let whole := Nat.toDigits 10 (value / Nat.pow 10 width)
  if value % Nat.pow 10 width = 0 then whole else whole ++ '.' :: fractionDigits width (value % Nat.pow 10 width)

namespace Span

def compoundChars (d : Span) : List Char :=
  let n := d.nanos
  if n = 0 then ['0', 's']
  else if n < 1000 then decimal n 0 ++ ['n', 's']
  else if n < 1000000 then decimal n 3 ++ ['u', 's']
  else if n < 1000000000 then decimal n 6 ++ ['m', 's']
  else
    let total := d.seconds
    let hours := total / 3600
    let minutes := total % 3600 / 60
    let tail := decimal (total % 60 * nanosPerSecond + d.subsecond) 9 ++ ['s']
    if hours > 0 then Nat.toDigits 10 hours ++ 'h' :: Nat.toDigits 10 minutes ++ 'm' :: tail
    else if minutes > 0 then Nat.toDigits 10 minutes ++ 'm' :: tail
    else tail

/-- a span as a sum of numbers with units -/
def compound (d : Span) : String := String.ofList d.compoundChars

end Span

/-! ## Rounded text -/

/-- `num / den` to the nearest integer, a half to the even one -/
def roundDiv (num den : Nat) : Nat :=
  let q := num / den
  let r := num % den
  if 2 * r < den then q else if den < 2 * r then q + 1 else q + q % 2

structure Fraction where
  num : Nat
  den : Nat

/-- the nearest fraction of at most 53 bits above a power of two, for a value of at least 1 -/
def Fraction.binary (x : Fraction) : Fraction :=
  let e := Nat.log2 (x.num / x.den)
  if e ≤ 52 then ⟨roundDiv (x.num * Nat.pow 2 (52 - e)) x.den, Nat.pow 2 (52 - e)⟩
  else ⟨roundDiv x.num (x.den * Nat.pow 2 (e - 52)) * Nat.pow 2 (e - 52), 1⟩

def Fraction.threeDecimals (x : Fraction) : List Char :=
  let n := roundDiv (x.num * 1000) x.den
  Nat.toDigits 10 (n / 1000) ++ '.' :: (digitsReversed 3 (n % 1000)).reverse

namespace Span

/-- the count of nanoseconds over a unit, held in binary before and after the division -/
def inUnits (d : Span) (unit : Nat) : Fraction :=
  if d.nanos = 0 then ⟨0, 1⟩
  else
    let n := (Fraction.mk d.nanos 1).binary
    (Fraction.mk n.num (n.den * unit)).binary

/-- a span as one number with three decimals -/
def rounded (d : Span) : String :=
  let n := d.nanos
  let (unit, name) :=
    if n ≥ 1000000000 then (1000000000, ['s'])
    else if n ≥ 1000000 then (1000000, ['m', 's'])
    else if n ≥ 1000 then (1000, ['u', 's'])
    else (1, ['n', 's'])
  String.ofList ((d.inUnits unit).threeDecimals ++ name)

end Span

end EdgeCache.Time
