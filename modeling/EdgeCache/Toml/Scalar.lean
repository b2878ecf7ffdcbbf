/-
Numbers, dates and truth values. Integers have 64 bits, their sign included. A number with a fraction must not be too
large for a double; dates are checked against the calendar.
-/
import EdgeCache.Document
import EdgeCache.Toml.Reader

namespace EdgeCache.Toml

open EdgeCache.Text

/-- digits of a base, with single underscores allowed between them -/
def digitRun (isDigit : Char → Bool) : Reader (List Char) := do
  let first ← charWhere isDigit
  let rest ← many (charWhere isDigit <|> (char '_' *> charWhere isDigit))
  return first :: rest

/-- whether a minus is there; a plus means nothing -/
def sign : Reader Bool := (char '-' *> pure true) <|> (char '+' *> pure false) <|> pure false

/-- decimal digits without leading zeros -/
def plainDigits : Reader (List Char) := fun cs =>
  match cs with
  | '0' :: rest => some (['0'], rest)
  | _ => digitRun Char.isDigit cs

/-- a number of 64 bits, sign included -/
def inRange (n : Int) : Reader Int := if -0x8000000000000000 ≤ n ∧ n < 0x8000000000000000 then pure n else failure

/-- digits of a base after the mark for it -/
def inBase (base : Nat) (mark : String) : Reader Int := do
  word mark
  let value := fun c => (hexValue? c).getD base
  let digits ← digitRun fun c => value c < base
  inRange (digits.foldl (fun n c => base * n + value c) 0 : Nat)

def integer : Reader Int :=
  inBase 16 "0x" <|> inBase 8 "0o" <|> inBase 2 "0b" <|> do
    let negative ← sign
    let n : Int := digitsFrom 0 (← plainDigits)
    inRange (if negative then -n else n)

/-- whether `mantissa * 10 ^ exponent` lies beyond the doubles: halfway between the largest and the next, or more -/
def tooLarge (mantissa : Nat) (exponent : Int) : Bool :=
  let places : Int := (Nat.toDigits 10 mantissa).length + exponent
  if mantissa = 0 ∨ places < 300 then false
  else if 400 < places then true
  else (Nat.pow 2 1024 - Nat.pow 2 970) * Nat.pow 10 (-exponent).toNat ≤ mantissa * Nat.pow 10 exponent.toNat

def exponent : Reader Int := do
  char 'e' <|> char 'E'
  let negative ← sign
  let n : Int := digitsFrom 0 (← digitRun Char.isDigit)
  return if negative then -n else n

/-- a number with a fraction or a power of ten -/
def decimal : Reader Unit := do
  let negative ← sign
  let whole ← plainDigits
  let fraction ← maybe (char '.' *> digitRun Char.isDigit)
  let power ← maybe exponent
  if fraction = none ∧ power = none then failure
  let fraction := fraction.getD []
  if !negative && tooLarge (digitsFrom 0 (whole ++ fraction)) (power.getD 0 - fraction.length) then failure

/-- infinity, or what is no number -/
def unbounded : Reader Unit := do
  let _ ← sign
  word "inf" <|> word "nan"

def twoDigits (low high : Nat) : Reader Nat := do
  let tens ← charWhere Char.isDigit
  let ones ← charWhere Char.isDigit
  let n := 10 * digitValue tens + digitValue ones
  if low ≤ n ∧ n ≤ high then return n else failure

def monthLength (year month : Nat) : Nat :=
  if month = 2 then if year % 4 = 0 ∧ (year % 100 ≠ 0 ∨ year % 400 = 0) then 29 else 28
  else if month = 4 ∨ month = 6 ∨ month = 9 ∨ month = 11 then 30
  else 31

def day : Reader Unit := do
  let century ← twoDigits 0 99
  let year ← twoDigits 0 99
  char '-'
  let month ← twoDigits 1 12
  char '-'
  let _ ← twoDigits 1 (monthLength (100 * century + year) month)

/-- a time of day; a minute may have a leap second -/
def time : Reader Unit := do
  let _ ← twoDigits 0 23
  char ':'
  let _ ← twoDigits 0 59
  char ':'
  let _ ← twoDigits 0 60
  let _ ← maybe do
    char '.'
    let _ ← charWhere Char.isDigit
    let _ ← charsWhere Char.isDigit

/-- the distance from universal time -/
def offset : Reader Unit :=
  char 'Z' <|> char 'z' <|> do
    char '+' <|> char '-'
    let _ ← twoDigits 0 23
    char ':'
    let _ ← twoDigits 0 59

/-- a day, a time of day, or both with an offset if need be -/
def date : Reader Unit :=
  (do
    day
    let _ ← maybe do
      char 'T' <|> char 't' <|> char ' '
      time
      maybe offset) <|> time

/-- a number, a date or a truth value -/
def scalar : Reader Document :=
  .date <$> written date <|> .real <$> written (decimal <|> unbounded) <|> .integer <$> integer <|>
    (word "true" *> pure (.flag true)) <|> (word "false" *> pure (.flag false))

end EdgeCache.Toml
