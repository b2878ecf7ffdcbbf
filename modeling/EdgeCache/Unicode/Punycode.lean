/-
Punycode, the ASCII spelling of a label of an internationalised domain name: `encode` writes the basic characters,
then where the others are inserted; `decode?` reads it back and fails on anything that is no such text.
-/
import EdgeCache.Text.Blank

namespace EdgeCache.Unicode.Punycode

open EdgeCache.Text

/-- numbers of an encoded label stay below this -/
def wordLimit : Nat := 0x100000000

/-- the digit threshold at position `k` -/
def threshold (k bias : Nat) : Nat := max 1 (min 26 (k - bias))

/-- scale a delta down to the range of a few digits -/
def scaleDelta (delta k : Nat) : Nat :=
  if h : 455 < delta then scaleDelta (delta / 35) (k + 36) else k + 36 * delta / (delta + 38)
termination_by delta
decreasing_by omega

/-- the bias for the next delta -/
def adapt (delta count : Nat) (first : Bool) : Nat :=
  let d := if first then delta / 700 else delta / 2
  scaleDelta (d + d / count) 0

/-- the value of a digit; letters of either case count from 0, numerals from 26 -/
def digitValue? (c : Char) : Option Nat :=
  if 'a' ≤ c ∧ c ≤ 'z' then some (c.toNat - 'a'.toNat)
  else if 'A' ≤ c ∧ c ≤ 'Z' then some (c.toNat - 'A'.toNat)
  else if '0' ≤ c ∧ c ≤ '9' then some (c.toNat - '0'.toNat + 26)
  else none

def digit (n : Nat) : Char := if n < 26 then Char.ofNat ('a'.toNat + n) else Char.ofNat ('0'.toNat + (n - 26))

/-- a code point that is a character -/
def isScalar (n : Nat) : Bool := n < 0xD800 || (0xE000 ≤ n && n < 0x110000)

/-- reading under way: the text so far, the insertion place, the code point and the bias -/
structure Reading where
  text : List Nat
  place : Nat
  point : Nat
  bias : Nat
  /-- start of the delta being read -/
  start : Nat
  weight : Nat
  position : Nat

def Reading.step (st : Reading) (c : Char) : Option Reading := do
  let d ← digitValue? c
  let place := st.place + d * st.weight
  if place ≥ wordLimit then none
  else
    let t := threshold st.position st.bias
    if t ≤ d then
      let weight := st.weight * (36 - t)
      if weight ≥ wordLimit then none
      else some { st with place, weight, position := st.position + 36 }
    else
      let count := st.text.length + 1
      let point := st.point + place / count
      let at_ := place % count
      if isScalar point then
        some {
          text := st.text.take at_ ++ point :: st.text.drop at_
          place := at_ + 1
          point
          bias := adapt (place - st.start) count (st.start == 0)
          start := at_ + 1
          weight := 1
          position := 36 }
      else none

/-- the text that a label without its "xn--" stands for -/
def decode? (cs : List Char) : Option (List Nat) := do
  let (basic, digits) :=
    match cutLast '-' cs with
    | some (a :: as, b) => (a :: as, b)
    | _ => ([], cs)
  let st ← digits.foldlM Reading.step ⟨basic.map Char.toNat, 0, 128, 72, 0, 1, 36⟩
  if st.position = 36 then some st.text else none

def deltaDigits (q k bias : Nat) : List Char :=
  let t := threshold k bias
  if h : q < t then [digit q]
  else
    have : (q - t) / (36 - t) < q := by
      have h1 : 1 ≤ t := Nat.le_max_left ..
      have h2 : t ≤ 26 := Nat.max_le.2 ⟨by omega, Nat.min_le_left ..⟩
      exact Nat.lt_of_le_of_lt (Nat.div_le_self ..) (by omega)
    digit (t + (q - t) % (36 - t)) :: deltaDigits ((q - t) / (36 - t)) (k + 36) bias
termination_by q

/-- writing under way: the delta, how many characters are written, the bias, whether none was inserted yet -/
structure Writing where
  delta : Nat
  count : Nat
  bias : Nat
  first : Bool
  output : List Char

/-- pass one character of the text while writing the insertions of `point` -/
def Writing.pass (point : Nat) (st : Writing) (c : Nat) : Writing :=
  if c < point then { st with delta := st.delta + 1 }
  else if c = point then
    { delta := 0
      count := st.count + 1
      bias := adapt st.delta (st.count + 1) st.first
      first := false
      output := st.output ++ deltaDigits st.delta 36 st.bias }
  else st

/-- write the insertions of the code points, in increasing order -/
def insertions (text : List Nat) : Nat → List Nat → Writing → Writing
  | _, [], st => st
  | last, point :: points, st =>
    let st := { st with delta := st.delta + (point - last) * (st.count + 1) }
    let st := text.foldl (Writing.pass point) st
    insertions text (point + 1) points { st with delta := st.delta + 1 }

def encode (text : List Nat) : List Char :=
  let basic := (text.filter (· < 128)).map Char.ofNat
  let points := ((text.filter (128 ≤ ·)).mergeSort (· ≤ ·)).eraseReps
  let out := if basic.isEmpty then [] else basic ++ ['-']
  (insertions text 128 points ⟨0, basic.length, 72, true, out⟩).output

end EdgeCache.Unicode.Punycode
