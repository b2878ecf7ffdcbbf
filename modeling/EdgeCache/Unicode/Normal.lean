/-
Canonical composition (normalisation form C): canonical decomposition, ordering of marks by combining class, and
composition of a starter with the marks that nothing blocks. Hangul syllables are computed, all else is looked up.
-/
import EdgeCache.Unicode.Table
import EdgeCache.Unicode.CombiningClassData
import EdgeCache.Unicode.DecompositionData

namespace EdgeCache.Unicode

open EdgeCache.Text

/-- runs of characters with a combining class above 0 -/
def combiningClassRows : Array (Row Nat) := readRows hexNat combiningClassData

/-- Canonical_Combining_Class -/
def combiningClass (n : Nat) : Nat := if n < 0x300 then 0 else (rowValue? combiningClassRows n).getD 0

/-- a decomposition and whether composition undoes it -/
structure Decomposition where
  char : Nat
  parts : List Nat
  composes : Bool

/-- read the table of decompositions, whose rows count from the row before -/
def decompositionsFrom (char : Nat) : List (List Char) → List Decomposition
  | [] => []
  | w :: ws =>
    let mark : Char → Bool := fun c => c == '=' || c == '~'
    let distance := hexNat (w.takeWhile (fun c => !mark c))
    let rest := w.dropWhile (fun c => !mark c)
    ⟨char + distance, (splitOn '.' (rest.drop 1)).map hexNat, rest.head? == some '='⟩ ::
      decompositionsFrom (char + distance) ws

/-- all decompositions except those of Hangul syllables -/
def decompositions : Array Decomposition := (decompositionsFrom 0 (words decompositionData)).toArray

/-- first code points of the Hangul blocks: syllables, leading consonants, vowels, trailing consonants -/
def hangulBase : Nat × Nat × Nat × Nat := (0xAC00, 0x1100, 0x1161, 0x11A7)

/-- full canonical decomposition; a part is itself decomposed at most `depth` times -/
def decompose (depth : Nat) (n : Nat) : List Nat :=
  let (s, l, v, t) := hangulBase
  if s ≤ n ∧ n < s + 11172 then
    let k := n - s
    let lv := [l + k / 588, v + k % 588 / 28]
    if k % 28 = 0 then lv else lv ++ [t + k % 28]
  else
    match depth with
    | 0 => [n]
    | depth + 1 =>
      match decompositions.find? (·.char == n) with
      | some d => d.parts.flatMap (decompose depth)
      | none => [n]

/-- the character that two characters compose to -/
def compose? (a b : Nat) : Option Nat :=
  let (s, l, v, t) := hangulBase
  if l ≤ a ∧ a < l + 19 ∧ v ≤ b ∧ b < v + 21 then some (s + ((a - l) * 21 + (b - v)) * 28)
  else if s ≤ a ∧ a < s + 11172 ∧ (a - s) % 28 = 0 ∧ t < b ∧ b < t + 28 then some (a + (b - t))
  else (decompositions.find? fun d => d.composes && d.parts == [a, b]).map (·.char)

/-- put marks in the order of their classes; marks of one class keep their order -/
def orderMarks (marks : List Nat) : List Nat :=
  marks.mergeSort fun a b => combiningClass a ≤ combiningClass b

/-- canonical order: the marks after each starter are sorted -/
def canonicalOrder (marks : List Nat) : List Nat → List Nat
  | [] => orderMarks marks.reverse
  | c :: cs =>
    if combiningClass c = 0 then orderMarks marks.reverse ++ c :: canonicalOrder [] cs
    else canonicalOrder (c :: marks) cs

/-- composition under way: the starter and the marks after it that stayed, latest first -/
structure Composing where
  starter : Option Nat
  marks : List Nat

/-- what the starter and its marks amount to -/
def Composing.flush (st : Composing) : List Nat := st.starter.toList ++ st.marks.reverse

/-- no mark that stayed stands in the way of a character of class `k` -/
def Composing.reaches (st : Composing) (k : Nat) : Bool :=
  match st.marks with
  | [] => true
  | m :: _ => combiningClass m < k

/-- compose a text in canonical order -/
def composeFrom (st : Composing) : List Nat → List Nat
  | [] => st.flush
  | c :: cs =>
    let k := combiningClass c
    match st.starter.bind (fun s => if st.reaches k then compose? s c else none) with
    | some p => composeFrom { st with starter := some p } cs
    | none =>
      if k = 0 then st.flush ++ composeFrom ⟨some c, []⟩ cs
      else composeFrom { st with marks := c :: st.marks } cs

def normalForm (cs : List Nat) : List Nat :=
  composeFrom ⟨none, []⟩ (canonicalOrder [] (cs.flatMap (decompose 4)))

end EdgeCache.Unicode
