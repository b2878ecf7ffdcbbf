/-
Reading character tables: run lengths, and rows of a range of characters with a value. Tables are texts of
hexadecimal numbers, in increasing order of their characters.
-/
import EdgeCache.Text.Blank
import EdgeCache.Text.Decimal

namespace EdgeCache.Unicode

open EdgeCache.Text

def hexNat (cs : List Char) : Nat := cs.foldl (fun n c => 16 * n + (hexValue? c).getD 0) 0

/-- add a character to the words read so far, latest first; a blank starts the next word -/
def addToWords (ws : List (List Char)) (c : Char) : List (List Char) :=
  if isBlank c then [] :: ws
  else
    match ws with
    | [] => [[c]]
    | w :: ws => (c :: w) :: ws

def words (data : String) : List (List Char) :=
  ((data.toList.foldl addToWords []).filter (· ≠ [])).reverse.map List.reverse

def runLengths (data : String) : List Nat := (words data).map hexNat

/-- whether position `n` lies in a run of the kind that does not come first -/
def inRuns (n : Nat) : List Nat → Bool
  | [] => false
  | outside :: rest =>
    if n < outside then false
    else
      match rest with
      | [] => true
      | inside :: rest => if n - outside < inside then true else inRuns (n - outside - inside) rest

/-- a range of code points with a value -/
structure Row (α : Type) where
  first : Nat
  last : Nat
  value : α

/-- read "first-last" or "first", up to the character that starts the value -/
def readRow (stop : Char → Bool) (cs : List Char) : Row (List Char) :=
  let range := cs.takeWhile (fun c => !stop c)
  let value := cs.dropWhile (fun c => !stop c)
  match cutFirst '-' range with
  | some (a, b) => ⟨hexNat a, hexNat b, value⟩
  | none => ⟨hexNat range, hexNat range, value⟩

/-- rows with one letter or number after a colon -/
def readRows {α : Type} (value : List Char → α) (data : String) : Array (Row α) :=
  ((words data).map fun w =>
    let row := readRow (· == ':') w
    (⟨row.first, row.last, value (row.value.drop 1)⟩ : Row α)).toArray

/-- the value of the row that covers a code point -/
def rowValue? {α : Type} (rows : Array (Row α)) (n : Nat) : Option α :=
  (rows.find? fun r => r.first ≤ n && n ≤ r.last).map (·.value)

end EdgeCache.Unicode
