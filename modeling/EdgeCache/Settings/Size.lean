/-
Sizes as people write them: a decimal number, blanks if any, and K, M or G in either case for thousands, millions or
thousand millions. A size fits into 64 bits.
-/
import EdgeCache.Text.Blank
import EdgeCache.Text.Decimal
import EdgeCache.Text.Quoted

namespace EdgeCache.Settings

open EdgeCache.Text

inductive SizeError where
  | empty
  | malformed (text : String)
  | tooLarge (text : String)
deriving DecidableEq

def SizeError.message : SizeError → String
  | .empty => "size is empty"
  | .malformed text => "invalid size " ++ quoted text ++ " (expected e.g. 500, 64K, 1M, 2G)"
  | .tooLarge text => "size " ++ quoted text ++ " is too large"

def multiplier? : List Char → Option Nat
  | [] => some 1
  | [c] =>
    if c = 'K' ∨ c = 'k' then some 1000
    else if c = 'M' ∨ c = 'm' then some 1000000
    else if c = 'G' ∨ c = 'g' then some 1000000000
    else none
  | _ => none

def readSize (text : String) : Except SizeError Nat :=
  match trim text.toList with
  | [] => .error .empty
  | cs =>
    let digits := cs.takeWhile Char.isDigit
    match digits? digits, multiplier? (trim (cs.drop digits.length)) with
    | some n, some m => if n * m < countLimit then .ok (n * m) else .error (.tooLarge text)
    | _, _ => .error (.malformed text)

/-- a size in a configuration: a number, or a text to be read -/
inductive SizeValue where
  | count (n : Nat)
  | text (s : String)
deriving DecidableEq, Inhabited

namespace SizeValue

def resolve : SizeValue → Except SizeError Nat
  | .count n => .ok n
  | .text s => readSize s

def written : SizeValue → String
  | .count n => toString n
  | .text s => s

end SizeValue

end EdgeCache.Settings
