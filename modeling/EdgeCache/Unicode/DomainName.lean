/-
Internationalised domain names: mapping, normalisation, the rules for labels, and the ASCII form.

`toAscii? s` is the name as it is looked up, or nothing when the name is not allowed. A name in plain ASCII without
encoded labels only has its capitals made small; the tables are for all other names.
-/
import EdgeCache.Unicode.Table
import EdgeCache.Unicode.Normal
import EdgeCache.Unicode.Punycode
import EdgeCache.Unicode.DomainMappingData
import EdgeCache.Unicode.MarkData
import EdgeCache.Unicode.DirectionData
import EdgeCache.Unicode.JoiningData

namespace EdgeCache.Unicode.DomainName

open EdgeCache.Text

/-! ## Characters -/

/-- what the mapping does to a character -/
inductive Mapping where
  | replace : List Nat → Mapping
  | up : Nat → Mapping
  | down : Nat → Mapping
  | alternate : Mapping
  | refuse : Mapping

def readMapping : List Char → Mapping
  | '=' :: [] => .replace []
  | '=' :: r => .replace ((splitOn '.' r).map hexNat)
  | '+' :: r => .up (hexNat r)
  | '_' :: r => .down (hexNat r)
  | '/' :: _ => .alternate
  | _ => .refuse

def mappingRows : Array (Row Mapping) :=
  ((words domainMappingData).map fun w =>
    let row := readRow (fun c => c == '=' || c == '+' || c == '_' || c == '/' || c == '!') w
    (⟨row.first, row.last, readMapping row.value⟩ : Row Mapping)).toArray

/-- the characters that stand for a character, or nothing when it is refused -/
def mapChar? (n : Nat) : Option (List Nat) :=
  match mappingRows.find? (fun r => r.first ≤ n && n ≤ r.last) with
  | none => some [n]
  | some r =>
    match r.value with
    | .replace l => some l
    | .up k => some [n + k]
    | .down k => some [n - k]
    | .alternate => some [if (n - r.first) % 2 = 0 then n + 1 else n]
    | .refuse => none

def mapText? (cs : List Nat) : Option (List Nat) :=
  (cs.mapM mapChar?).map fun ls => normalForm ls.flatten

def markRuns : List Nat := runLengths markData

/-- the general category Mark -/
def isMark (n : Nat) : Bool := if n < 0x300 then false else inRuns n markRuns

/-- ASCII characters that no host name holds -/
def isForbidden (n : Nat) : Bool :=
  n ≤ 0x20 || n == 0x7F || "%#/:<>?@[\\]^|".toList.any (·.toNat == n)

/-! ## Direction -/

/-- classes of the rule for names that run from right to left -/
inductive Direction where
  | left | right | arabicNumber | europeanNumber | neutral | mark | other
deriving DecidableEq

def readDirection : List Char → Direction
  | ['R'] => .right
  | ['A'] => .arabicNumber
  | ['E'] => .europeanNumber
  | ['N'] => .neutral
  | ['M'] => .mark
  | _ => .other

/-- runs of characters that are not letters from left to right -/
def directionRows : Array (Row Direction) := readRows readDirection directionData

def direction (n : Nat) : Direction := (rowValue? directionRows n).getD .left

/-- the name holds a character that runs from right to left -/
def isBidirectional (cs : List Nat) : Bool :=
  cs.any fun c => direction c = .right || direction c = .arabicNumber

/-- the rule for one label of a bidirectional name -/
def directionAllowed (label : List Nat) : Bool :=
  match label.map direction with
  | [] => true
  | d :: ds =>
    match (ds.reverse.dropWhile (· = .mark)) with
    | [] => d = .left || d = .right
    | last :: middle =>
      if d = .left then
        (last = .left || last = .europeanNumber) &&
          middle.all fun m => m ∈ [Direction.left, .europeanNumber, .neutral, .mark]
      else if d = .right then
        (last = .right || last = .europeanNumber || last = .arabicNumber) &&
          middle.all (fun m => m ∈ [Direction.right, .arabicNumber, .europeanNumber, .neutral, .mark]) &&
          !((last :: middle).contains .arabicNumber && (last :: middle).contains .europeanNumber)
      else false

/-! ## Joiners -/

/-- how a letter joins its neighbours -/
inductive Joining where
  | left | right | dual | causing | transparent | none
deriving DecidableEq

def readJoining : List Char → Joining
  | ['L'] => .left
  | ['R'] => .right
  | ['D'] => .dual
  | ['C'] => .causing
  | ['T'] => .transparent
  | _ => .none

/-- runs of characters with a joining type -/
def joiningRows : Array (Row Joining) := readRows readJoining joiningData

def joining (n : Nat) : Joining := (rowValue? joiningRows n).getD .none

/-- a zero-width non-joiner may stand between these texts, the one before it given backwards -/
def nonJoinerAllowed (before after : List Nat) : Bool :=
  let reach := fun l => (l.map joining).find? (· ≠ .transparent)
  (reach before == some .left || reach before == some .dual) &&
    (reach after == some .right || reach after == some .dual)

/-- every joiner of a label has the neighbours it needs; `before` is the text so far, backwards -/
def joinersAllowed (before : List Nat) : List Nat → Bool
  | [] => true
  | c :: cs =>
    let here :=
      if c = 0x200C ∨ c = 0x200D then
        (before.head?.any (combiningClass · = 9)) || (c = 0x200C && nonJoinerAllowed before cs)
      else true
    here && joinersAllowed (c :: before) cs

/-! ## Labels and names -/

/-- the rules for a label in its Unicode form -/
def labelAllowed (label : List Nat) : Bool := !(label.head?.any isMark) && joinersAllowed [] label

/-- the prefix of encoded labels -/
def encodedMark : List Nat := "xn--".toList.map Char.toNat

/-- a label in both forms -/
structure Label where
  unicode : List Nat
  ascii : List Nat

/-- longest text behind the prefix of an encoded label, and longest label that is encoded -/
def lengthLimits : Nat × Nat := (2000, 1000)

/-- an encoded label, from the text behind its prefix -/
def decodedLabel? (digits : List Nat) : Option (List Nat) := do
  if digits.length > lengthLimits.1 ∨ digits.any (128 ≤ ·) then none
  else
    let text ← Punycode.decode? (digits.map Char.ofNat)
    if text.any (128 ≤ ·) ∧ mapText? text = some text ∧ !(text.any fun c => isForbidden c || c == '.'.toNat) then
      some text
    else none

/-- check a mapped label and find its ASCII form -/
def readLabel? (label : List Nat) : Option Label := do
  if encodedMark.isPrefixOf label then
    let text ← decodedLabel? (label.drop 4)
    if labelAllowed text then some ⟨text, label⟩ else none
  else if label.all (· < 128) then some ⟨label, label⟩
  else if labelAllowed label ∧ label.length ≤ lengthLimits.2 then
    some ⟨label, encodedMark ++ (Punycode.encode label).map Char.toNat⟩
  else none

def splitLabels : List Nat → List (List Nat)
  | [] => [[]]
  | c :: cs =>
    if c = '.'.toNat then [] :: splitLabels cs
    else
      match splitLabels cs with
      | [] => [[c]]
      | l :: ls => (c :: l) :: ls

/-- the ASCII form of a name that needs the tables -/
def mappedAscii? (cs : List Nat) : Option (List Nat) := do
  let mapped ← mapText? cs
  if mapped.any isForbidden then none
  else
    let labels ← (splitLabels mapped).mapM readLabel?
    if labels.any (isBidirectional ·.unicode) ∧ !(labels.all (directionAllowed ·.unicode)) then none
    else some (List.intercalate ['.'.toNat] (labels.map (·.ascii)))

/-- the ASCII form of a domain name -/
def toAscii? (s : String) : Option String :=
  let cs := s.toList
  let small := cs.map Char.toLower
  if cs.all (·.toNat < 128) ∧ !((splitOn '.' small).any fun l => "xn--".toList.isPrefixOf l) then
    if small.any (isForbidden ·.toNat) then none else some (String.ofList small)
  else (mappedAscii? (cs.map Char.toNat)).map fun l => String.ofList (l.map Char.ofNat)

end EdgeCache.Unicode.DomainName
