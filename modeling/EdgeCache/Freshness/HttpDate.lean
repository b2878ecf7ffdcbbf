/-
Dates in header fields, in the forms that origins send:

* "Sun, 06 Nov 1994 08:49:37 GMT", with a named zone, read as universal time,
* "Sun, 06 Nov 1994 08:49:37 +0000", with an offset,
* "Sunday, 06-Nov-94 08:49:37 GMT",
* "Sun Nov  6 08:49:37 1994".

A form is a list of parts. Blanks in a form stand for any number of blanks, blanks may precede a number, names are
read in any case, and the day of the week must be the one of the date.
-/
import EdgeCache.Text.Blank
import EdgeCache.Text.Decimal
import EdgeCache.Time.Calendar

namespace EdgeCache.Freshness

open EdgeCache.Text EdgeCache.Time

inductive DateField where
  | day | month | year | hour | minute | second
deriving DecidableEq

inductive DatePart where
  | blanks
  | literal (c : Char)
  /-- the day of the week, its long name allowed or not -/
  | weekday (long : Bool)
  | monthName
  /-- a number of at most two digits in a range -/
  | number (field : DateField) (low high : Nat)
  /-- four digits at most, or any number behind a sign -/
  | fullYear
  /-- two digits at most: from 70 on in the twentieth century, else in the next -/
  | shortYear
  /-- hours and minutes behind a sign -/
  | offset
deriving DecidableEq

/-- what has been read of a date -/
structure DateDraft where
  weekday : Weekday
  year : Int
  month : Nat
  day : Nat
  hour : Nat
  minute : Nat
  second : Nat
  offset : Int
deriving Inhabited

def DateDraft.fill (d : DateDraft) (n : Nat) : DateField → DateDraft
  | .day => { d with day := n }
  | .month => { d with month := n }
  | .year => { d with year := n }
  | .hour => { d with hour := n }
  | .minute => { d with minute := n }
  | .second => { d with second := n }

/-- names of the days of the week and of the months, in small letters -/
def weekdayNames : List (List Char) :=
  ["monday", "tuesday", "wednesday", "thursday", "friday", "saturday", "sunday"].map String.toList

def monthNames : List (List Char) :=
  ["jan", "feb", "mar", "apr", "may", "jun", "jul", "aug", "sep", "oct", "nov", "dec"].map String.toList

/-- the text starts with the word in any case; what follows it -/
def dropWord? (word cs : List Char) : Option (List Char) :=
  if (cs.take word.length).map Char.toLower = word then some (cs.drop word.length) else none

/-- the first word of a list that the text starts with, by its position, and what follows -/
def dropWordOf? (words : List (List Char)) (cs : List Char) : Option (Nat × List Char) :=
  words.zipIdx.findSome? fun (w, i) => (dropWord? w cs).map fun r => (i, r)

/-- a number of one to `width` digits after blanks, and what follows -/
def takeNumber? (width : Nat) (cs : List Char) : Option (Nat × List Char) :=
  let cs := trimStart cs
  let ds := (cs.take width).takeWhile Char.isDigit
  (digits? ds).map fun n => (n, cs.drop ds.length)

/-- a number of any length that fits into 63 bits, and what follows -/
def takeLongNumber? (cs : List Char) : Option (Nat × List Char) :=
  let ds := cs.takeWhile Char.isDigit
  ((digits? ds).filter (· < 0x8000000000000000)).map fun n => (n, cs.drop ds.length)

def takeYear? (cs : List Char) : Option (Int × List Char) :=
  match trimStart cs with
  | '-' :: r => (takeLongNumber? r).map fun (n, r) => (-(n : Int), r)
  | '+' :: r => (takeLongNumber? r).map fun (n, r) => ((n : Int), r)
  | cs => (takeNumber? 4 cs).map fun (n, r) => ((n : Int), r)

/-- years fit into 31 bits and a sign -/
def isYear (y : Int) : Bool := -0x80000000 ≤ y && y < 0x80000000

def takeTwo? : List Char → Option (Nat × List Char)
  | a :: b :: r => if a.isDigit ∧ b.isDigit then some (10 * digitValue a + digitValue b, r) else none
  | _ => none

/-- an offset in seconds: a sign, two digits, colons and blanks, two digits below 60; and what follows -/
def takeOffset? (cs : List Char) : Option (Int × List Char) := do
  let (sign, r) ←
    match trimStart cs with
    | '+' :: r => some ((1 : Int), r)
    | '-' :: r => some (-1, r)
    | '\u2212' :: r => some (-1, r)
    | _ => none
  let (hours, r) ← takeTwo? r
  let (minutes, r) ← takeTwo? (r.dropWhile fun c => c = ':' || isBlank c)
  if minutes < 60 then some (sign * (3600 * hours + 60 * minutes), r) else none

def DatePart.take? (d : DateDraft) (cs : List Char) : DatePart → Option (DateDraft × List Char)
  | .blanks => some (d, trimStart cs)
  | .literal c =>
    match cs with
    | x :: r => if x = c then some (d, r) else none
    | [] => none
  | .weekday long => do
    let (i, r) ← dropWordOf? (weekdayNames.map (·.take 3)) cs
    let r := if long then (dropWord? ((weekdayNames.getD i []).drop 3) r).getD r else r
    some ({ d with weekday := weekdays.getD i .monday }, r)
  | .monthName => (dropWordOf? monthNames cs).map fun (i, r) => ({ d with month := i + 1 }, r)
  | .number field low high => do
    let (n, r) ← takeNumber? 2 cs
    if low ≤ n ∧ n ≤ high then some (d.fill n field, r) else none
  | .fullYear => do
    let (y, r) ← takeYear? cs
    if isYear y then some ({ d with year := y }, r) else none
  | .shortYear => (takeNumber? 2 cs).map fun (n, r) => ({ d with year := if n < 70 then 2000 + n else 1900 + n }, r)
  | .offset => (takeOffset? cs).map fun (o, r) => ({ d with offset := o }, r)

/-- read a text by a form -/
def readParts? (parts : List DatePart) (d : DateDraft) (cs : List Char) : Option (DateDraft × List Char) :=
  parts.foldlM (fun (d, cs) p => p.take? d cs) (d, cs)

/-- the moment that a draft describes: second 60 is the leap second behind second 59 -/
def DateDraft.moment? (d : DateDraft) : Option Moment :=
  let date : Date := ⟨d.year, d.month, d.day⟩
  if date.isValid ∧ weekdayOf date.dayNumber = d.weekday ∧ d.offset.natAbs < 86400 then
    let day := date.dayNumber
    let clock : Int := 3600 * d.hour + 60 * d.minute + (if d.second = 60 then 59 else d.second)
    let second := day * secondsPerDay + clock - d.offset
    let first := (Date.mk Date.yearRange.1 1 1).dayNumber
    let last := (Date.mk Date.yearRange.2 12 31).dayNumber
    if first ≤ second / secondsPerDay ∧ second / secondsPerDay ≤ last then
      some ⟨second, if d.second = 60 then nanosPerSecond else 0⟩
    else none
  else none

/-- the whole text in a form -/
def readForm? (parts : List DatePart) (cs : List Char) : Option Moment :=
  match readParts? parts default cs with
  | some (d, []) => d.moment?
  | _ => none

/-- "08:49:37" -/
def clockParts : List DatePart :=
  [.number .hour 0 23, .literal ':', .number .minute 0 59, .literal ':', .number .second 0 60]

/-- "Sun, 06 Nov 1994 08:49:37" -/
def fixedForm : List DatePart :=
  [.weekday false, .literal ',', .blanks, .number .day 1 31, .blanks, .monthName, .blanks, .fullYear, .blanks] ++
    clockParts

/-- "Sun, 06 Nov 1994 08:49:37 +0000" -/
def offsetForm : List DatePart := fixedForm ++ [.blanks, .offset]

/-- "Sunday, 06-Nov-94 08:49:37" -/
def dashedForm : List DatePart :=
  [.weekday true, .literal ',', .blanks, .number .day 1 31, .literal '-', .monthName, .literal '-', .shortYear,
    .blanks] ++ clockParts

/-- "Sun Nov  6 08:49:37 1994" -/
def plainForm : List DatePart :=
  [.weekday false, .blanks, .monthName, .blanks, .number .day 1 31, .blanks] ++ clockParts ++ [.blanks, .fullYear]

/-- the text in front of the name of a zone -/
def withoutZone? (cs : List Char) : Option (List Char) :=
  match cutLast ' ' cs with
  | some (front, zone) => if zone ≠ [] ∧ zone.all Char.isAlpha then some front else none
  | none => none

/-- read a date in the first form that fits -/
def readDate? (value : String) : Option Moment :=
  let cs := trim value.toList
  ((withoutZone? cs).bind (readForm? fixedForm)) <|> readForm? offsetForm cs <|>
    ((withoutZone? cs).bind (readForm? dashedForm)) <|> readForm? plainForm cs

end EdgeCache.Freshness
