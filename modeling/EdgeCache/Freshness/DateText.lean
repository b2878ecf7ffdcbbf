/-
How moments are written in header fields: the four forms of dates with all that a writer is free to choose in them, the
name of the zone or the offset. Each form has its own years, those that its digits can show.
-/
import EdgeCache.Freshness.HttpDate
import EdgeCache.Time.Civil

namespace EdgeCache.Freshness

open EdgeCache.Text EdgeCache.Time

/-! ## Pieces of a date -/

def dayName : Weekday → List Char
  | .monday => "Monday".toList
  | .tuesday => "Tuesday".toList
  | .wednesday => "Wednesday".toList
  | .thursday => "Thursday".toList
  | .friday => "Friday".toList
  | .saturday => "Saturday".toList
  | .sunday => "Sunday".toList

/-- the first three letters of it -/
def shortDayName (day : Weekday) : List Char := (dayName day).take 3

/-- the first three letters of the name of a month -/
def shortMonthName (month : Nat) : List Char :=
  (["Jan", "Feb", "Mar", "Apr", "May", "Jun", "Jul", "Aug", "Sep", "Oct", "Nov", "Dec"].getD (month - 1) "").toList

/-- the last two digits of a number -/
def twoDigits (n : Nat) : List Char := [(n / 10 % 10).digitChar, (n % 10).digitChar]

def fourDigits (n : Nat) : List Char := twoDigits (n / 100) ++ twoDigits n

/-- a number of at most two digits in two places, with a blank in front of a single digit -/
def twoPlaces (n : Nat) : List Char := if n < 10 then [' ', n.digitChar] else twoDigits n

/-- "08:49:37" -/
def clockText (m : Moment) : List Char := join ':' [twoDigits m.hour, twoDigits m.minute, twoDigits m.shownSecond]

/-- "Sun, 06 Nov 1994 08:49:37" -/
def fixedText (m : Moment) : List Char :=
  join ' ' [shortDayName m.weekday ++ [','], twoDigits m.date.day, shortMonthName m.date.month,
    fourDigits m.date.year.toNat, clockText m]

/-- "Sunday, 06-Nov-94 08:49:37" -/
def dashedText (m : Moment) : List Char :=
  join ' ' [dayName m.weekday ++ [','],
    join '-' [twoDigits m.date.day, shortMonthName m.date.month, twoDigits m.date.year.toNat], clockText m]

/-- "Sun Nov  6 08:49:37 1994" -/
def plainText (m : Moment) : List Char :=
  join ' ' [shortDayName m.weekday, shortMonthName m.date.month, twoPlaces m.date.day, clockText m,
    fourDigits m.date.year.toNat]

/-- how far the clocks of a place are ahead of universal time, or behind it -/
structure Offset where
  behind : Bool
  hours : Nat
  minutes : Nat
  hours_lt : hours < 24 := by decide
  minutes_lt : minutes < 60 := by decide

/-- the seconds that the clocks are ahead -/
def Offset.seconds (o : Offset) : Int := (if o.behind then -1 else 1) * (3600 * o.hours + 60 * o.minutes)

/-- "+0000" -/
def Offset.text (o : Offset) : List Char := (if o.behind then '-' else '+') :: (twoDigits o.hours ++ twoDigits o.minutes)

/-- the name of a zone: letters -/
def IsZone (zone : List Char) : Prop := zone ≠ [] ∧ ∀ c ∈ zone, c.isAlpha = true

instance (zone : List Char) : Decidable (IsZone zone) := inferInstanceAs (Decidable (_ ∧ _))

/-! ## Forms -/

inductive DateForm where
  | fixed | offset | dashed | plain
deriving DecidableEq

namespace DateForm

/-- the forms in the order in which they are tried -/
def all : List DateForm := [.fixed, .offset, .dashed, .plain]

/-- the forms that are tried before -/
def earlier (form : DateForm) : List DateForm := all.takeWhile (· ≠ form)

/-- the parts of a date in this form, without the name of its zone -/
def parts : DateForm → List DatePart
  | .fixed => fixedForm
  | .offset => offsetForm
  | .dashed => dashedForm
  | .plain => plainForm

def read? (cs : List Char) : DateForm → Option Moment
  | .fixed => (withoutZone? cs).bind (readForm? fixedForm)
  | .offset => readForm? offsetForm cs
  | .dashed => (withoutZone? cs).bind (readForm? dashedForm)
  | .plain => readForm? plainForm cs

/-- a text of the moment in a form. An offset comes with the date and the time of its place, all others with those of
universal time. -/
inductive Writes (m : Moment) : DateForm → List Char → Prop where
  | fixed (low : 0 ≤ m.date.year) (high : m.date.year ≤ 9999) {zone : List Char} (isZone : IsZone zone) :
      Writes m .fixed (fixedText m ++ ' ' :: zone)
  | offset (o : Offset) (low : 0 ≤ (m.ahead o.seconds).date.year) (high : (m.ahead o.seconds).date.year ≤ 9999) :
      Writes m .offset (fixedText (m.ahead o.seconds) ++ ' ' :: o.text)
  | dashed (low : 1970 ≤ m.date.year) (high : m.date.year ≤ 2069) {zone : List Char} (isZone : IsZone zone) :
      Writes m .dashed (dashedText m ++ ' ' :: zone)
  | plain (low : 0 ≤ m.date.year) (high : m.date.year ≤ 9999) : Writes m .plain (plainText m)

end DateForm

example : String.ofList (fixedText ⟨784111777, 0⟩) = "Sun, 06 Nov 1994 08:49:37" := by decide

example : String.ofList (dashedText ⟨784111777, 0⟩) = "Sunday, 06-Nov-94 08:49:37" := by decide

example : String.ofList (plainText ⟨784111777, 0⟩) = "Sun Nov  6 08:49:37 1994" := by decide

end EdgeCache.Freshness
