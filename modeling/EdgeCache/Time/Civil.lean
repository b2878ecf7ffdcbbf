/-
The calendar read backwards: the date of a day, and what a clock shows at a moment.
-/
import EdgeCache.Time.Calendar

namespace EdgeCache.Time

/-- the year in which a day is. Four hundred years have 146097 days, which tells the year or one beside it. -/
def yearOfDay (n : Int) : Int :=
  let y := 400 * (n + 719162) / 146097 + 1
  if n < daysBeforeYear y then y - 1 else if daysBeforeYear (y + 1) ≤ n then y + 1 else y

/-- the place of a day in months of these lengths: the number of whole months before it, and its days in the next one
that are before it -/
def placeIn : List Nat → Nat → Nat × Nat
  | [], n => (0, n)
  | l :: ls, n => if n < l then (0, n) else ((placeIn ls (n - l)).1 + 1, (placeIn ls (n - l)).2)

def Date.ofDayNumber (n : Int) : Date :=
  let place := placeIn (monthLengths (yearOfDay n)) (n - daysBeforeYear (yearOfDay n)).toNat
  ⟨yearOfDay n, place.1 + 1, place.2 + 1⟩

namespace Moment

def day (m : Moment) : Int := m.second / secondsPerDay

def date (m : Moment) : Date := .ofDayNumber m.day

def weekday (m : Moment) : Weekday := weekdayOf m.day

def hour (m : Moment) : Nat := (m.secondOfDay / 3600).toNat

def minute (m : Moment) : Nat := (m.secondOfDay % 3600 / 60).toNat

/-- the second that a clock shows, which is 60 inside a leap second -/
def shownSecond (m : Moment) : Nat := if m.isLeap then 60 else (m.secondOfDay % 60).toNat

/-- the moment whose date and time are those of a place so many seconds ahead -/
def ahead (m : Moment) (seconds : Int) : Moment := { m with second := m.second + seconds }

/-- a whole second; a leap second comes behind the last second of a minute -/
def IsWhole (m : Moment) : Prop := m.nano = 0 ∨ (m.nano = nanosPerSecond ∧ m.second % 60 = 59)

instance (m : Moment) : Decidable m.IsWhole := inferInstanceAs (Decidable (_ ∨ _))

end Moment

end EdgeCache.Time
