/-
The civil calendar and moments of coordinated universal time. Days are numbered from 1 January 1970, years run from
the year 0 in both directions. A moment inside a leap second counts nanoseconds beyond a whole second.
-/
import EdgeCache.Time.Span

namespace EdgeCache.Time

/-- a calendar date; the month and the day count from 1 -/
structure Date where
  year : Int
  month : Nat
  day : Nat
deriving DecidableEq, Inhabited

/-- days of the week, Monday first -/
inductive Weekday where
  | monday | tuesday | wednesday | thursday | friday | saturday | sunday
deriving DecidableEq, Inhabited

def weekdays : List Weekday := [.monday, .tuesday, .wednesday, .thursday, .friday, .saturday, .sunday]

def isLeapYear (y : Int) : Bool := y % 4 = 0 && (y % 100 ≠ 0 || y % 400 = 0)

def monthLengths (y : Int) : List Nat :=
  [31, if isLeapYear y then 29 else 28, 31, 30, 31, 30, 31, 31, 30, 31, 30, 31]

/-- days before 1 January of a year, counted from 1 January 1970 -/
def daysBeforeYear (y : Int) : Int := 365 * (y - 1) + (y - 1) / 4 - (y - 1) / 100 + (y - 1) / 400 - 719162

namespace Date

/-- the years that dates can have -/
def yearRange : Int × Int := (-262143, 262142)

def isValid (d : Date) : Bool :=
  yearRange.1 ≤ d.year && d.year ≤ yearRange.2 && 1 ≤ d.month &&
    (match (monthLengths d.year)[d.month - 1]? with
      | some n => 1 ≤ d.day && d.day ≤ n
      | none => false)

/-- days from 1 January 1970 -/
def dayNumber (d : Date) : Int :=
  daysBeforeYear d.year + (((monthLengths d.year).take (d.month - 1)).foldl (· + ·) 0 : Nat) + (d.day - 1)

end Date

def weekdayOf (n : Int) : Weekday := weekdays.getD ((n + 3) % 7).toNat .monday

def secondsPerDay : Int := 86400

/-- a point in time: seconds from the start of 1970 and nanoseconds, which reach a second only inside a leap second -/
structure Moment where
  second : Int
  nano : Nat
deriving DecidableEq, Inhabited

namespace Moment

def secondOfDay (m : Moment) : Int := m.second % secondsPerDay

/-- the moment is inside a leap second -/
def isLeap (m : Moment) : Bool := nanosPerSecond ≤ m.nano

/-- nanoseconds from `b` to `a`. A leap second between their times of day adds one second. -/
def since (a b : Moment) : Int :=
  let leap : Int :=
    if b.secondOfDay < a.secondOfDay then (if b.isLeap then 1 else 0)
    else if a.secondOfDay < b.secondOfDay then (if a.isLeap then -1 else 0)
    else 0
  (a.second - b.second + leap) * nanosPerSecond + (a.nano - b.nano)

end Moment

end EdgeCache.Time
