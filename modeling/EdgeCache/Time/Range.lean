/-
Moments of the calendar, and what is computed with them in numbers of a bounded width. A computation here gives nothing
where a number does not fit.
-/
import EdgeCache.Time.Civil

namespace EdgeCache.Time

/-- a number with a sign, if it has 64 bits -/
def fit? (n : Int) : Option Int := if -0x8000000000000000 ≤ n ∧ n < 0x8000000000000000 then some n else none

/-- a length of time in nanoseconds, forwards or backwards, if its milliseconds have 63 bits -/
def fitLength? (nanos : Int) : Option Int := if nanos.natAbs ≤ 0x7FFFFFFFFFFFFFFF * 1000000 then some nanos else none

namespace Moment

/-- nanoseconds from the start of 1970 -/
def nanos (m : Moment) : Int := m.second * nanosPerSecond + m.nano

/-- the moment has a date, and is inside of one second or of a leap second behind it -/
def InRange (m : Moment) : Prop :=
  (Date.mk Date.yearRange.1 1 1).dayNumber ≤ m.day ∧ m.day ≤ (Date.mk Date.yearRange.2 12 31).dayNumber ∧
    m.nano < 2 * nanosPerSecond

instance (m : Moment) : Decidable m.InRange := inferInstanceAs (Decidable (_ ∧ _ ∧ _))

/-- the second that a leap second adds between two times of day -/
def leapBetween (a b : Moment) : Int :=
  if b.secondOfDay < a.secondOfDay then (if b.isLeap then 1 else 0)
  else if a.secondOfDay < b.secondOfDay then (if a.isLeap then -1 else 0)
  else 0

/-- nanoseconds from `b` to `a`, computed from the days and from the times of day -/
def since? (a b : Moment) : Option Int := do
  let days ← fit? (a.day - b.day)
  let seconds ← fit? (days * secondsPerDay)
  let whole ← fitLength? (seconds * nanosPerSecond)
  let part ← fitLength? ((a.secondOfDay - b.secondOfDay + leapBetween a b) * nanosPerSecond + (a.nano - b.nano))
  fitLength? (whole + part)

end Moment

end EdgeCache.Time
