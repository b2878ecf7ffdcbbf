/-
Differences of moments, exactly and in numbers of a bounded width.

- `Moment.since_eq`: outside of leap seconds, a difference is that of the nanoseconds from 1970.
- `Moment.since_bounds`, `Moment.since?_eq`: in the range of the calendar, a difference is small, and all numbers on the way
  to it fit.
-/
import Mathlib.Tactic.Ring
import EdgeCache.Proofs.Time.Calendar
import EdgeCache.Time.Range

namespace EdgeCache.Time

theorem fit?_of_le {n : Int} (h : n.natAbs ≤ 0x7FFFFFFFFFFFFFFF) : fit? n = some n := if_pos (by omega)

theorem fitLength?_of_le {n : Int} (h : n.natAbs ≤ 0x7FFFFFFFFFFFFFFF * 1000000) : fitLength? n = some n := if_pos h

namespace Moment

variable {a b m : Moment}

theorem since_eq_leapBetween (a b : Moment) :
    a.since b = (a.second - b.second + leapBetween a b) * nanosPerSecond + (a.nano - b.nano) := rfl

theorem leapBetween_bounds (a b : Moment) : (leapBetween a b).natAbs ≤ 1 := by
  unfold leapBetween
  split_ifs <;> decide

/-- outside of leap seconds, a difference is that of the nanoseconds from 1970 -/
theorem since_eq (ha : a.isLeap = false) (hb : b.isLeap = false) : a.since b = a.nanos - b.nanos := by
  have hleap : leapBetween a b = 0 := by
    unfold leapBetween
    simp only [ha, hb, Bool.false_eq_true, if_false, ite_self]
  rw [since_eq_leapBetween, hleap]
  unfold nanos nanosPerSecond
  omega

theorem second_eq (m : Moment) : m.second = m.day * secondsPerDay + m.secondOfDay :=
  (Int.mul_comm .. ▸ Int.mul_ediv_add_emod m.second secondsPerDay).symm

theorem secondOfDay_bounds (m : Moment) : 0 ≤ m.secondOfDay ∧ m.secondOfDay < 86400 :=
  ⟨Int.emod_nonneg _ (by decide), Int.emod_lt_of_pos _ (by decide)⟩

theorem day_bounds_of_inRange (h : m.InRange) : -96465292 ≤ m.day ∧ m.day ≤ 95026236 := by
  obtain ⟨hlow, hhigh, -⟩ := h
  rw [Date.dayNumber_first] at hlow
  rw [Date.dayNumber_last] at hhigh
  exact ⟨hlow, hhigh⟩

/-- the days between two moments of the calendar, in nanoseconds -/
theorem days_bounds (ha : a.InRange) (hb : b.InRange) :
    ((a.day - b.day) * secondsPerDay).natAbs ≤ 16544868019200 := by
  have hday := day_bounds_of_inRange ha
  have hday' := day_bounds_of_inRange hb
  unfold secondsPerDay
  omega

/-- the time between two times of day, in nanoseconds -/
theorem part_bounds (ha : a.InRange) (hb : b.InRange) :
    ((a.secondOfDay - b.secondOfDay + leapBetween a b) * nanosPerSecond + (a.nano - b.nano)).natAbs ≤
      100000 * 1000000000 := by
  have hleap := leapBetween_bounds a b
  have hclock := secondOfDay_bounds a
  have hclock' := secondOfDay_bounds b
  have hnano := ha.2.2
  have hnano' := hb.2.2
  unfold nanosPerSecond at *
  omega

theorem since_eq_add (a b : Moment) : a.since b = (a.day - b.day) * secondsPerDay * nanosPerSecond +
    ((a.secondOfDay - b.secondOfDay + leapBetween a b) * nanosPerSecond + (a.nano - b.nano)) := by
  rw [since_eq_leapBetween, second_eq a, second_eq b]
  ring

theorem whole_bounds (ha : a.InRange) (hb : b.InRange) :
    ((a.day - b.day) * secondsPerDay * nanosPerSecond).natAbs ≤ 16544868019200 * 1000000000 := by
  have hdays := days_bounds ha hb
  unfold nanosPerSecond
  omega

/-- moments of the calendar are less than 600,000 years of 366 days apart -/
theorem since_bounds (ha : a.InRange) (hb : b.InRange) : (a.since b).natAbs ≤ 600000 * 366 * 86400 * 1000000000 := by
  have hwhole := whole_bounds ha hb
  have hpart := part_bounds ha hb
  rw [since_eq_add]
  omega

/-- in the range of the calendar, all numbers on the way to a difference fit -/
theorem since?_eq (ha : a.InRange) (hb : b.InRange) : a.since? b = some (a.since b) := by
  have hdays := days_bounds ha hb
  have hwhole := whole_bounds ha hb
  have hpart := part_bounds ha hb
  rw [since_eq_add]
  unfold since?
  simp only [Option.bind_eq_bind]
  rw [fit?_of_le (show (a.day - b.day).natAbs ≤ _ by unfold secondsPerDay at hdays; omega), Option.bind_some,
    fit?_of_le (by omega), Option.bind_some, fitLength?_of_le (by omega), Option.bind_some, fitLength?_of_le (by omega),
    Option.bind_some, fitLength?_of_le (by omega)]

end Moment

end EdgeCache.Time
