/-
The calendar forwards and backwards.

- `daysBeforeYear_succ`: a year has the days of its months.
- `daysBeforeYear_le`, `lt_daysBeforeYear_succ`: a day is in its year.
- `placeIn_spec`: the place of a day in months is inside one of them.
- `Date.isValid_ofDayNumber`, `Date.dayNumber_ofDayNumber`: a day has a date, and is the day of that date.
- `Moment.IsWhole.clock_eq`: a moment is where its day and its clock tell.
-/
import Mathlib.Algebra.GroupWithZero.Nat
import Mathlib.Tactic.SplitIfs
import EdgeCache.Time.Civil

namespace EdgeCache.Time

/-! ## Years -/

theorem daysBeforeYear_succ (y : Int) : daysBeforeYear (y + 1) = daysBeforeYear y + (monthLengths y).sum := by
  have hlength : (monthLengths y).sum = if isLeapYear y then 366 else 365 := by
    unfold monthLengths
    split_ifs <;> rfl
  rw [hlength]
  unfold daysBeforeYear isLeapYear
  simp only [Bool.and_eq_true, decide_eq_true_eq, Bool.or_eq_true]
  split_ifs <;> omega

theorem daysBeforeYear_mono {y z : Int} (h : y ≤ z) : daysBeforeYear y ≤ daysBeforeYear z := by
  unfold daysBeforeYear
  omega

theorem daysBeforeYear_le (n : Int) : daysBeforeYear (yearOfDay n) ≤ n := by
  unfold yearOfDay
  simp only
  unfold daysBeforeYear
  split_ifs <;> omega

theorem lt_daysBeforeYear_succ (n : Int) : n < daysBeforeYear (yearOfDay n + 1) := by
  unfold yearOfDay
  simp only
  unfold daysBeforeYear
  split_ifs <;> omega

/-! ## Months -/

/-- a place is inside a month, as many days behind the first as it was -/
theorem placeIn_spec {ls : List Nat} {n : Nat} (h : n < ls.sum) :
    ∃ l, ls[(placeIn ls n).1]? = some l ∧ (placeIn ls n).2 < l ∧
      (ls.take (placeIn ls n).1).sum + (placeIn ls n).2 = n := by
  induction ls generalizing n with
  | nil => cases h
  | cons l ls ih =>
    unfold placeIn
    split_ifs with hn
    · exact ⟨l, rfl, hn, Nat.zero_add n⟩
    · rw [List.sum_cons] at h
      obtain ⟨k, hk, hlt, hsum⟩ := ih (show n - l < ls.sum by omega)
      refine ⟨k, hk, hlt, ?_⟩
      rw [List.take_succ_cons, List.sum_cons]
      omega

/-- a month and those before it are no longer than all months -/
theorem sum_take_add_le {ls : List Nat} {k l : Nat} (h : ls[k]? = some l) : (ls.take k).sum + l ≤ ls.sum := by
  obtain ⟨hk, hl⟩ := List.getElem?_eq_some_iff.1 h
  have hsplit : ls.sum = (ls.take k).sum + (ls.drop k).sum := by rw [← List.sum_append, List.take_append_drop]
  rw [hsplit, List.drop_eq_getElem_cons hk, List.sum_cons, hl]
  omega

/-! ## Dates -/

namespace Date

theorem dayNumber_eq (d : Date) :
    d.dayNumber = daysBeforeYear d.year + ((monthLengths d.year).take (d.month - 1)).sum + (d.day - 1) := by
  unfold dayNumber
  rw [List.sum_eq_foldl]

/-- the month of the date of a day, and the day in it -/
theorem ofDayNumber_spec (n : Int) : ∃ l,
    (monthLengths (ofDayNumber n).year)[(ofDayNumber n).month - 1]? = some l ∧ (ofDayNumber n).day - 1 < l ∧
      (((monthLengths (ofDayNumber n).year).take ((ofDayNumber n).month - 1)).sum + ((ofDayNumber n).day - 1) : Nat) =
        n - daysBeforeYear (ofDayNumber n).year := by
  have hle := daysBeforeYear_le n
  have hlt := lt_daysBeforeYear_succ n
  rw [daysBeforeYear_succ] at hlt
  obtain ⟨l, hl, hday, hsum⟩ :=
    placeIn_spec (show (n - daysBeforeYear (yearOfDay n)).toNat < (monthLengths (yearOfDay n)).sum by omega)
  refine ⟨l, hl, hday, ?_⟩
  unfold ofDayNumber
  simp only [Nat.add_sub_cancel]
  omega

theorem dayNumber_ofDayNumber (n : Int) : (ofDayNumber n).dayNumber = n := by
  obtain ⟨l, -, -, hsum⟩ := ofDayNumber_spec n
  have hday : 1 ≤ (ofDayNumber n).day := Nat.le_add_left ..
  rw [dayNumber_eq]
  omega

/-- a day has a date, if its year is one that dates can have -/
theorem isValid_ofDayNumber {n : Int} (hlow : yearRange.1 ≤ (ofDayNumber n).year)
    (hhigh : (ofDayNumber n).year ≤ yearRange.2) : (ofDayNumber n).isValid = true := by
  obtain ⟨l, hl, hlt, -⟩ := ofDayNumber_spec n
  have hmonth : 1 ≤ (ofDayNumber n).month := Nat.le_add_left ..
  have hday : 1 ≤ (ofDayNumber n).day := Nat.le_add_left ..
  unfold isValid
  simp only [hl, Bool.and_eq_true, decide_eq_true_eq]
  omega

theorem dayNumber_bounds {d : Date} (h : d.isValid = true) :
    daysBeforeYear d.year ≤ d.dayNumber ∧ d.dayNumber < daysBeforeYear (d.year + 1) := by
  unfold isValid at h
  rw [Bool.and_eq_true] at h
  cases hmonth : (monthLengths d.year)[d.month - 1]? with
  | none =>
    rw [hmonth] at h
    cases h.2
  | some l =>
    rw [hmonth] at h
    simp only [Bool.and_eq_true, decide_eq_true_eq] at h
    have hsum := sum_take_add_le hmonth
    rw [dayNumber_eq, daysBeforeYear_succ]
    omega

theorem dayNumber_first : (Date.mk yearRange.1 1 1).dayNumber = -96465292 := by decide

theorem dayNumber_last : (Date.mk yearRange.2 12 31).dayNumber = 95026236 := by decide

theorem dayNumber_inRange {d : Date} (h : d.isValid = true) :
    (Date.mk yearRange.1 1 1).dayNumber ≤ d.dayNumber ∧ d.dayNumber ≤ (Date.mk yearRange.2 12 31).dayNumber := by
  obtain ⟨hlow, hhigh⟩ := dayNumber_bounds h
  unfold isValid at h
  simp only [Bool.and_eq_true, decide_eq_true_eq, and_assoc] at h
  have hfirst := Int.le_trans (daysBeforeYear_mono h.1) hlow
  have hlast := Int.lt_of_lt_of_le hhigh (daysBeforeYear_mono (Int.add_le_add_right h.2.1 1))
  rw [dayNumber_first, dayNumber_last]
  exact ⟨Int.le_trans (by decide) hfirst, Int.le_of_lt_add_one (Int.lt_of_lt_of_le hlast (by decide))⟩

theorem ofDayNumber_bounds (n : Int) : 1 ≤ (ofDayNumber n).month ∧ (ofDayNumber n).month ≤ 12 ∧
    1 ≤ (ofDayNumber n).day ∧ (ofDayNumber n).day ≤ 31 := by
  obtain ⟨l, hl, hlt, -⟩ := ofDayNumber_spec n
  have hmonth : 1 ≤ (ofDayNumber n).month := Nat.le_add_left ..
  have hday : 1 ≤ (ofDayNumber n).day := Nat.le_add_left ..
  obtain ⟨hindex, hget⟩ := List.getElem?_eq_some_iff.1 hl
  have hlength : (ofDayNumber n).month - 1 < 12 := hindex
  have hall : ∀ k ∈ monthLengths (ofDayNumber n).year, k ≤ 31 := by
    unfold monthLengths
    split_ifs <;> decide
  have hsmall : l ≤ 31 := hall l (hget ▸ List.getElem_mem hindex)
  omega

example : ofDayNumber 19782 = ⟨2024, 2, 29⟩ := by decide

end Date

/-! ## Clocks -/

namespace Moment

theorem hour_le (m : Moment) : m.hour ≤ 23 := by
  unfold hour secondOfDay secondsPerDay
  omega

theorem minute_le (m : Moment) : m.minute ≤ 59 := by
  unfold minute
  omega

theorem shownSecond_le (m : Moment) : m.shownSecond ≤ 60 := by
  unfold shownSecond
  split_ifs <;> omega

theorem shownSecond_eq_iff (m : Moment) : m.shownSecond = 60 ↔ m.isLeap = true := by
  unfold shownSecond
  split_ifs with hleap
  · exact ⟨fun _ => hleap, fun _ => rfl⟩
  · refine ⟨fun h => ?_, fun h => absurd h hleap⟩
    omega

/-- a place that is ahead by whole minutes has whole seconds, too -/
theorem IsWhole.ahead {m : Moment} (h : m.IsWhole) {o : Int} (ho : o % 60 = 0) : (m.ahead o).IsWhole := by
  refine h.imp_right fun ⟨hnano, hsecond⟩ => ⟨hnano, ?_⟩
  show (m.second + o) % 60 = 59
  omega

theorem IsWhole.nano_eq {m : Moment} (h : m.IsWhole) : (if m.shownSecond = 60 then nanosPerSecond else 0) = m.nano := by
  have hleap : m.shownSecond = 60 ↔ nanosPerSecond ≤ m.nano := (shownSecond_eq_iff m).trans decide_eq_true_iff
  rcases h with hzero | ⟨hfull, -⟩
  · rw [if_neg (by rw [hleap, hzero]; decide), hzero]
  · rw [if_pos (hleap.2 (Nat.le_of_eq hfull.symm)), hfull]

/-- a moment is where its day and its clock tell, on which a leap second is one more second 59 -/
theorem IsWhole.clock_eq {m : Moment} (h : m.IsWhole) :
    m.day * secondsPerDay + (3600 * m.hour + 60 * m.minute + (if m.shownSecond = 60 then 59 else m.shownSecond : Nat)) =
      m.second := by
  have hshown : ((if m.shownSecond = 60 then 59 else m.shownSecond : Nat) : Int) = m.second % 60 := by
    have hnano := h.nano_eq
    split_ifs at hnano ⊢ with hleap
    · have hsecond : m.second % 60 = 59 := (h.resolve_left (by rw [← hnano]; decide)).2
      exact hsecond.symm
    · have hplain : m.isLeap ≠ true := fun h => hleap ((shownSecond_eq_iff m).2 h)
      unfold shownSecond secondOfDay secondsPerDay
      rw [if_neg hplain]
      omega
  rw [hshown]
  unfold day hour minute secondOfDay secondsPerDay
  omega

end Moment

end EdgeCache.Time
