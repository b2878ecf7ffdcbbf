/-
The counters of the popularity estimate under one increment.

- `count_increment`: short of a halving, the counters of the key go up by one, in every row, and no other counter moves.
  `increment_eq`: at the end of a period all counters are halved after that.
- `le_estimate_iff`: the estimate is the least of the key's counters.
-/
import Mathlib.Tactic.SplitIfs
import EdgeCache.Store.Popularity

namespace EdgeCache.Store.Popularity

variable (p : Popularity) (key : Key)

theorem count_bump (row r i : Nat) :
    (p.bump key row).count r i =
      if r = row ∧ i = p.place key row then min (p.count row i + 1) countLimit else p.count r i := by
  unfold bump count
  simp only [Std.HashMap.getD_insert, beq_iff_eq, Prod.mk.injEq]
  by_cases h : r = row ∧ i = p.place key row
  · rw [if_pos h, if_pos ⟨h.1.symm, h.2.symm⟩, h.2]
  · rw [if_neg h, if_neg fun e => h ⟨e.1.symm, e.2.symm⟩]

/-- one more at the key's counters in some rows, none of them twice -/
theorem count_foldl_bump {rows : List Nat} (hrows : rows.Nodup) (r i : Nat) :
    (rows.foldl (fun p row => p.bump key row) p).count r i =
      if r ∈ rows ∧ i = p.place key r then min (p.count r i + 1) countLimit else p.count r i := by
  induction rows generalizing p with
  | nil => simp
  | cons row rows ih =>
    obtain ⟨hrow, hrest⟩ := List.nodup_cons.1 hrows
    have hplace : (p.bump key row).place key r = p.place key r := rfl
    rw [List.foldl_cons, ih _ hrest, hplace, count_bump]
    by_cases hr : r = row
    · subst hr
      simp [hrow]
    · simp [hr]

theorem foldl_bump_fields (rows : List Nat) :
    (rows.foldl (fun p row => p.bump key row) p).width = p.width ∧
    (rows.foldl (fun p row => p.bump key row) p).additions = p.additions := by
  induction rows generalizing p with
  | nil => exact ⟨rfl, rfl⟩
  | cons row rows ih => exact ih (p.bump key row)

theorem count_halve (r i : Nat) : p.halve.count r i = p.count r i / 2 := by
  unfold halve count
  rw [Std.HashMap.getD_map, Std.HashMap.getD_eq_getD_getElem?]
  cases p.counters[(r, i)]? <;> rfl

theorem width_halve : p.halve.width = p.width := rfl

/-- the estimates with one more at the key's counters -/
def bumped (p : Popularity) (key : Key) : Popularity :=
  { rows.foldl (fun p row => p.bump key row) p with additions := p.additions + 1 }

/-- the counters go up, and if a period is over with that all of them are halved -/
theorem increment_eq : p.increment key = if p.additions + 1 = p.halvingPeriod then (p.bumped key).halve else p.bumped key := by
  obtain ⟨hwidth, hadditions⟩ := p.foldl_bump_fields key rows
  unfold increment bumped
  simp only [halvingPeriod, hwidth, hadditions]

theorem count_bumped (r i : Nat) :
    (p.bumped key).count r i =
      if r ∈ rows ∧ i = p.place key r then min (p.count r i + 1) countLimit else p.count r i := by
  unfold bumped
  rw [← count_foldl_bump p key (by decide) r i]
  unfold count
  simp only

theorem width_bumped : (p.bumped key).width = p.width := by
  unfold bumped
  simp only [foldl_bump_fields]

theorem width_increment : (p.increment key).width = p.width := by
  rw [increment_eq]
  split_ifs
  · rw [width_halve, width_bumped]
  · exact p.width_bumped key

theorem count_increment (h : p.additions + 1 ≠ p.halvingPeriod) (r i : Nat) :
    (p.increment key).count r i =
      if r ∈ rows ∧ i = p.place key r then min (p.count r i + 1) countLimit else p.count r i := by
  rw [increment_eq, if_neg h, count_bumped]

theorem increment_fields (h : p.additions + 1 ≠ p.halvingPeriod) :
    (p.increment key).width = p.width ∧ (p.increment key).additions = p.additions + 1 := by
  refine ⟨p.width_increment key, ?_⟩
  rw [increment_eq, if_neg h]
  rfl

/-! ## The least of the rows -/

variable {p key}

theorem le_estimate_iff {n : Nat} : n ≤ p.estimate key ↔ ∀ row ∈ rows, n ≤ p.count row (p.place key row) := by
  obtain ⟨least, hleast⟩ : ∃ least, (rows.map fun row => p.count row (p.place key row)).min? = some least := ⟨_, rfl⟩
  unfold estimate
  rw [hleast, Option.getD_some, List.le_min?_iff hleast, List.forall_mem_map]

theorem estimate_le_count {row : Nat} (hrow : row ∈ rows) : p.estimate key ≤ p.count row (p.place key row) :=
  le_estimate_iff.1 (Nat.le_refl _) row hrow

end EdgeCache.Store.Popularity
