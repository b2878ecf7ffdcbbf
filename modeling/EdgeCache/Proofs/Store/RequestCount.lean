/-
The estimate of a key's requests against the count that it stands for, after any requests in any order.

- `additions_after`: how far the present period is. `count_after_concat`: so a halving comes after exactly every period of
  requests.
- `count_after_le`: no counter is ever above 15.
- `tally_le_count`: a counter of a key has at least the count of the key; `count_eq_tally`: just that, if no other key that
  was asked for shares it.
- `estimate_tracks_requests`: the estimate is never too low, and exact if one counter of the key is its own.
-/
import Mathlib.Data.List.Induction
import Mathlib.Tactic.ByContra
import EdgeCache.Proofs.Store.Popularity
import EdgeCache.Store.RequestCount

namespace EdgeCache.Store

variable {period : Nat} {key : Key} {requests : List Key}

/-! ## The count of one key -/

theorem decayed_mono {total n m : Nat} (h : n ≤ m) : decayed period total n ≤ decayed period total m := by
  unfold decayed
  split_ifs
  · exact Nat.div_le_div_right h
  · exact h

theorem total_tally (period : Nat) (key : Key) (requests : List Key) : (tally period key requests).total = requests.length := by
  induction requests using List.reverseRecOn with
  | nil => rfl
  | append_singleton requests request ih =>
    unfold tally at ih ⊢
    rw [List.foldl_append, List.length_append]
    exact congrArg (· + 1) ih

theorem tally_concat (requests : List Key) (request : Key) :
    (tally period key (requests ++ [request])).count =
      decayed period (requests.length + 1)
        (if request = key then min ((tally period key requests).count + 1) Popularity.countLimit
          else (tally period key requests).count) := by
  rw [← total_tally period key requests]
  unfold tally
  rw [List.foldl_append]
  rfl

theorem decayed_le (total n : Nat) : decayed period total n ≤ n := by
  unfold decayed
  split_ifs
  · exact Nat.div_le_self n 2
  · exact Nat.le_refl n

theorem count_tally_le (requests : List Key) : (tally period key requests).count ≤ Popularity.countLimit := by
  induction requests using List.reverseRecOn with
  | nil => exact Nat.zero_le _
  | append_singleton requests request ih =>
    rw [tally_concat]
    refine Nat.le_trans (decayed_le _ _) ?_
    split_ifs
    · exact Nat.min_le_right _ _
    · exact ih

namespace Popularity

variable {capacity : Nat}

/-! ## Periods -/

theorem after_concat (requests : List Key) (request : Key) :
    after capacity (requests ++ [request]) = (after capacity requests).increment request := by
  unfold after
  rw [List.foldl_append]
  rfl

theorem width_after (requests : List Key) : (after capacity requests).width = (new capacity).width := by
  induction requests using List.reverseRecOn with
  | nil => rfl
  | append_singleton requests request ih => rw [after_concat, width_increment, ih]

theorem place_after (requests : List Key) (key : Key) (row : Nat) :
    (after capacity requests).place key row = (new capacity).place key row := by
  unfold place
  rw [width_after]

theorem halvingPeriod_after (requests : List Key) :
    (after capacity requests).halvingPeriod = 10 * (new capacity).width := by
  unfold halvingPeriod
  rw [width_after]

theorem width_pos : 0 < (new capacity).width := Nat.pos_of_isPowerOfTwo (Nat.isPowerOfTwo_nextPowerOfTwo _)

/-- a period that is not over yet goes on -/
theorem succ_mod_eq_zero_iff (hpos : 0 < period) (n : Nat) : (n + 1) % period = 0 ↔ n % period + 1 = period := by
  have hlt := Nat.mod_lt n hpos
  rw [← Nat.mod_add_mod]
  constructor
  · intro hzero
    by_contra hne
    rw [Nat.mod_eq_of_lt (by omega)] at hzero
    omega
  · intro hover
    rw [hover, Nat.mod_self]

/-- the increments that are counted are those since the last period was over -/
theorem additions_after (requests : List Key) :
    (after capacity requests).additions = requests.length % (10 * (new capacity).width) := by
  have hpos : 0 < 10 * (new capacity).width := Nat.mul_pos (by decide) width_pos
  induction requests using List.reverseRecOn with
  | nil => exact (Nat.zero_mod _).symm
  | append_singleton requests request ih =>
    have hover := succ_mod_eq_zero_iff hpos requests.length
    rw [after_concat, increment_eq, halvingPeriod_after, ih, List.length_append, List.length_singleton]
    split_ifs with hend
    · exact (hover.2 hend).symm
    · have hlt := Nat.mod_lt requests.length hpos
      rw [← Nat.mod_add_mod, Nat.mod_eq_of_lt (by omega)]
      exact congrArg (· + 1) ih

/-- **Counters are halved after exactly every period of requests**, and change otherwise by the request alone. -/
theorem count_after_concat (requests : List Key) (request : Key) (row i : Nat) :
    (after capacity (requests ++ [request])).count row i =
      decayed (10 * (new capacity).width) (requests.length + 1)
        (if row ∈ rows ∧ i = (new capacity).place request row then min ((after capacity requests).count row i + 1) countLimit
          else (after capacity requests).count row i) := by
  have hover := succ_mod_eq_zero_iff (Nat.mul_pos (by decide) width_pos : 0 < 10 * (new capacity).width) requests.length
  rw [after_concat, increment_eq, halvingPeriod_after, additions_after, ← place_after requests, ← count_bumped]
  unfold decayed
  by_cases hend : requests.length % (10 * (new capacity).width) + 1 = 10 * (new capacity).width
  · rw [if_pos hend, if_pos (hover.2 hend)]
    exact count_halve _ row i
  · rw [if_neg hend, if_neg fun hzero => hend (hover.1 hzero)]

/-! ## Counters against counts -/

theorem count_new (row i : Nat) : (new capacity).count row i = 0 := by simp [new, count]

theorem count_after_le (requests : List Key) (row i : Nat) : (after capacity requests).count row i ≤ countLimit := by
  induction requests using List.reverseRecOn with
  | nil => exact Nat.le_trans (Nat.le_of_eq (count_new row i)) (Nat.zero_le countLimit)
  | append_singleton requests request ih =>
    rw [count_after_concat]
    refine Nat.le_trans (decayed_le _ _) ?_
    split_ifs
    · exact Nat.min_le_right _ _
    · exact ih

theorem tally_le_count {row : Nat} (hrow : row ∈ rows) (key : Key) (requests : List Key) :
    (tally (10 * (new capacity).width) key requests).count ≤
      (after capacity requests).count row ((new capacity).place key row) := by
  induction requests using List.reverseRecOn with
  | nil => exact Nat.zero_le _
  | append_singleton requests request ih =>
    rw [tally_concat, count_after_concat]
    refine decayed_mono ?_
    by_cases hkey : request = key
    · subst hkey
      rw [if_pos rfl, if_pos ⟨hrow, rfl⟩]
      exact Nat.le_min.2 ⟨Nat.le_trans (Nat.min_le_left _ _) (Nat.add_le_add_right ih 1), Nat.min_le_right _ _⟩
    · -- another key can only push the counter up
      rw [if_neg hkey]
      split_ifs
      · exact Nat.le_min.2 ⟨Nat.le_succ_of_le ih, count_tally_le requests⟩
      · exact ih

/-- a counter that no other key was counted by has the count of its key -/
theorem count_eq_tally {row : Nat} (hrow : row ∈ rows) {key : Key} {requests : List Key}
    (hown : ∀ other ∈ requests, other ≠ key → (new capacity).place other row ≠ (new capacity).place key row) :
    (after capacity requests).count row ((new capacity).place key row) =
      (tally (10 * (new capacity).width) key requests).count := by
  induction requests using List.reverseRecOn with
  | nil => exact count_new _ _
  | append_singleton requests request ih =>
    have hbefore := ih fun other hother => hown other (List.mem_append_left [request] hother)
    rw [tally_concat, count_after_concat, hbefore]
    by_cases hkey : request = key
    · subst hkey
      rw [if_pos rfl, if_pos ⟨hrow, rfl⟩]
    · have hplace := hown request (List.mem_append_right requests List.mem_cons_self) hkey
      rw [if_neg hkey, if_neg fun hsame => hplace hsame.2.symm]

/-- **The estimate of a key's requests.** Whatever was asked for and in whatever order, the estimate of a key is at least
its count and at most 15; it is the count if in one of the rows no other key that was asked for has the counter of this
one; and with the next request the counters of that key go up by one, as far as 15, and then all counters are halved if and
only if the number of requests is a multiple of ten times the width. -/
theorem estimate_tracks_requests (capacity : Nat) (requests : List Key) :
    (∀ key, (tally (10 * (new capacity).width) key requests).count ≤ (after capacity requests).estimate key ∧
      (after capacity requests).estimate key ≤ 15) ∧
    (∀ key, ∀ row ∈ rows,
      (∀ other ∈ requests, other ≠ key → (new capacity).place other row ≠ (new capacity).place key row) →
      (after capacity requests).estimate key = (tally (10 * (new capacity).width) key requests).count) ∧
    ∀ request row i, (after capacity (requests ++ [request])).count row i =
      decayed (10 * (new capacity).width) (requests.length + 1)
        (if row ∈ rows ∧ i = (new capacity).place request row then min ((after capacity requests).count row i + 1) 15
          else (after capacity requests).count row i) := by
  have hunder : ∀ key, (tally (10 * (new capacity).width) key requests).count ≤ (after capacity requests).estimate key := by
    intro key
    refine le_estimate_iff.2 fun row hrow => ?_
    rw [place_after]
    exact tally_le_count hrow key requests
  have hover : ∀ key, (after capacity requests).estimate key ≤ 15 := by
    intro key
    exact Nat.le_trans (estimate_le_count (show 0 ∈ rows by decide)) (count_after_le requests _ _)
  refine ⟨fun key => ⟨hunder key, hover key⟩, ?_, count_after_concat requests⟩
  intro key row hrow hown
  refine Nat.le_antisymm ?_ (hunder key)
  have hleast : (after capacity requests).estimate key ≤ _ := estimate_le_count hrow
  rwa [place_after, count_eq_tally hrow hown] at hleast

end Popularity

end EdgeCache.Store
