/-
The counters of the budget against what the shards hold, through every single change of the store.

`Booked s objects cost`: the counters stand at the slots of the store and their total cost, plus `objects` and `cost`
that are reserved and not published, or taken out and not given back. One lemma for each change; a release is in order
as long as no more is given back than that.
-/
import EdgeCache.Proofs.Store.Layout

namespace EdgeCache.ResponseStore

open EdgeCache.Store EdgeCache.Time

/-- the counters stand at what is stored and `objects` and `cost` besides, within the limits, and never went below zero -/
structure Booked (s : ResponseStore) (objects cost : Int) : Prop where
  objects_eq : s.budget.objects = s.slotCount + objects
  cost_eq : s.budget.cost = s.slotCost + cost
  objects_le : s.budget.objects ≤ s.budget.maxObjects
  cost_le : s.budget.cost ≤ s.budget.maxCost
  not_overdrawn : s.budget.overdrawn = false

variable {s : ResponseStore} {o c : Int}

theorem Booked.congr (h : s.Booked o c) {o' c' : Int} (ho : o = o') (hc : c = c') : s.Booked o' c' := by
  subst ho hc; exact h

theorem booked_new {limits : Limits} {fresh : ResponseStore} (h : new limits = .ok fresh) : fresh.Booked 0 0 := by
  have hcount : fresh.slotCount = 0 := by rw [slotCount_eq_total, total_new h]
  have hcost : fresh.slotCost = 0 := by rw [slotCost_eq_total, total_new h]
  unfold new at h
  split_ifs at h
  cases h
  refine ⟨?_, ?_, Int.natCast_nonneg _, Int.natCast_nonneg _, rfl⟩
  · rw [hcount]; rfl
  · rw [hcost]; rfl

theorem Booked.touch (h : s.Booked o c) (key : Key) : (s.touch key).Booked o c :=
  ⟨h.objects_eq, h.cost_eq, h.objects_le, h.cost_le, h.not_overdrawn⟩

/-! ## Shards -/

/-- a change of one shard moves what is held besides by as much as it moves what is stored, the other way -/
theorem Booked.setShard (h : s.Booked o c) {i : Nat} {shard : Shard} (hi : i < s.shards.size) {o' c' : Int}
    (ho : o' + shard.slots.size = o + (s.shardAt i).slots.size) (hc : c' + shard.cost = c + (s.shardAt i).cost) :
    (s.setShard i shard).Booked o' c' := by
  have hcount := total_setShard (w := fun _ => 1) s i shard hi
  have hcost := total_setShard (w := (·.entry.cost)) s i shard hi
  rw [← slotCount_eq_total, ← slotCount_eq_total, ← Shard.size_eq_weigh, ← Shard.size_eq_weigh] at hcount
  rw [← slotCost_eq_total, ← slotCost_eq_total, ← Shard.cost_eq_weigh, ← Shard.cost_eq_weigh] at hcost
  have h1 := h.objects_eq
  have h2 := h.cost_eq
  refine ⟨?_, ?_, h.objects_le, h.cost_le, h.not_overdrawn⟩
  · rw [budget_setShard]; omega
  · rw [budget_setShard]; omega

theorem Booked.takeOut (h : s.Booked o c) {i : Nat} {key : Key} {slot : Slot}
    (hs : (s.shardAt i).slot? key = some slot) : (s.takeOut i key).2.Booked (o + 1) (c + slot.entry.cost) := by
  obtain ⟨shard, hr, ht⟩ := takeOut_eq_some hs
  obtain ⟨slot', hs', -, hcost⟩ := Shard.weigh_of_remove? (w := (·.entry.cost)) (fun _ _ => rfl) hr
  obtain ⟨_, _, -, hsize⟩ := Shard.weigh_of_remove? (w := fun _ => 1) (fun _ _ => rfl) hr
  rw [hs] at hs'
  cases hs'
  rw [← Shard.cost_eq_weigh, ← Shard.cost_eq_weigh] at hcost
  rw [← Shard.size_eq_weigh, ← Shard.size_eq_weigh] at hsize
  rw [ht]
  exact h.setShard (lt_size_of_slot? hs) (by omega) (by omega)

theorem Booked.put (h : s.Booked o c) {i : Nat} (hi : i < s.shards.size) (key : Key) (entry : Entry)
    (expiry : Option Instant) :
    (s.put i key entry expiry).Booked
      (o - 1 + if ((s.shardAt i).slot? key).isSome then 1 else 0)
      (c - entry.cost + (((s.shardAt i).slot? key).map (·.entry.cost)).getD 0) := by
  have hcost := Shard.weigh_insert (w := (·.entry.cost)) (s.shardAt i) key entry expiry
  have hsize := Shard.weigh_insert (w := fun _ => 1) (s.shardAt i) key entry expiry
  rw [← Shard.cost_eq_weigh, ← Shard.cost_eq_weigh] at hcost
  rw [← Shard.size_eq_weigh, ← Shard.size_eq_weigh] at hsize
  refine h.setShard hi ?_ ?_
  · cases hs : (s.shardAt i).slot? key <;> simp [hs] at hsize ⊢ <;> omega
  · simp only at hcost
    omega

/-! ## Counters -/

theorem Booked.releaseObjects (h : s.Booked o c) {n : Nat} (hn : n ≤ o) :
    { s with budget := s.budget.releaseObjects n }.Booked (o - n) c := by
  have h1 := h.objects_eq
  have h2 := h.objects_le
  refine ⟨?_, h.cost_eq, ?_, h.cost_le, ?_⟩
  · show s.budget.objects - n = s.slotCount + (o - n)
    omega
  · show s.budget.objects - n ≤ s.budget.maxObjects
    omega
  · have : ¬s.budget.objects < n := by omega
    simp [Budget.releaseObjects, h.not_overdrawn, this]

theorem Booked.releaseCost (h : s.Booked o c) {n : Nat} (hn : n ≤ c) :
    { s with budget := s.budget.releaseCost n }.Booked o (c - n) := by
  have h1 := h.cost_eq
  have h2 := h.cost_le
  refine ⟨h.objects_eq, ?_, h.objects_le, ?_, ?_⟩
  · show s.budget.cost - n = s.slotCost + (c - n)
    omega
  · show s.budget.cost - n ≤ s.budget.maxCost
    omega
  · have : ¬s.budget.cost < n := by omega
    simp [Budget.releaseCost, h.not_overdrawn, this]

theorem Booked.release (h : s.Booked o c) (cost : Nat) (ho : 1 ≤ o) (hc : cost ≤ c) :
    { s with budget := s.budget.release cost }.Booked (o - 1) (c - cost) :=
  (h.releaseObjects (n := 1) (by omega)).releaseCost hc

theorem Booked.reserveObjects (h : s.Booked o c) {n : Nat} {b : Budget} (hb : s.budget.reserveObjects? n = some b) :
    { s with budget := b }.Booked (o + n) c := by
  have h1 := h.objects_eq
  unfold Budget.reserveObjects? at hb
  split_ifs at hb with hn hle
  · cases hb
    subst hn
    exact h.congr (by simp) rfl
  · cases hb
    refine ⟨?_, h.cost_eq, hle, h.cost_le, h.not_overdrawn⟩
    show s.budget.objects + n = s.slotCount + (o + n)
    omega

theorem Booked.reserveCost (h : s.Booked o c) {n : Nat} {b : Budget} (hb : s.budget.reserveCost? n = some b) :
    { s with budget := b }.Booked o (c + n) := by
  have h1 := h.cost_eq
  unfold Budget.reserveCost? at hb
  split_ifs at hb with hle
  cases hb
  refine ⟨h.objects_eq, ?_, h.objects_le, hle, h.not_overdrawn⟩
  show s.budget.cost + n = s.slotCost + (c + n)
  omega

theorem reserve_limits {b b' : Budget} {objects cost : Nat} {fits : Bool} (h : b.reserve objects cost = (fits, b')) :
    b'.maxObjects = b.maxObjects ∧ b'.maxCost = b.maxCost := by
  unfold Budget.reserve Budget.reserveObjects? Budget.reserveCost? at h
  split at h
  · cases h; exact ⟨rfl, rfl⟩
  · rename_i b1 h1
    have hb1 : b1.maxObjects = b.maxObjects ∧ b1.maxCost = b.maxCost := by
      split_ifs at h1 <;> cases h1 <;> exact ⟨rfl, rfl⟩
    split at h
    · rename_i b2 h2
      split_ifs at h2
      cases h2
      cases h; exact hb1
    · cases h; exact hb1

/-- a reservation finds no room if and only if a limit does not allow its share -/
theorem reserve_eq_false_iff (b : Budget) (objects cost : Nat) :
    (b.reserve objects cost).1 = false ↔
      (0 < objects ∧ b.maxObjects < b.objects + objects) ∨ b.maxCost < b.cost + cost := by
  unfold Budget.reserve Budget.reserveObjects? Budget.reserveCost?
  by_cases hn : objects = 0
  · subst hn
    by_cases hc : b.cost + cost ≤ b.maxCost
    · simp [hc]
    · simp [hc]; omega
  · by_cases ho : b.objects + objects ≤ b.maxObjects
    · by_cases hc : b.cost + cost ≤ b.maxCost
      · simp [hn, ho, hc]
      · simp [hn, ho, hc]; omega
    · simp [hn, ho]; omega

theorem Booked.reserve_true (h : s.Booked o c) {objects cost : Nat} {b : Budget}
    (hb : s.budget.reserve objects cost = (true, b)) : { s with budget := b }.Booked (o + objects) (c + cost) := by
  unfold Budget.reserve at hb
  split at hb
  · cases hb
  · rename_i b1 h1
    split at hb
    · rename_i b2 h2
      cases hb
      exact (h.reserveObjects h1).reserveCost h2
    · cases hb

/-- a reservation that fails half way is rolled back to where it started -/
theorem Booked.reserve_false (h : s.Booked o c) (ho : 0 ≤ o) {objects cost : Nat} {b : Budget}
    (hb : s.budget.reserve objects cost = (false, b)) : b = s.budget := by
  have h1 := h.objects_eq
  have h2 := h.not_overdrawn
  unfold Budget.reserve Budget.reserveObjects? at hb
  split at hb
  · cases hb; rfl
  · rename_i b1 hb1
    split at hb
    · cases hb
    · cases hb
      split_ifs at hb1 with hn
      · cases hb1
        subst hn
        have hpos : ¬s.budget.objects < 0 := by omega
        unfold Budget.releaseObjects
        cases hbud : s.budget
        simp_all
      · cases hb1
        have hpos : ¬s.budget.objects + objects < objects := by omega
        unfold Budget.releaseObjects
        cases hbud : s.budget
        simp_all

theorem Booked.drop (h : s.Booked o c) (ho : 0 ≤ o) (hc : 0 ≤ c) (i : Nat) (key : Key) :
    (s.drop i key).2.Booked o c := by
  cases hs : (s.shardAt i).slot? key with
  | none => rw [drop_eq_false hs]; exact h
  | some slot =>
    obtain ⟨shard, hr, ht⟩ := takeOut_eq_some hs
    have htaken := h.takeOut hs
    rw [ht] at htaken
    have hreleased := htaken.release slot.entry.cost (by omega) (by omega)
    unfold ResponseStore.drop
    rw [ht]
    exact hreleased.congr (by omega) (by omega)

end EdgeCache.ResponseStore
