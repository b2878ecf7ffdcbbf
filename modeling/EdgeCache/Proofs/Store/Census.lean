/-
What is stored, counted over keys. Slots are spread over shards, but their number and their total cost are sums over any
finite set of keys that has all the stored ones.

- `total_eq_sum`: the total of a weight over all slots is its sum over such keys.
- `slotCount_le_card`, `slotCost_le_sum`: bounds for the keys other than a given one bound what is stored under them.
- `fits_of_listed`: if each of the keys may keep as much as it wants, a new version of any of them finds room.
-/
import Mathlib.Algebra.Order.BigOperators.Group.Finset
import EdgeCache.Proofs.Store.Admission

namespace EdgeCache.ResponseStore

open EdgeCache.Store EdgeCache.Time

variable {limits : Limits} {s : ResponseStore} {keys : Finset Key}

/-- every stored key is among these -/
def Listed (s : ResponseStore) (keys : Finset Key) : Prop := ∀ key stored, s.contents key = some stored → key ∈ keys

/-- the keys in the lists of the shards -/
def storedKeys (s : ResponseStore) : Finset Key := (s.shards.toList.flatMap (·.keys.toList)).toFinset

theorem listed_storedKeys (hs : s.Shaped) : s.Listed s.storedKeys := by
  intro key stored hstored
  obtain ⟨slot, hslot, -⟩ := Option.map_eq_some_iff.1 hstored
  have hmem := ((hs.dense _).mem_iff key).2 ⟨slot, hslot⟩
  have hshard : s.shardAt (s.shardOf key) ∈ s.shards := by
    have hlt := s.shardOf_lt hs.shards_pos key
    simp [shardAt, Array.getD, hlt]
  exact List.mem_toFinset.2 (List.mem_flatMap.2 ⟨_, hshard.val, hmem.val⟩)

/-! ## Totals -/

theorem total_eq_zero (hs : s.Shaped) (h : ∀ key, s.contents key = none) (w : Slot → Nat) : s.total w = 0 := by
  refine List.sum_eq_zero ?_
  intro n hn
  obtain ⟨shard, hshard, rfl⟩ := List.mem_map.1 hn
  obtain ⟨i, hi, rfl⟩ := List.mem_iff_getElem.1 hshard
  have hat : s.shardAt i = s.shards.toList[i] := by
    have hi' : i < s.shards.size := by simpa using hi
    simp [shardAt, Array.getD, hi']
  rw [← hat]
  have hnothing : ∀ key : Key, (s.shardAt i).slots[key]? = (∅ : Std.HashMap Key Slot)[key]? := by
    intro key
    rw [Std.HashMap.getElem?_empty]
    cases hslot : (s.shardAt i).slot? key with
    | none => exact hslot
    | some slot =>
      have hhome := hs.home i key slot hslot
      have hstored : s.slot? key = some slot := by
        unfold slot?
        rw [hhome]
        exact hslot
      have hcontents := contents_of_slot? hstored
      rw [h key] at hcontents
      cases hcontents
  rw [Shard.weigh_congr hnothing]
  simp [Shard.weigh]

/-- a key that is dropped takes its weight with it -/
theorem total_drop {w : Slot → Nat} (hw : ∀ slot place, w { slot with place } = w slot) {i : Nat} {key : Key}
    {slot : Slot} (hslot : (s.shardAt i).slot? key = some slot) :
    (s.drop i key).2.total w + w slot = s.total w := by
  obtain ⟨shard, hremove, hdrop⟩ := drop_eq_true hslot
  obtain ⟨slot', hslot', -, hweigh⟩ := Shard.weigh_of_remove? hw hremove
  obtain rfl : slot = slot' := Option.some.inj (hslot.symm.trans hslot')
  have hset := total_setShard (w := w) s i shard (lt_size_of_slot? hslot)
  have hsame : (s.drop i key).2.total w = (s.setShard i shard).total w := by rw [hdrop]; rfl
  omega

/-- **What is stored is counted key by key.** The total of a weight is its sum over keys that have all the stored ones
among them. -/
theorem total_eq_sum (hs : s.Shaped) (hkeys : s.Listed keys) (v : Entry × Option Instant → Nat) :
    s.total (fun slot => v slot.content) = ∑ key ∈ keys, ((s.contents key).map v).getD 0 := by
  -- take the keys out one after the other
  induction keys using Finset.induction_on generalizing s with
  | empty =>
    have hnothing : ∀ key, s.contents key = none := by
      intro key
      cases hc : s.contents key with
      | none => rfl
      | some stored => exact absurd (hkeys key stored hc) (Finset.notMem_empty key)
    rw [Finset.sum_empty, total_eq_zero hs hnothing]
  | insert key keys hnew ih =>
    rw [Finset.sum_insert hnew]
    cases hslot : s.slot? key with
    | none =>
      have hnone : s.contents key = none := by unfold contents; rw [hslot]; rfl
      have hrest : s.Listed keys := by
        intro k stored hk
        rcases Finset.mem_insert.1 (hkeys k stored hk) with rfl | hmem
        · rw [hnone] at hk; cases hk
        · exact hmem
      rw [ih hs hrest, hnone]
      exact (Nat.zero_add _).symm
    | some slot =>
      have hdrop := contents_drop (s := s) (rfl : s.shardOf key = _)
      have hrest : (s.drop (s.shardOf key) key).2.Listed keys := by
        intro k stored hk
        rw [hdrop, Function.update_apply] at hk
        split_ifs at hk with hsame
        exact Finset.mem_of_mem_insert_of_ne (hkeys k stored hk) hsame
      have hothers : ∀ k ∈ keys, (s.drop (s.shardOf key) key).2.contents k = s.contents k := by
        intro k hk
        rw [hdrop, Function.update_of_ne (ne_of_mem_of_not_mem hk hnew)]
      have htotal := total_drop (s := s) (w := fun slot => v slot.content) (fun _ _ => rfl) hslot
      rw [ih (hs.drop _ key) hrest, Finset.sum_congr rfl fun k hk => by rw [hothers k hk]] at htotal
      rw [contents_of_slot? hslot, ← htotal]
      exact Nat.add_comm _ _

theorem slotCount_eq_sum (hs : s.Shaped) (hkeys : s.Listed keys) :
    s.slotCount = ∑ key ∈ keys, ((s.contents key).map fun _ => 1).getD 0 :=
  (slotCount_eq_total s).trans (total_eq_sum hs hkeys fun _ => 1)

theorem slotCost_eq_sum (hs : s.Shaped) (hkeys : s.Listed keys) :
    s.slotCost = ∑ key ∈ keys, ((s.contents key).map (·.1.cost)).getD 0 :=
  (slotCost_eq_total s).trans (total_eq_sum hs hkeys (·.1.cost))

/-! ## Room for listed keys -/

theorem slotCount_lt_card (hs : s.Shaped) (hkeys : s.Listed keys) {key : Key} (hkey : key ∈ keys)
    (hnone : s.contents key = none) : s.slotCount < keys.card := by
  have hone : ∀ k ∈ keys.erase key, ((s.contents k).map fun _ => 1).getD 0 ≤ 1 := by
    intro k _
    cases s.contents k with
    | none => exact Nat.zero_le 1
    | some stored => exact Nat.le_refl 1
  calc s.slotCount = ∑ k ∈ keys, ((s.contents k).map fun _ => 1).getD 0 := slotCount_eq_sum hs hkeys
    _ = ∑ k ∈ keys.erase key, ((s.contents k).map fun _ => 1).getD 0 := by
      rw [← Finset.add_sum_erase _ _ hkey, hnone]
      exact Nat.zero_add _
    _ ≤ (keys.erase key).card := (Finset.sum_le_card_nsmul _ _ 1 hone).trans (Nat.le_of_eq (Nat.mul_one _))
    _ < keys.card := Finset.card_erase_lt_of_mem hkey

/-- what is stored under the other keys, and a new version of this one, cost no more than all keys may -/
theorem slotCost_le_sum (hs : s.Shaped) (hkeys : s.Listed keys) {bound : Key → Nat}
    (hbound : ∀ key stored, s.contents key = some stored → stored.1.cost ≤ bound key) {key : Key} (hkey : key ∈ keys)
    {entry : Entry} (hentry : entry.cost ≤ bound key) :
    s.slotCost + entry.cost ≤ ((s.contents key).map (·.1.cost)).getD 0 + ∑ k ∈ keys, bound k := by
  have hothers : ∀ k ∈ keys.erase key, ((s.contents k).map (·.1.cost)).getD 0 ≤ bound k := by
    intro k _
    cases hc : s.contents k with
    | none => exact Nat.zero_le _
    | some stored => exact hbound k stored hc
  have hsum := Finset.sum_le_sum hothers
  rw [slotCost_eq_sum hs hkeys, ← Finset.add_sum_erase _ _ hkey, ← Finset.add_sum_erase _ _ hkey]
  omega

/-- **Without pressure there is room.** If there are no more keys than objects allowed, and what each may cost adds up to
no more than the cost allowed, then a new version of any of them fits, whatever the others hold. -/
theorem fits_of_listed (h : Sound limits s) (hkeys : s.Listed keys) (hobjects : keys.card ≤ limits.maxObjects)
    {bound : Key → Nat} (hbound : ∀ key stored, s.contents key = some stored → stored.1.cost ≤ bound key)
    (hcost : ∑ key ∈ keys, bound key ≤ limits.maxCost) {key : Key} (hkey : key ∈ keys) {entry : Entry}
    (hentry : entry.cost ≤ bound key) : s.Fits key entry := by
  have hmaxObjects := h.maxObjects
  have hmaxCost := h.maxCost
  refine ⟨?_, ?_⟩
  · intro hnone
    have hcount := slotCount_lt_card h.shaped hkeys hkey hnone
    have hbooked := h.booked.objects_eq
    omega
  · have hsum := slotCost_le_sum h.shaped hkeys hbound hkey hentry
    have hbooked := h.booked.cost_eq
    omega

end EdgeCache.ResponseStore
