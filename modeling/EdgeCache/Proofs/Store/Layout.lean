/-
The shards of a store together: which shard a key is in, what the store holds under a key after a change of one shard,
and how the sums over all shards move.

- `Shaped`: every shard is dense, and a key is in its own shard only. `shaped_new` and one lemma for each change.
- `contents_drop`, `contents_publish`: the flat map after a key was taken out or written.
- `total_setShard`: a sum over all slots after a change of one shard.
-/
import Mathlib.Logic.Function.Basic
import EdgeCache.Proofs.Store.Shard

namespace EdgeCache.ResponseStore

open EdgeCache.Store EdgeCache.Time

/-! ## Changing one shard -/

theorem shardOf_lt (s : ResponseStore) (h : 0 < s.shards.size) (key : Key) : s.shardOf key < s.shards.size :=
  Nat.mod_lt _ h

@[simp] theorem size_setShard (s : ResponseStore) (i : Nat) (shard : Shard) :
    (s.setShard i shard).shards.size = s.shards.size := by simp [setShard]

@[simp] theorem shardOf_setShard (s : ResponseStore) (i : Nat) (shard : Shard) (key : Key) :
    (s.setShard i shard).shardOf key = s.shardOf key := by simp [shardOf]

@[simp] theorem budget_setShard (s : ResponseStore) (i : Nat) (shard : Shard) :
    (s.setShard i shard).budget = s.budget := rfl

theorem shardAt_of_size_le (s : ResponseStore) {i : Nat} (h : s.shards.size ≤ i) : s.shardAt i = .empty := by
  simp [shardAt, Array.getD, Nat.not_lt.2 h]

theorem shardAt_setShard (s : ResponseStore) (i : Nat) (shard : Shard) (j : Nat) :
    (s.setShard i shard).shardAt j = if i = j ∧ i < s.shards.size then shard else s.shardAt j := by
  simp only [shardAt, setShard, Array.getD_eq_getD_getElem?, Array.getElem?_setIfInBounds]
  by_cases hij : i = j
  · subst hij
    by_cases hi : i < s.shards.size <;> simp [hi]
  · simp [hij]

theorem lt_size_of_slot? {s : ResponseStore} {i : Nat} {key : Key} {slot : Slot}
    (h : (s.shardAt i).slot? key = some slot) : i < s.shards.size := by
  by_contra hi
  rw [shardAt_of_size_le s (Nat.not_lt.1 hi), Shard.slot?_empty] at h
  cases h

theorem contents_setShard (s : ResponseStore) (i : Nat) (shard : Shard) (hi : i < s.shards.size) (key : Key) :
    (s.setShard i shard).contents key =
      if s.shardOf key = i then (shard.slot? key).map (·.content) else s.contents key := by
  unfold contents slot?
  rw [shardOf_setShard, shardAt_setShard]
  by_cases h : s.shardOf key = i
  · subst h; simp [hi]
  · have h' : ¬(i = s.shardOf key ∧ i < s.shards.size) := fun e => h e.1.symm
    simp [h, h']

/-! ## Where keys are -/

/-- every shard is dense, and a key is in its own shard only -/
structure Shaped (s : ResponseStore) : Prop where
  shards_pos : 0 < s.shards.size
  dense : ∀ i, (s.shardAt i).Dense
  home : ∀ i key slot, (s.shardAt i).slot? key = some slot → s.shardOf key = i

theorem contents_congr {s t : ResponseStore} (h : t.shards = s.shards) : t.contents = s.contents := by
  funext key
  unfold contents slot? shardOf shardAt
  rw [h]

theorem Shaped.congr {s t : ResponseStore} (hs : s.Shaped) (h : t.shards = s.shards) : t.Shaped := by
  have hat : ∀ i, t.shardAt i = s.shardAt i := by
    intro i
    unfold shardAt
    rw [h]
  have hof : ∀ key, t.shardOf key = s.shardOf key := by
    intro key
    unfold shardOf
    rw [h]
  refine ⟨by rw [h]; exact hs.shards_pos, fun i => by rw [hat]; exact hs.dense i, ?_⟩
  intro i key slot hk
  rw [hat] at hk
  rw [hof]; exact hs.home i key slot hk

theorem Shaped.withBudget {s : ResponseStore} (hs : s.Shaped) (b : Budget) : { s with budget := b }.Shaped := hs.congr rfl

theorem Shaped.setShard {s : ResponseStore} (h : s.Shaped) {i : Nat} {shard : Shard} (hd : shard.Dense)
    (hh : ∀ key slot, shard.slot? key = some slot → s.shardOf key = i) : (s.setShard i shard).Shaped := by
  refine ⟨by simpa using h.shards_pos, ?_, ?_⟩
  · intro j
    rw [shardAt_setShard]
    split_ifs
    · exact hd
    · exact h.dense j
  · intro j key slot hs
    rw [shardAt_setShard] at hs
    rw [shardOf_setShard]
    split_ifs at hs with hij
    · rw [← hij.1]; exact hh key slot hs
    · exact h.home j key slot hs

theorem nextPowerOfTwo_pos (n : Nat) : 0 < n.nextPowerOfTwo := Nat.pos_of_isPowerOfTwo (Nat.isPowerOfTwo_nextPowerOfTwo n)

theorem new_eq (limits : Limits) (ho : 0 < limits.maxObjects) (hc : 0 < limits.maxCost) :
    new limits = .ok
      { shards := Array.replicate (min limits.maxObjects maxShards).nextPowerOfTwo .empty
        popularity := .new limits.maxObjects
        budget := { maxObjects := limits.maxObjects, maxCost := limits.maxCost, objects := 0, cost := 0 }
        defaultLifetime := limits.defaultLifetime } := by
  unfold new
  rw [if_neg (by omega), if_neg (by omega)]

theorem shardAt_new {limits : Limits} {fresh : ResponseStore} (h : new limits = .ok fresh) (i : Nat) :
    fresh.shardAt i = .empty := by
  unfold new at h
  split_ifs at h
  cases h
  simp only [shardAt, Array.getD_eq_getD_getElem?, Array.getElem?_replicate]
  split_ifs <;> rfl

theorem shaped_new {limits : Limits} {fresh : ResponseStore} (h : new limits = .ok fresh) : fresh.Shaped := by
  have hempty := shardAt_new h
  refine ⟨?_, ?_, ?_⟩
  · unfold new at h
    split_ifs at h
    cases h
    simpa using nextPowerOfTwo_pos _
  · intro i
    rw [hempty]
    exact Shard.dense_empty
  · intro i key slot hs
    rw [hempty, Shard.slot?_empty] at hs
    cases hs

theorem contents_new {limits : Limits} {fresh : ResponseStore} (h : new limits = .ok fresh) :
    fresh.contents = fun _ => none := by
  funext key
  unfold contents slot?
  rw [shardAt_new h, Shard.slot?_empty]
  rfl

/-! ## Taking a key out -/

theorem takeOut_eq_none {s : ResponseStore} {i : Nat} {key : Key} (h : (s.shardAt i).slot? key = none) :
    s.takeOut i key = (none, s) := by
  unfold takeOut
  rw [(Shard.remove?_eq_none_iff _ _).2 h]

theorem takeOut_eq_some {s : ResponseStore} {i : Nat} {key : Key} {slot : Slot}
    (h : (s.shardAt i).slot? key = some slot) :
    ∃ shard, (s.shardAt i).remove? key = some (slot.entry, shard) ∧
      s.takeOut i key = (some slot.entry, s.setShard i shard) := by
  cases hr : (s.shardAt i).remove? key with
  | none => rw [Shard.remove?_eq_none_iff, h] at hr; cases hr
  | some p =>
    obtain ⟨entry, shard⟩ := p
    obtain ⟨slot', hs', rfl, -⟩ := Shard.remove?_eq_some hr
    rw [h] at hs'
    cases hs'
    exact ⟨shard, rfl, by unfold takeOut; rw [hr]⟩

theorem drop_eq_false {s : ResponseStore} {i : Nat} {key : Key} (h : (s.shardAt i).slot? key = none) :
    s.drop i key = (false, s) := by
  unfold drop
  rw [takeOut_eq_none h]

theorem drop_eq_true {s : ResponseStore} {i : Nat} {key : Key} {slot : Slot}
    (h : (s.shardAt i).slot? key = some slot) :
    ∃ shard, (s.shardAt i).remove? key = some (slot.entry, shard) ∧
      s.drop i key = (true, { s.setShard i shard with budget := s.budget.release slot.entry.cost }) := by
  obtain ⟨shard, hr, ht⟩ := takeOut_eq_some h
  exact ⟨shard, hr, by unfold drop; rw [ht]; rfl⟩

theorem Shaped.drop {s : ResponseStore} (h : s.Shaped) (i : Nat) (key : Key) : (s.drop i key).2.Shaped := by
  cases hs : (s.shardAt i).slot? key with
  | none => rw [drop_eq_false hs]; exact h
  | some slot =>
    obtain ⟨shard, hr, hd⟩ := drop_eq_true hs
    rw [hd]
    have hshaped : (s.setShard i shard).Shaped := by
      refine h.setShard (Shard.dense_remove? (h.dense i) hr) ?_
      intro k sl hk
      have hc := Shard.content_of_remove? hr k
      rw [hk] at hc
      split_ifs at hc
      · cases hc
      · obtain ⟨old, hold, -⟩ := Option.map_eq_some_iff.1 hc.symm
        exact h.home i k old hold
    exact hshaped.congr rfl

theorem shards_takeOut (s : ResponseStore) (i : Nat) (key : Key) : (s.takeOut i key).2.shards = (s.drop i key).2.shards := by
  unfold drop
  cases s.takeOut i key with
  | mk taken t => cases taken <;> rfl

theorem Shaped.takeOut {s : ResponseStore} (h : s.Shaped) (i : Nat) (key : Key) : (s.takeOut i key).2.Shaped :=
  (h.drop i key).congr (shards_takeOut s i key)

/-- a key that is taken out of its shard is gone, and nothing else is -/
theorem contents_drop {s : ResponseStore} {i : Nat} {key : Key} (h : s.shardOf key = i) :
    (s.drop i key).2.contents = Function.update s.contents key none := by
  funext k
  rw [Function.update_apply]
  cases hs : (s.shardAt i).slot? key with
  | none =>
    rw [drop_eq_false hs]
    split_ifs with hk
    · subst hk h
      show ((s.shardAt (s.shardOf k)).slot? k).map _ = none
      rw [hs]; rfl
    · rfl
  | some slot =>
    obtain ⟨shard, hr, hd⟩ := drop_eq_true hs
    rw [hd]
    show (s.setShard i shard).contents k = _
    rw [contents_setShard s i shard (lt_size_of_slot? hs), Shard.content_of_remove? hr]
    by_cases hk : k = key
    · subst hk; simp [h]
    · simp only [hk, if_false]
      split_ifs with hi
      · subst hi; rfl
      · rfl

@[simp] theorem size_drop (s : ResponseStore) (i : Nat) (key : Key) : (s.drop i key).2.shards.size = s.shards.size := by
  cases hs : (s.shardAt i).slot? key with
  | none => rw [drop_eq_false hs]
  | some slot =>
    obtain ⟨shard, -, hd⟩ := drop_eq_true hs
    rw [hd]; exact size_setShard s i shard

/-! ## Writing a key -/

theorem Shaped.put {s : ResponseStore} (h : s.Shaped) {i : Nat} {key : Key} (hi : s.shardOf key = i) (entry : Entry)
    (expiry : Option Instant) : (s.put i key entry expiry).Shaped := by
  refine h.setShard (Shard.dense_insert (h.dense i) key entry expiry) ?_
  intro k sl hk
  rw [Shard.slot?_insert] at hk
  split_ifs at hk with he
  · rw [he]; exact hi
  · exact h.home i k sl hk

theorem contents_publish {s : ResponseStore} (h : 0 < s.shards.size) (key : Key) (entry : Entry)
    (expiry : Option Instant) :
    (s.publish key entry expiry).contents = Function.update s.contents key (some (entry, expiry)) := by
  funext k
  unfold publish put
  rw [Function.update_apply, contents_setShard s _ _ (s.shardOf_lt h key), Shard.slot?_insert]
  by_cases hk : k = key
  · subst hk; simp [Slot.content]
  · simp only [hk, if_false]
    split_ifs with hi
    · rw [← hi]; rfl
    · rfl

/-! ## Sums over all slots -/

/-- the sum of the weights of all slots -/
def total (w : Slot → Nat) (s : ResponseStore) : Nat := (s.shards.toList.map fun shard => Shard.weigh w shard.slots).sum

theorem slotCount_eq_total (s : ResponseStore) : s.slotCount = s.total fun _ => 1 := by
  unfold slotCount total
  simp only [Shard.size_eq_weigh]

theorem slotCost_eq_total (s : ResponseStore) : s.slotCost = s.total (·.entry.cost) := rfl

theorem sum_map_set {α : Type} (f : α → Nat) (l : List α) (i : Nat) (a : α) (h : i < l.length) :
    ((l.set i a).map f).sum + f l[i] = (l.map f).sum + f a := by
  induction l generalizing i with
  | nil => simp at h
  | cons b l ih =>
    cases i with
    | zero => simp only [List.set_cons_zero, List.map_cons, List.sum_cons, List.getElem_cons_zero]; omega
    | succ i =>
      have := ih i (by simpa using h)
      simp only [List.set_cons_succ, List.map_cons, List.sum_cons, List.getElem_cons_succ]
      omega

theorem total_setShard {w : Slot → Nat} (s : ResponseStore) (i : Nat) (shard : Shard) (hi : i < s.shards.size) :
    (s.setShard i shard).total w + Shard.weigh w (s.shardAt i).slots = s.total w + Shard.weigh w shard.slots := by
  have hlen : i < s.shards.toList.length := by simpa using hi
  have hat : s.shardAt i = s.shards.toList[i] := by simp [shardAt, Array.getD, hi]
  have := sum_map_set (fun shard : Shard => Shard.weigh w shard.slots) s.shards.toList i shard hlen
  rw [hat]
  simpa [total, setShard] using this

theorem total_new {w : Slot → Nat} {limits : Limits} {fresh : ResponseStore} (h : new limits = .ok fresh) :
    fresh.total w = 0 := by
  unfold new at h
  split_ifs at h
  cases h
  simp [total, Shard.weigh, Shard.empty]

end EdgeCache.ResponseStore
