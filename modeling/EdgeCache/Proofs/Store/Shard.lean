/-
One shard of the store under its operations: what is found under each key afterwards, how the number of slots and their
total cost move, and that the dense list of keys stays in step with the map.

- `slot?_insert`, `content_of_remove?`: an operation on a key changes what is stored under that key alone.
- `weigh_insert`, `weigh_of_remove?`: the number of slots and their total cost, and every other weight that does not
  depend on places, move by the slots that come and go.
- `dense_insert`, `dense_remove?`: every key stands in the list exactly at the place that its slot knows.
- `Dense.sample_keys`: a sample has the keys at the places from its position on, around the list.
-/
import Mathlib.Algebra.BigOperators.Group.List.Basic
import Mathlib.Data.Nat.ModEq
import EdgeCache.Store.History

namespace EdgeCache.Store.Shard

open EdgeCache.Time

/-! ## What is found under a key -/

theorem slot?_empty (key : Key) : empty.slot? key = none := by simp [slot?, empty]

/-- the place that a new entry of a key gets -/
def placeFor (s : Shard) (key : Key) : Nat := ((s.slot? key).map (·.place)).getD s.keys.size

theorem insert_slots (s : Shard) (key : Key) (entry : Entry) (expiry : Option Instant) :
    (s.insert key entry expiry).slots = s.slots.insert key ⟨entry, expiry, s.placeFor key⟩ := by
  unfold insert placeFor
  cases s.slot? key <;> rfl

theorem slot?_insert (s : Shard) (key : Key) (entry : Entry) (expiry : Option Instant) (k : Key) :
    (s.insert key entry expiry).slot? k = if k = key then some ⟨entry, expiry, s.placeFor key⟩ else s.slot? k := by
  unfold slot?
  rw [insert_slots, Std.HashMap.getElem?_insert]
  by_cases h : key = k
  · subst h; simp
  · have h' : k ≠ key := fun e => h e.symm
    simp [h, h']

/-- the map after a key was taken out: only places changed among the others -/
theorem getElem?_replace (slots : Std.HashMap Key Slot) (keys : Array Key) (place : Nat) (k : Key) :
    (replace slots keys place)[k]? =
      if keys[place]? = some k then (slots[k]?).map fun slot => { slot with place } else slots[k]? := by
  unfold replace
  split
  · rename_i moved hm
    rw [Std.HashMap.getElem?_modify, hm]
    by_cases h : moved = k
    · subst h; simp
    · simp [h]
  · rename_i hm; simp [hm]

theorem remove?_eq_some {s s' : Shard} {key : Key} {entry : Entry} (h : s.remove? key = some (entry, s')) :
    ∃ slot, s.slot? key = some slot ∧ slot.entry = entry ∧
      s' = ⟨replace (s.slots.erase key) (withoutPlace s.keys slot.place) slot.place,
        withoutPlace s.keys slot.place⟩ := by
  unfold remove? at h
  split at h
  · cases h
  · rename_i slot hs
    cases h
    exact ⟨slot, hs, rfl, rfl⟩

theorem remove?_eq_none_iff (s : Shard) (key : Key) : s.remove? key = none ↔ s.slot? key = none := by
  unfold remove?
  split <;> simp_all

theorem content_of_remove? {s s' : Shard} {key : Key} {entry : Entry} (h : s.remove? key = some (entry, s')) (k : Key) :
    (s'.slot? k).map (·.content) = if k = key then none else (s.slot? k).map (·.content) := by
  obtain ⟨slot, -, -, rfl⟩ := remove?_eq_some h
  simp only [slot?, getElem?_replace, Std.HashMap.getElem?_erase, beq_iff_eq]
  by_cases hk : key = k
  · subst hk; simp
  · have hk' : k ≠ key := fun e => hk e.symm
    simp only [hk, hk', if_false]
    split_ifs
    · simp [Option.map_map, Function.comp_def, Slot.content]
    · rfl

/-! ## The number of slots and their total cost -/

def weigh (w : Slot → Nat) (slots : Std.HashMap Key Slot) : Nat := (slots.toList.map (w ·.2)).sum

theorem size_eq_weigh (s : Shard) : s.slots.size = weigh (fun _ => 1) s.slots := by
  simp [weigh, Std.HashMap.length_toList]

theorem cost_eq_weigh (s : Shard) : s.cost = weigh (·.entry.cost) s.slots := rfl

variable {w : Slot → Nat}

theorem weigh_congr {a b : Std.HashMap Key Slot} (h : ∀ k : Key, a[k]? = b[k]?) : weigh w a = weigh w b :=
  ((Std.HashMap.Equiv.of_forall_getElem?_eq h).toList_perm.map _).sum_eq

theorem weigh_insert_new (slots : Std.HashMap Key Slot) (key : Key) (slot : Slot) (h : slots[key]? = none) :
    weigh w (slots.insert key slot) = weigh w slots + w slot := by
  have hfilter : slots.toList.filter (fun p => decide ¬(key == p.1) = true) = slots.toList := by
    rw [List.filter_eq_self]
    intro p hp
    have hp' : slots[p.1]? = some p.2 := Std.HashMap.mem_toList_iff_getElem?_eq_some.1 hp
    simp only [decide_eq_true_eq, beq_iff_eq]
    rintro rfl
    rw [h] at hp'; cases hp'
  unfold weigh
  rw [((Std.HashMap.toList_insert_perm (m := slots) (k := key) (v := slot)).map _).sum_eq, hfilter]
  simp [Nat.add_comm]

theorem weigh_erase (slots : Std.HashMap Key Slot) (key : Key) (slot : Slot) (h : slots[key]? = some slot) :
    weigh w (slots.erase key) + w slot = weigh w slots := by
  rw [← weigh_insert_new (slots.erase key) key slot (by simp)]
  refine weigh_congr ?_
  intro k
  rw [Std.HashMap.getElem?_insert, Std.HashMap.getElem?_erase]
  by_cases hk : key = k
  · subst hk; simp [h]
  · simp [hk]

/-- a slot that is put in the place of another one takes over its share -/
theorem weigh_insert_old (slots : Std.HashMap Key Slot) (key : Key) (old slot : Slot) (h : slots[key]? = some old) :
    weigh w (slots.insert key slot) + w old = weigh w slots + w slot := by
  have herase := weigh_erase (w := w) slots key old h
  have hnew := weigh_insert_new (w := w) (slots.erase key) key slot (by simp)
  have hsame : weigh w ((slots.erase key).insert key slot) = weigh w (slots.insert key slot) := by
    refine weigh_congr ?_
    intro k
    rw [Std.HashMap.getElem?_insert, Std.HashMap.getElem?_insert, Std.HashMap.getElem?_erase]
    by_cases hk : key = k <;> simp [hk]
  omega

theorem weigh_replace (hw : ∀ slot place, w { slot with place } = w slot) (slots : Std.HashMap Key Slot)
    (keys : Array Key) (place : Nat) : weigh w (replace slots keys place) = weigh w slots := by
  unfold replace
  split
  · rename_i moved hm
    cases h : slots[moved]? with
    | none =>
      refine weigh_congr ?_
      intro k
      rw [Std.HashMap.getElem?_modify]
      by_cases hk : moved = k
      · subst hk; simp [h]
      · simp [hk]
    | some slot =>
      have hold := weigh_insert_old (w := w) slots moved slot { slot with place } h
      have hsame : weigh w (slots.modify moved fun slot => { slot with place }) =
          weigh w (slots.insert moved { slot with place }) := by
        refine weigh_congr ?_
        intro k
        rw [Std.HashMap.getElem?_modify, Std.HashMap.getElem?_insert]
        by_cases hk : moved = k
        · subst hk; simp [h]
        · simp [hk]
      have := hw slot place
      omega
  · rfl

theorem weigh_insert (s : Shard) (key : Key) (entry : Entry) (expiry : Option Instant) :
    weigh w (s.insert key entry expiry).slots + ((s.slot? key).map w).getD 0 =
      weigh w s.slots + w ⟨entry, expiry, s.placeFor key⟩ := by
  rw [insert_slots]
  cases h : s.slot? key with
  | none => simpa using weigh_insert_new _ key _ h
  | some old => simpa using weigh_insert_old _ key old _ h

theorem weigh_of_remove? (hw : ∀ slot place, w { slot with place } = w slot) {s s' : Shard} {key : Key} {entry : Entry}
    (h : s.remove? key = some (entry, s')) :
    ∃ slot, s.slot? key = some slot ∧ slot.entry = entry ∧ weigh w s'.slots + w slot = weigh w s.slots := by
  obtain ⟨slot, hs, he, rfl⟩ := remove?_eq_some h
  refine ⟨slot, hs, he, ?_⟩
  simp only [weigh_replace hw]
  exact weigh_erase s.slots key slot hs

/-! ## The dense list of keys -/

/-- a key stands in the list exactly at the place that its slot knows -/
def Dense (s : Shard) : Prop := ∀ (i : Nat) (key : Key), s.keys[i]? = some key ↔ (s.slot? key).map (·.place) = some i

theorem dense_empty : Dense empty := by
  intro i key
  rw [slot?_empty]
  simp [empty]

theorem Dense.place_lt {s : Shard} (h : Dense s) {key : Key} {slot : Slot} (hs : s.slot? key = some slot) :
    slot.place < s.keys.size := by
  have hk := (h slot.place key).2 (by simp [hs])
  exact (Array.getElem?_eq_some_iff.1 hk).1

theorem Dense.mem_iff {s : Shard} (h : Dense s) (key : Key) : key ∈ s.keys ↔ ∃ slot, s.slot? key = some slot := by
  rw [Array.mem_iff_getElem?]
  constructor
  · rintro ⟨i, hi⟩
    obtain ⟨slot, hs, -⟩ := Option.map_eq_some_iff.1 ((h i key).1 hi)
    exact ⟨slot, hs⟩
  · rintro ⟨slot, hs⟩
    exact ⟨slot.place, (h _ _).2 (by simp [hs])⟩

theorem dense_insert {s : Shard} (h : Dense s) (key : Key) (entry : Entry) (expiry : Option Instant) :
    Dense (s.insert key entry expiry) := by
  intro i k
  rw [slot?_insert]
  cases hs : s.slot? key with
  | some old =>
    have hkeys : (s.insert key entry expiry).keys = s.keys := by simp [insert, hs]
    rw [hkeys]
    split_ifs with hk
    · subst hk
      rw [h i k]
      simp [placeFor, hs]
    · exact h i k
  | none =>
    have hkeys : (s.insert key entry expiry).keys = s.keys.push key := by simp [insert, hs]
    rw [hkeys, Array.getElem?_push]
    split_ifs with hi hk hk
    · subst hi hk; simp [placeFor, hs]
    · subst hi
      constructor
      · intro e; cases e; exact absurd rfl hk
      · intro e
        obtain ⟨slot, hslot, hp⟩ := Option.map_eq_some_iff.1 e
        have := h.place_lt hslot
        omega
    · subst hk
      have := h i k
      rw [hs] at this
      simp only [Option.map_some, Option.some.injEq, placeFor, hs, Option.map_none, Option.getD_none]
      simp only [Option.map_none, reduceCtorEq, iff_false] at this
      constructor
      · intro e; exact absurd e this
      · intro e; exact absurd e.symm hi
    · exact h i k

/-- the list after a key was taken out: the last key moves to its place -/
theorem getElem?_withoutPlace (keys : Array Key) {place : Nat} (hp : place < keys.size) (i : Nat) :
    (withoutPlace keys place)[i]? =
      if i < keys.size - 1 then (if i = place then keys[keys.size - 1]? else keys[i]?) else none := by
  have hlast : keys.back? = some keys[keys.size - 1] := by
    rw [Array.back?_eq_getElem?, Array.getElem?_eq_getElem (by omega)]
  unfold withoutPlace
  rw [hlast]
  simp only [Array.getElem?_pop, Array.size_setIfInBounds, Array.getElem?_setIfInBounds, hp, if_true]
  rw [Array.getElem?_eq_getElem (by omega : keys.size - 1 < keys.size)]
  simp only [eq_comm]

theorem Dense.place_unique {s : Shard} (h : Dense s) {i j : Nat} {key : Key} (hi : s.keys[i]? = some key)
    (hj : s.keys[j]? = some key) : i = j := by
  have hi' := (h i key).1 hi
  rw [(h j key).1 hj] at hi'
  exact (Option.some.inj hi').symm

theorem dense_remove? {s s' : Shard} (h : Dense s) {key : Key} {entry : Entry}
    (hr : s.remove? key = some (entry, s')) : Dense s' := by
  obtain ⟨slot, hs, -, rfl⟩ := remove?_eq_some hr
  have hp := h.place_lt hs
  have hkey : s.keys[slot.place]? = some key := (h _ _).2 (by simp [hs])
  have hkeys := getElem?_withoutPlace s.keys hp
  intro i k
  show (withoutPlace s.keys slot.place)[i]? = some k ↔
    ((replace (s.slots.erase key) (withoutPlace s.keys slot.place) slot.place)[k]?).map (·.place) = some i
  rw [getElem?_replace, Std.HashMap.getElem?_erase]
  by_cases hk : k = key
  · -- the key itself: its place is taken by the last key, which is another one or stood there itself
    subst hk
    simp only [BEq.rfl, if_true, Option.map_none, ite_self, reduceCtorEq, iff_false, hkeys]
    split_ifs with hi hip
    · intro hl; have := h.place_unique hl hkey; omega
    · intro hl; exact hip (h.place_unique hl hkey)
    · exact not_false
  · have hne : (key == k) = false := by simpa using fun e : key = k => hk e.symm
    simp only [hne, Bool.false_eq_true, if_false]
    by_cases hmoved : (withoutPlace s.keys slot.place)[slot.place]? = some k
    · -- the key that moved stood at the end
      rw [if_pos hmoved]
      have hlt : slot.place < s.keys.size - 1 := by
        by_contra hge
        rw [hkeys, if_neg hge] at hmoved; cases hmoved
      have hlast : s.keys[s.keys.size - 1]? = some k := by simpa [hkeys, hlt] using hmoved
      obtain ⟨old, hold, -⟩ := Option.map_eq_some_iff.1 ((h _ _).1 hlast)
      have hold' : s.slots[k]? = some old := hold
      simp only [hold', Option.map_some, Option.some.injEq]
      constructor
      · intro hi
        rw [hkeys] at hi
        split_ifs at hi with h1 h2
        · exact h2.symm
        · have := h.place_unique hi hlast; omega
      · rintro rfl; exact hmoved
    · -- every other key stays where it was
      rw [if_neg hmoved]
      refine Iff.trans ?_ (h i k)
      rw [hkeys] at hmoved ⊢
      have hkp : s.keys[slot.place]? ≠ some k := by rw [hkey]; exact fun e => hk (Option.some.inj e).symm
      split_ifs with h1 h2
      · subst h2
        rw [if_pos h1, if_pos rfl] at hmoved
        exact iff_of_false hmoved hkp
      · exact Iff.rfl
      · refine iff_of_false not_false ?_
        intro hi
        have hlt := (Array.getElem?_eq_some_iff.1 hi).1
        have hie : i = s.keys.size - 1 := by omega
        subst hie
        by_cases hpl : slot.place < s.keys.size - 1
        · rw [if_pos hpl, if_pos rfl] at hmoved; exact hmoved hi
        · have hpe : slot.place = s.keys.size - 1 := by omega
          rw [← hpe] at hi; exact hkp hi

/-! ## Samples and expired keys -/

theorem slot?_of_mem_sample {s : Shard} {position : Nat} {key : Key} {slot : Slot}
    (h : (key, slot) ∈ s.sample position) : s.slot? key = some slot := by
  unfold sample at h
  obtain ⟨i, -, hi⟩ := List.mem_filterMap.1 h
  obtain ⟨k, -, hk⟩ := Option.bind_eq_some_iff.1 hi
  obtain ⟨sl, hs, he⟩ := Option.map_eq_some_iff.1 hk
  cases he
  exact hs

/-- the keys of a sample are those at the places from its position on, the list taken as a circle -/
theorem Dense.sample_keys {s : Shard} (h : Dense s) (position : Nat) :
    (s.sample position).map (some ·.1) =
      (List.range (min sampleSize s.keys.size)).map fun i => s.keys[(position + i) % s.keys.size]? := by
  have hplaces : ∀ i ∈ List.range (min sampleSize s.keys.size), (position + i) % s.keys.size < s.keys.size := by
    intro i hi
    have hlt := List.mem_range.1 hi
    exact Nat.mod_lt _ (by omega)
  unfold sample
  simp only
  generalize List.range (min sampleSize s.keys.size) = places at hplaces ⊢
  induction places with
  | nil => rfl
  | cons i places ih =>
    obtain ⟨hi, hrest⟩ := List.forall_mem_cons.1 hplaces
    have hkey := Array.getElem?_eq_getElem hi
    obtain ⟨slot, hslot⟩ := (h.mem_iff _).1 (Array.getElem_mem hi)
    simp only [List.filterMap_cons, List.map_cons, hkey, hslot, Option.bind_some, Option.map_some, ih hrest]

/-- so each of these keys is in it, with its slot -/
theorem Dense.mem_sample {s : Shard} (h : Dense s) (position : Nat) {i : Nat} (hi : i < min sampleSize s.keys.size) :
    ∃ key slot, s.keys[(position + i) % s.keys.size]? = some key ∧ (key, slot) ∈ s.sample position := by
  have hmem := List.mem_map_of_mem (f := fun i => s.keys[(position + i) % s.keys.size]?) (List.mem_range.2 hi)
  rw [← h.sample_keys position] at hmem
  obtain ⟨⟨key, slot⟩, hpair, hkey⟩ := List.mem_map.1 hmem
  exact ⟨key, slot, hkey.symm, hpair⟩

/-- places less than a whole turn apart are different places -/
theorem Dense.inj_around {s : Shard} (h : Dense s) (position : Nat) {i j : Nat} (hi : i < s.keys.size)
    (hj : j < s.keys.size)
    (heq : s.keys[(position + i) % s.keys.size]? = s.keys[(position + j) % s.keys.size]?) : i = j := by
  have hplace : (position + j) % s.keys.size < s.keys.size := Nat.mod_lt _ (by omega)
  have hkey := Array.getElem?_eq_getElem hplace
  have hsame := h.place_unique (heq.trans hkey) hkey
  have hmod : Nat.ModEq s.keys.size i j := Nat.ModEq.add_left_cancel' position hsame
  rwa [Nat.ModEq, Nat.mod_eq_of_lt hi, Nat.mod_eq_of_lt hj] at hmod

theorem mem_expiredKeys {s : Shard} (h : Dense s) (now : Instant) (key : Key) :
    key ∈ s.expiredKeys now ↔ ∃ slot, s.slot? key = some slot ∧ slot.isExpired now = true := by
  unfold expiredKeys
  rw [List.mem_filter, Array.mem_toList_iff, h.mem_iff, Option.any_eq_true]
  constructor
  · rintro ⟨-, slot, hs, he⟩; exact ⟨slot, hs, he⟩
  · rintro ⟨slot, hs, he⟩; exact ⟨⟨slot, hs⟩, slot, hs, he⟩

end EdgeCache.Store.Shard
