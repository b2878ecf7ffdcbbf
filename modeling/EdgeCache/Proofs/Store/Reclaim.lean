/-
How entries leave the store outside of evictions: at a lookup that finds them expired, by removal, and in a sweep.

- `get_cases`: the three ways of a lookup.
- `contents_sweep`: a sweep erases what is expired, in every shard, and nothing else.
- `sweep_induct`: what every single removal keeps, a sweep keeps.
-/
import EdgeCache.Proofs.Store.Layout

namespace EdgeCache.ResponseStore

open EdgeCache.Store EdgeCache.Time

variable {s : ResponseStore}

/-! ## Looking up -/

/-- nothing is stored, or an entry is served, or an expired one is taken out -/
theorem get_cases (s : ResponseStore) (now : Instant) (key : Key) :
    (s.slot? key = none ∧ s.get now key = (none, s.touch key)) ∨
    (∃ slot, s.slot? key = some slot ∧ slot.isExpired now = false ∧
      s.get now key = (some slot.entry, s.touch key)) ∨
    ∃ slot, s.slot? key = some slot ∧ slot.isExpired now = true ∧
      s.get now key = (none, ((s.touch key).drop (s.shardOf key) key).2) := by
  have htouch : (s.touch key).slot? key = s.slot? key := rfl
  unfold get
  simp only [htouch]
  cases hslot : s.slot? key with
  | none => exact Or.inl ⟨rfl, rfl⟩
  | some slot =>
    right
    cases hx : slot.isExpired now with
    | false => exact Or.inl ⟨slot, rfl, hx, by simp [hx]⟩
    | true => exact Or.inr ⟨slot, rfl, hx, by simp [hx]; rfl⟩

/-! ## Sweeping -/

theorem dropAll_snd (s : ResponseStore) (i : Nat) (keys : List Key) :
    (s.dropAll i keys).2 = keys.foldl (fun s key => (s.drop i key).2) s := by
  unfold dropAll
  generalize 0 = n
  induction keys generalizing s n with
  | nil => rfl
  | cons key keys ih =>
    simp only [List.foldl_cons]
    exact ih _ _

theorem sweep_snd (s : ResponseStore) (now : Instant) :
    (s.sweep now).2 =
      (List.range s.shards.size).foldl (fun s i => (s.dropAll i ((s.shardAt i).expiredKeys now)).2) s := by
  unfold sweep
  generalize List.range s.shards.size = is
  generalize 0 = n
  induction is generalizing s n with
  | nil => rfl
  | cons i is ih =>
    simp only [List.foldl_cons]
    exact ih _ _

/-- what every single removal keeps, removals in a row keep -/
theorem dropAll_induct {P : ResponseStore → Prop} (hP : ∀ s i key, P s → P (s.drop i key).2) (h : P s) (i : Nat)
    (keys : List Key) : P (s.dropAll i keys).2 := by
  rw [dropAll_snd]
  induction keys generalizing s with
  | nil => exact h
  | cons key keys ih => exact ih (hP s i key h)

/-- what every single removal keeps, a sweep keeps -/
theorem sweep_induct {P : ResponseStore → Prop} (hP : ∀ s i key, P s → P (s.drop i key).2) (h : P s) (now : Instant) :
    P (s.sweep now).2 := by
  rw [sweep_snd]
  generalize List.range s.shards.size = is
  induction is generalizing s with
  | nil => exact h
  | cons i is ih => exact ih (dropAll_induct hP h i _)

theorem Shaped.dropAll (hs : s.Shaped) (i : Nat) (keys : List Key) : (s.dropAll i keys).2.Shaped :=
  dropAll_induct (fun _ i key h => h.drop i key) hs i keys

theorem size_dropAll (s : ResponseStore) (i : Nat) (keys : List Key) :
    (s.dropAll i keys).2.shards.size = s.shards.size :=
  dropAll_induct (P := fun t => t.shards.size = s.shards.size) (fun t i key h => (size_drop t i key).trans h) rfl i keys

theorem contents_dropAll {i : Nat} {keys : List Key} (hk : ∀ key ∈ keys, s.shardOf key = i) (key : Key) :
    (s.dropAll i keys).2.contents key = if key ∈ keys then none else s.contents key := by
  rw [dropAll_snd]
  induction keys generalizing s with
  | nil => simp
  | cons k keys ih =>
    have hof : ∀ key, (s.drop i k).2.shardOf key = s.shardOf key := by
      intro key
      unfold shardOf
      rw [size_drop]
    rw [List.foldl_cons, ih (fun key hm => (hof key).trans (hk key (List.mem_cons_of_mem _ hm))),
      contents_drop (hk k List.mem_cons_self), Function.update_apply]
    by_cases h : key = k
    · subst h; simp
    · simp only [List.mem_cons, h, if_false, false_or]

theorem mem_expiredKeys_iff (hs : s.Shaped) (now : Instant) (i : Nat) (key : Key) :
    key ∈ (s.shardAt i).expiredKeys now ↔ s.shardOf key = i ∧ (s.contents key).any (isExpired now) = true := by
  rw [Shard.mem_expiredKeys (hs.dense i)]
  constructor
  · rintro ⟨slot, hslot, hx⟩
    have hi := hs.home i key slot hslot
    subst hi
    refine ⟨rfl, ?_⟩
    show (((s.shardAt (s.shardOf key)).slot? key).map _).any _ = true
    rw [hslot]; exact hx
  · rintro ⟨rfl, hx⟩
    obtain ⟨c, hc, hx⟩ := (Option.any_eq_true _ _).1 hx
    obtain ⟨slot, hslot, rfl⟩ := Option.map_eq_some_iff.1 hc
    exact ⟨slot, hslot, hx⟩

/-- **A sweep is exact.** It erases what is expired, in every shard, and nothing else. -/
theorem contents_sweep (hs : s.Shaped) (now : Instant) (key : Key) :
    (s.sweep now).2.contents key = if (s.contents key).any (isExpired now) then none else s.contents key := by
  rw [sweep_snd]
  have hkey : s.shardOf key ∈ List.range s.shards.size := List.mem_range.2 (s.shardOf_lt hs.shards_pos key)
  -- over any list of shards, what is expired goes if its shard is in the list
  suffices h : ∀ is : List Nat, (is.foldl (fun s i => (s.dropAll i ((s.shardAt i).expiredKeys now)).2) s).contents key =
      if s.shardOf key ∈ is ∧ (s.contents key).any (isExpired now) then none else s.contents key by
    rw [h]; simp only [hkey, true_and]
  intro is
  clear hkey
  induction is generalizing s with
  | nil => simp
  | cons i is ih =>
    have hof : (s.dropAll i ((s.shardAt i).expiredKeys now)).2.shardOf key = s.shardOf key := by
      unfold shardOf; rw [size_dropAll]
    have hc := contents_dropAll (s := s) (i := i) (fun k hm => ((mem_expiredKeys_iff hs now i k).1 hm).1) key
    rw [List.foldl_cons, ih (hs.dropAll i _), hof, hc]
    simp only [mem_expiredKeys_iff hs, List.mem_cons]
    by_cases hi : s.shardOf key = i <;> by_cases hx : (s.contents key).any (isExpired now) = true <;> simp [hi, hx]

end EdgeCache.ResponseStore
