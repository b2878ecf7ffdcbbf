/-
Which entry an eviction takes.

- `Shard.sampled_of_dense`: a sample has five different keys, or all of a shard with fewer, with what is stored there.
- `weakest_of_victim?`: the victim among neighbours is expired if one of them is, and otherwise the least popular.
- `Arises.booked`: in every state that tasks bring a store to, no more is reserved than the counters of the budget show.
- `evict_finds`: in each of these states, an eviction finds nothing only where there is nothing to find, takes one entry
  and gives its budget back, and refuses only for an entry that is live and more popular.
-/
import EdgeCache.Proofs.Store.Grounds
import EdgeCache.Proofs.Store.Placement

namespace EdgeCache.Store.Shard

open EdgeCache.Time

variable {s : Shard}

/-! ## Samples -/

/-- a sample that misses nothing: as many different keys as it may have, with their slots -/
structure Sampled (s : Shard) (position : Nat) : Prop where
  length : (s.sample position).length = min 5 s.keys.size
  nodup : ((s.sample position).map (·.1)).Nodup
  stored : ∀ pair ∈ s.sample position, s.slot? pair.1 = some pair.2

theorem sampled_of_dense (h : s.Dense) (position : Nat) : s.Sampled position := by
  have hkeys := h.sample_keys position
  refine ⟨?_, ?_, fun pair hpair => slot?_of_mem_sample hpair⟩
  · have hlength := congrArg List.length hkeys
    rw [List.length_map, List.length_map, List.length_range] at hlength
    exact hlength
  · have hnodup : ((s.sample position).map (some ·.1)).Nodup := by
      rw [hkeys]
      refine List.Nodup.map_on ?_ List.nodup_range
      intro i hi j hj heq
      have hi' := List.mem_range.1 hi
      have hj' := List.mem_range.1 hj
      exact h.inj_around position (by omega) (by omega) heq
    exact List.Nodup.of_map some (by rwa [List.map_map])

end EdgeCache.Store.Shard

namespace EdgeCache.ResponseStore

open EdgeCache.Store EdgeCache.Time

variable {s t : ResponseStore} {now : Instant} {pick : Pick} {kept key : Key} {incoming n : Nat} {slot : Slot}
  {neighbours : List (Key × Slot)} {p : Popularity}

/-! ## The victim among neighbours -/

/-- if none of the victim's neighbours is expired, it is the least popular of them, and of the best one so far -/
theorem victim?_least {best : Option (Key × Nat)} (h : victim? p now kept best neighbours = some (key, n)) :
    (∃ slot, (key, slot) ∈ neighbours ∧ key ≠ kept ∧ slot.isExpired now = true) ∨
    (∀ b ∈ best, n ≤ b.2) ∧
      ∀ pair ∈ neighbours, pair.1 ≠ kept → pair.2.isExpired now = false ∧ n ≤ p.estimate pair.1 := by
  induction neighbours generalizing best with
  | nil =>
    obtain rfl : best = some (key, n) := h
    right
    refine ⟨?_, by simp⟩
    rintro b ⟨⟩
    exact Nat.le_refl n
  | cons pair rest ih =>
    obtain ⟨k, sl⟩ := pair
    unfold victim? at h
    split_ifs at h with hkept hexpired
    · rcases ih h with ⟨slot, hmem, hv⟩ | ⟨hbest, hrest⟩
      · exact .inl ⟨slot, List.mem_cons_of_mem _ hmem, hv⟩
      · exact .inr ⟨hbest, List.forall_mem_cons.2 ⟨fun hne => absurd hkept hne, hrest⟩⟩
    · cases h
      exact .inl ⟨sl, List.mem_cons_self, hkept, hexpired⟩
    · rcases ih h with ⟨slot, hmem, hv⟩ | ⟨hbest, hrest⟩
      · exact .inl ⟨slot, List.mem_cons_of_mem _ hmem, hv⟩
      · right
        have hlive : sl.isExpired now = false := Bool.not_eq_true _ ▸ hexpired
        by_cases hless : best.all (p.estimate k < ·.2) = true
        · -- this neighbour is the best so far
          have hn : n ≤ p.estimate k := hbest (k, p.estimate k) (by rw [if_pos hless]; rfl)
          refine ⟨?_, List.forall_mem_cons.2 ⟨fun _ => ⟨hlive, hn⟩, hrest⟩⟩
          rintro b ⟨⟩
          have hb : p.estimate k < b.2 := by simpa using hless
          omega
        · -- an earlier one is at most as popular
          rw [if_neg hless] at hbest
          refine ⟨hbest, List.forall_mem_cons.2 ⟨fun _ => ⟨hlive, ?_⟩, hrest⟩⟩
          cases best with
          | none => exact absurd rfl hless
          | some b =>
            have hb : ¬p.estimate k < b.2 := by simpa using hless
            have hn := hbest b rfl
            show n ≤ p.estimate k
            omega

/-- the neighbour that an eviction takes for a newcomer of popularity `incoming` -/
structure Weakest (p : Popularity) (now : Instant) (kept : Key) (incoming : Nat) (neighbours : List (Key × Slot))
    (key : Key) (slot : Slot) : Prop where
  mem : (key, slot) ∈ neighbours
  other : key ≠ kept
  /-- it is expired, or none of the others is less popular, and it is at most as popular as the newcomer -/
  least : slot.isExpired now = true ∨
    p.estimate key ≤ incoming ∧ ∀ pair ∈ neighbours, pair.1 ≠ kept → p.estimate key ≤ p.estimate pair.1
  /-- if one of them is expired, it is -/
  expired : ∀ pair ∈ neighbours, pair.1 ≠ kept → pair.2.isExpired now = true → slot.isExpired now = true

theorem weakest_of_victim? (hslots : ∀ pair ∈ neighbours, pair.1 = key → pair.2 = slot)
    (h : victim? p now kept none neighbours = some (key, n)) (hgo : slot.isExpired now = true ∨ n ≤ incoming) :
    Weakest p now kept incoming neighbours key slot := by
  have hkey : (key, slot) ∈ neighbours ∧ key ≠ kept ∧ n = if slot.isExpired now then 0 else p.estimate key := by
    rcases victim?_eq_some h with hnone | ⟨sl, hmem, hv⟩
    · cases hnone
    · obtain rfl : sl = slot := hslots _ hmem rfl
      exact ⟨hmem, hv⟩
  obtain ⟨hmem, hne, hn⟩ := hkey
  rcases victim?_least h with ⟨sl, hmem', -, hexpired⟩ | ⟨-, hleast⟩
  · obtain rfl : sl = slot := hslots _ hmem' rfl
    exact ⟨hmem, hne, .inl hexpired, fun _ _ _ _ => hexpired⟩
  · have hlive := (hleast _ hmem hne).1
    rw [if_neg (by rw [hlive]; decide)] at hn
    subst hn
    refine ⟨hmem, hne, .inr ⟨hgo.resolve_left (by rw [hlive]; decide), fun pair hpair hother => ?_⟩, ?_⟩
    · exact (hleast pair hpair hother).2
    · intro pair hpair hother hover
      rw [(hleast pair hpair hother).1] at hover
      cases hover

/-- the candidate of all shards is the weakest of the sample that it was found in -/
theorem weakest_of_candidate? {i : Nat} (hc : s.candidate? now pick kept = some (i, key, n))
    (hslot : (s.shardAt i).slot? key = some slot) (hgo : slot.isExpired now = true ∨ n ≤ incoming) :
    Weakest s.popularity now kept incoming ((s.shardAt i).sample (pick.position i)) key slot := by
  obtain ⟨j, -, hj⟩ := List.exists_of_findSome?_eq_some hc
  obtain ⟨⟨k, m⟩, hvictim, he⟩ := Option.map_eq_some_iff.1 hj
  cases he
  refine weakest_of_victim? ?_ hvictim hgo
  rintro ⟨k, sl⟩ hpair rfl
  have hsame := Shard.slot?_of_mem_sample hpair
  rw [hslot] at hsame
  exact (Option.some.inj hsame).symm

/-! ## One eviction -/

/-- counters that never went below zero, in every state that tasks bring a store to -/
theorem Arises.booked (h : s.Arises) : ∃ objects cost : Int, 0 ≤ objects ∧ 0 ≤ cost ∧ s.Booked objects cost := by
  obtain ⟨m, limits, fresh, moves, hnew, rfl⟩ := h
  have hsound := Pool.run_sound (Pool.sound_idle (n := m) hnew) moves
  have hnonneg : ∀ t, (((Pool.idle fresh).run moves).account t).Nonneg := by
    intro t
    obtain ⟨held, ht⟩ := hsound.inLine t
    exact ht.nonneg
  exact ⟨_, _, Finset.sum_nonneg fun t _ => (hnonneg t).1, Finset.sum_nonneg fun t _ => (hnonneg t).2, hsound.booked⟩

/-- `t` is `s` without one entry, whose share of the budget is given back -/
structure Loses (s : ResponseStore) (key : Key) (slot : Slot) (t : ResponseStore) : Prop where
  stored : s.contents key = some slot.content
  contents : t.contents = Function.update s.contents key none
  budget : t.budget = s.budget.release slot.entry.cost
  /-- no counter goes below zero -/
  not_overdrawn : t.budget.overdrawn = false

theorem Arises.loses (h : s.Arises) {i : Nat} (hslot : (s.shardAt i).slot? key = some slot) :
    s.Loses key slot (s.drop i key).2 := by
  have hhome := h.shaped.home i key slot hslot
  obtain ⟨objects, cost, hobjects, hcost, hbooked⟩ := h.booked
  obtain ⟨shard, -, hd⟩ := drop_eq_true hslot
  refine ⟨?_, contents_drop hhome, by rw [hd], (hbooked.drop hobjects hcost i key).not_overdrawn⟩
  subst hhome
  exact contents_of_slot? hslot

/-- what an eviction comes to: its result `e`, and the store `t` after it -/
structure Finds (s : ResponseStore) (now : Instant) (pick : Pick) (kept : Key) (incoming : Nat) (e : Eviction)
    (t : ResponseStore) : Prop where
  /-- whatever the position, no sample misses anything -/
  sampled : ∀ i position, (s.shardAt i).Sampled position
  /-- nothing is found if and only if nothing is stored but for the protected key -/
  nothing_iff : e = .nothing ↔ ∀ key stored, s.contents key = some stored → key = kept
  /-- one entry is evicted, the one that its shard's sample is to lose -/
  evicted : e = .evicted → ∃ i key slot,
    Weakest s.popularity now kept incoming ((s.shardAt i).sample (pick.position i)) key slot ∧ s.Loses key slot t
  /-- an eviction that is refused changes nothing, and there is a live entry that is more popular -/
  refused : e = .refused → t = s ∧ ∃ key stored, s.contents key = some stored ∧ key ≠ kept ∧
    isExpired now stored = false ∧ incoming < s.popularity.estimate key
  /-- nor does one that finds nothing -/
  nothing : e = .nothing → t = s

/-- **An eviction finds a victim if there is one.** In every state that tasks bring an empty store to, for every start
of the search and every position of the samples, nothing is found only where no other key is stored than the protected
one. An eviction takes the weakest of a sample and gives its budget back. A refusal changes nothing, and some live entry
is more popular than the newcomer. -/
theorem evict_finds (h : s.Arises) (now : Instant) (pick : Pick) (kept : Key) (incoming : Nat) :
    s.Finds now pick kept incoming (s.evict now pick kept incoming).1 (s.evict now pick kept incoming).2 := by
  have hs := h.shaped
  have hsampled : ∀ i position, (s.shardAt i).Sampled position := fun i => Shard.sampled_of_dense (hs.dense i)
  unfold evict
  cases hc : s.candidate? now pick kept with
  | none =>
    refine ⟨hsampled, iff_of_true rfl fun key stored hstored => ?_, ?_, ?_, fun _ => rfl⟩
    · by_contra hne
      exact candidate?_ne_none hs hstored hne hc
    · rintro ⟨⟩
    · rintro ⟨⟩
  | some found =>
    obtain ⟨i, key, n⟩ := found
    obtain ⟨slot, hmem, hne, hn⟩ := candidate?_eq_some hc
    have hslot := Shard.slot?_of_mem_sample hmem
    have hloses := h.loses hslot
    have hsomething : ¬∀ k stored, s.contents k = some stored → k = kept :=
      fun halone => hne (halone key _ hloses.stored)
    simp only [hslot, Option.any_some, Bool.not_eq_true']
    by_cases hlive : slot.isExpired now = false ∧ incoming < n
    · rw [if_pos hlive]
      refine ⟨hsampled, iff_of_false (by rintro ⟨⟩) hsomething, ?_, fun _ => ⟨rfl, ?_⟩, ?_⟩
      · rintro ⟨⟩
      · rw [if_neg (by rw [hlive.1]; decide)] at hn
        exact ⟨key, slot.content, hloses.stored, hne, hlive.1, hn ▸ hlive.2⟩
      · rintro ⟨⟩
    · rw [if_neg hlive]
      refine ⟨hsampled, iff_of_false (by rintro ⟨⟩) hsomething, fun _ => ⟨i, key, slot, ?_, hloses⟩, ?_, ?_⟩
      · refine weakest_of_candidate? hc hslot ?_
        by_contra hno
        push Not at hno
        exact hlive ⟨Bool.not_eq_true _ ▸ hno.1, hno.2⟩
      · rintro ⟨⟩
      · rintro ⟨⟩

open ForTwo in
/-- of two entries the less popular one goes -/
theorem evict_finds_rare : (crowded.run [.get ⟨0⟩ newcomer]).Arises ∧
    ((crowded.run [.get ⟨0⟩ newcomer]).evict ⟨0⟩ (firstPick 0) newcomer 1).1 = .evicted ∧
    Finds (crowded.run [.get ⟨0⟩ newcomer]) ⟨0⟩ (firstPick 0) newcomer 1
      ((crowded.run [.get ⟨0⟩ newcomer]).evict ⟨0⟩ (firstPick 0) newcomer 1).1
      ((crowded.run [.get ⟨0⟩ newcomer]).evict ⟨0⟩ (firstPick 0) newcomer 1).2 := by
  refine ⟨arises_crowded _, ?_, evict_finds (arises_crowded _) ⟨0⟩ (firstPick 0) newcomer 1⟩
  have hasked : crowded.run [.get ⟨0⟩ newcomer] = holding both #[rare, popular] (asked.increment newcomer) := by
    have hnone : crowded.slot? newcomer = none := by
      rw [crowded, slot?_holding words.2.2, getElem?_both]
      rfl
    show (crowded.get ⟨0⟩ newcomer).2 = _
    rcases get_cases crowded ⟨0⟩ newcomer with ⟨-, hget⟩ | ⟨slot, hslot, -⟩ | ⟨slot, hslot, -⟩
    · rw [hget]
      rfl
    · rw [hnone] at hslot
      cases hslot
    · rw [hnone] at hslot
      cases hslot
  rw [hasked, evict_rare estimates.1 estimates.2.1]

end EdgeCache.ResponseStore
