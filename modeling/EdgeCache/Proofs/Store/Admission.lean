/-
What finds room is stored, and nothing is lost for it.

- `insert_of_fits`: an entry for which the budget has room is written, and no other key changes; `insertRounds_of_fits`:
  nothing is evicted for it.
- `get_of_absent`, `get_of_live`: what is not stored is not found, and what is stored and not expired is.
-/
import EdgeCache.Proofs.Store.Refusal

namespace EdgeCache.ResponseStore

open EdgeCache.Store EdgeCache.Time

/-- the budget has room for an entry in the place of what is stored under its key -/
structure Fits (s : ResponseStore) (key : Key) (entry : Entry) : Prop where
  objects : s.contents key = none → s.budget.objects < s.budget.maxObjects
  cost : s.budget.cost - (((s.contents key).map (·.1.cost)).getD 0 : Nat) + entry.cost ≤ s.budget.maxCost

variable {limits : Limits} {s : ResponseStore} {key : Key} {entry : Entry}

theorem cost_le_booked (h : s.Booked 0 0) {slot : Slot} (hslot : s.slot? key = some slot) :
    (slot.entry.cost : Int) ≤ s.budget.cost := by
  have htaken := (h.takeOut hslot).cost_eq
  obtain ⟨shard, -, ht⟩ := takeOut_eq_some hslot
  rw [ht] at htaken
  have hbudget : (s.setShard (s.shardOf key) shard).budget.cost = s.budget.cost := by rw [budget_setShard]
  rw [hbudget] at htaken
  omega

theorem Fits.cost_le (hfits : s.Fits key entry) (h : s.Booked 0 0) : entry.cost ≤ s.budget.maxCost := by
  have hcost := hfits.cost
  cases hslot : s.slot? key with
  | none =>
    have hnone : s.contents key = none := by unfold contents; rw [hslot]; rfl
    have hbooked := h.cost_eq
    rw [hnone] at hcost
    simp only [Option.map_none, Option.getD_none] at hcost
    omega
  | some slot =>
    have hle := cost_le_booked h hslot
    rw [contents_of_slot? hslot] at hcost
    simp only [Option.map_some, Option.getD_some, Slot.content] at hcost
    omega

theorem reserve_of_room {b : Budget} {objects cost : Nat} (ho : 0 < objects → b.objects + objects ≤ b.maxObjects)
    (hc : b.cost + cost ≤ b.maxCost) : ∃ b', b.reserve objects cost = (true, b') := by
  have hfits : (b.reserve objects cost).1 ≠ false := by
    intro hfalse
    rcases (reserve_eq_false_iff b objects cost).1 hfalse with ⟨hpos, hlt⟩ | hlt
    · have := ho hpos
      omega
    · omega
  exact ⟨(b.reserve objects cost).2, Prod.ext ((Bool.not_eq_false _).mp hfits) rfl⟩

/-- what fits and is absent has its whole cost reserved at once -/
theorem Fits.reserve_absent (hfits : s.Fits key entry) (hslot : s.slot? key = none) :
    ∃ b, s.budget.reserve 1 entry.cost = (true, b) := by
  have hnone : s.contents key = none := by unfold contents; rw [hslot]; rfl
  have hcost := hfits.cost
  rw [hnone] at hcost
  simp only [Option.map_none, Option.getD_none, Int.ofNat_zero, Int.sub_zero] at hcost
  have hobjects := hfits.objects hnone
  exact reserve_of_room (fun _ => hobjects) hcost

/-- a version that fits has reserved at once what it costs more than the stored one -/
theorem Fits.reserve_stored (hfits : s.Fits key entry) {slot : Slot} (hslot : s.slot? key = some slot)
    (hmore : slot.entry.cost < entry.cost) :
    ∃ b, s.budget.reserve 0 (entry.cost - slot.entry.cost) = (true, b) := by
  have hcost := hfits.cost
  rw [contents_of_slot? hslot] at hcost
  simp only [Option.map_some, Option.getD_some, Slot.content] at hcost
  exact reserve_of_room (fun h => absurd h (Nat.lt_irrefl 0)) (by omega)

theorem insert_absent_of_fits (h : Sound limits s) (hfits : s.Fits key entry) (hslot : s.slot? key = none)
    (now : Instant) (readings : Nat → Instant) (picks : Nat → Pick) (lifetime : Option Span) :
    (s.insert now picks key entry lifetime readings).1 = true ∧
    (s.insert now picks key entry lifetime readings).2.contents =
      Function.update s.contents key (some (entry, lifetime.bind now.after?)) := by
  obtain ⟨b, hb⟩ := hfits.reserve_absent hslot
  have hroom : (s.touch key).reserve readings picks key 1 entry.cost = (true, { s.touch key with budget := b }) :=
    makeRoom_of_fits (n := 1023) hb
  have hslot' : { s.touch key with budget := b }.slot? key = none := hslot
  rw [insert_absent (hfits.cost_le h.booked) hslot hroom hslot', if_pos rfl]
  exact ⟨rfl, contents_publish h.shaped.shards_pos key entry _⟩

/-- a version that fits takes the place of the one that is stored -/
theorem insert_stored_of_fits (h : Sound limits s) (hfits : s.Fits key entry) {slot : Slot}
    (hslot : s.slot? key = some slot) (now : Instant) (readings : Nat → Instant) (picks : Nat → Pick)
    (lifetime : Option Span) :
    (s.insert now picks key entry lifetime readings).1 = true ∧
    (s.insert now picks key entry lifetime readings).2.contents =
      Function.update s.contents key (some (entry, lifetime.bind now.after?)) := by
  have hle : ¬(s.touch key).budget.maxCost < entry.cost := Nat.not_lt.2 (hfits.cost_le h.booked)
  have htouch := h.touch key
  rcases replaceInPlace_cases htouch.shaped htouch.booked key entry (lifetime.bind now.after?) with
    ⟨habsent, -⟩ | ⟨slot', hslot', hlt, hr⟩ | ⟨t, hr, hw, -⟩
  · have habsent' : s.slot? key = none := habsent
    rw [hslot] at habsent'
    cases habsent'
  · -- the budget has room for the difference, so that none is to be made
    obtain rfl : slot = slot' := Option.some.inj (hslot.symm.trans hslot')
    obtain ⟨b, hb⟩ : ∃ b, (s.touch key).budget.reserve 0 (entry.cost - slot.entry.cost) = (true, b) :=
      hfits.reserve_stored hslot hlt
    unfold replaceInPlace at hr
    simp only [hslot', hlt, if_true, hb] at hr
    cases hr
  · unfold insert
    simp only [hle, if_false, hr, true_and]
    exact hw.contents

/-- **What fits is stored.** An entry for which the budget has room is written under its key, with its expiry, and
nothing else changes. -/
theorem insert_of_fits (h : Sound limits s) (hfits : s.Fits key entry) (now : Instant) (readings : Nat → Instant)
    (picks : Nat → Pick) (lifetime : Option Span) :
    (s.insert now picks key entry lifetime readings).1 = true ∧
    (s.insert now picks key entry lifetime readings).2.contents =
      Function.update s.contents key (some (entry, lifetime.bind now.after?)) := by
  cases hslot : s.slot? key with
  | none => exact insert_absent_of_fits h hfits hslot now readings picks lifetime
  | some slot => exact insert_stored_of_fits h hfits hslot now readings picks lifetime

theorem insertRounds_of_fits (h : Sound limits s) (hfits : s.Fits key entry) (now : Instant)
    (readings : Nat → Instant) (picks : Nat → Pick) (lifetime : Option Span) :
    s.insertRounds now readings picks key entry lifetime = [] := by
  have hle : ¬(s.touch key).budget.maxCost < entry.cost := Nat.not_lt.2 (hfits.cost_le h.booked)
  have htouch : (s.touch key).slot? key = s.slot? key := rfl
  unfold insertRounds replaceInPlace
  simp only [hle, if_false, htouch]
  cases hslot : s.slot? key with
  | none =>
    obtain ⟨b, hb⟩ : ∃ b, (s.touch key).budget.reserve 1 entry.cost = (true, b) := hfits.reserve_absent hslot
    unfold rounds maxEvictions
    simp only [hb]
  | some slot =>
    by_cases hmore : slot.entry.cost < entry.cost
    · obtain ⟨b, hb⟩ : ∃ b, (s.touch key).budget.reserve 0 (entry.cost - slot.entry.cost) = (true, b) :=
        hfits.reserve_stored hslot hmore
      simp only [hmore, if_true, hb]
    · simp only [hmore, if_false]

theorem Fits.touch (h : s.Fits key entry) (k : Key) : (s.touch k).Fits key entry := ⟨h.objects, h.cost⟩

/-- an empty store has room for what costs no more than it can hold -/
theorem fits_new (h : new limits = .ok s) (key : Key) (hcost : entry.cost ≤ limits.maxCost) : s.Fits key entry := by
  have hnone : s.contents key = none := congrFun (contents_new h) key
  have hsound := sound_new h
  unfold new at h
  split_ifs at h with ho hc
  cases h
  refine ⟨?_, ?_⟩
  · intro _
    show (0 : Int) < limits.maxObjects
    omega
  · rw [hnone]
    show (0 : Int) - 0 + entry.cost ≤ limits.maxCost
    omega

theorem get_of_absent {now : Instant} (h : s.contents key = none) : s.get now key = (none, s.touch key) := by
  have hslot := slot?_of_contents_eq_none h
  rcases get_cases s now key with ⟨-, hg⟩ | ⟨slot, hslot', -⟩ | ⟨slot, hslot', -⟩
  · exact hg
  · rw [hslot] at hslot'; cases hslot'
  · rw [hslot] at hslot'; cases hslot'

theorem get_of_live {stored : Entry × Option Instant} {now : Instant} (hstored : s.contents key = some stored)
    (hlive : isExpired now stored = false) :
    (s.get now key).1 = some stored.1 ∧ (s.get now key).2.contents = s.contents := by
  obtain ⟨slot, hslot, rfl⟩ := Option.map_eq_some_iff.1 hstored
  have hlive' : slot.isExpired now = false := hlive
  rcases get_cases s now key with ⟨hnone, -⟩ | ⟨slot', hslot', -, hg⟩ | ⟨slot', hslot', hx, -⟩
  · rw [hslot] at hnone; cases hnone
  · rw [hslot] at hslot'
    cases hslot'
    rw [hg]
    exact ⟨rfl, rfl⟩
  · rw [hslot] at hslot'
    cases hslot'
    rw [hlive'] at hx
    cases hx

end EdgeCache.ResponseStore
