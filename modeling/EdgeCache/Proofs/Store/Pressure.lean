/-
When entries are evicted, and for whom.

- `rounds_split`: a round finds what the rounds before it left, and there is no room in that for what is asked for.
  `insertRounds_split`: so there is none for the entry.
- `insert_room`: an entry is written only where it has room, after the victims are gone.
- `evictions_warranted`: what fits is stored and nothing is lost for it; evictions happen only where it does not fit; and
  an entry that is less popular than all others, which are live, is refused and changes nothing.
-/
import EdgeCache.Proofs.Store.Effects

namespace EdgeCache.ResponseStore

open EdgeCache.Store EdgeCache.Time EdgeCache.Freshness

variable {limits : Limits} {s t : ResponseStore} {kept key : Key} {incoming : Nat} {entry : Entry} {call : Call}

/-! ## Room -/

/-- an absent entry whose whole cost can be reserved fits -/
theorem fits_of_reserve_absent (hnone : s.contents key = none) (hroom : (s.budget.reserve 1 entry.cost).1 = true) :
    s.Fits key entry := by
  have hno : ¬((0 < 1 ∧ s.budget.maxObjects < s.budget.objects + 1) ∨ s.budget.maxCost < s.budget.cost + entry.cost) := by
    intro hfull
    rw [(reserve_eq_false_iff s.budget 1 entry.cost).2 hfull] at hroom
    cases hroom
  refine ⟨fun _ => by omega, ?_⟩
  rw [hnone]
  simp only [Option.map_none, Option.getD_none]
  omega

/-- a version fits if what it costs more than the stored one can be reserved, and one that costs no more always does -/
theorem fits_of_reserve_stored (h : s.Booked 0 0) {stored : Entry × Option Instant} (hstored : s.contents key = some stored)
    (hroom : stored.1.cost < entry.cost → (s.budget.reserve 0 (entry.cost - stored.1.cost)).1 = true) :
    s.Fits key entry := by
  refine ⟨fun hnone => absurd (hstored.symm.trans hnone) (by simp), ?_⟩
  rw [hstored]
  simp only [Option.map_some, Option.getD_some]
  have hcost := h.cost_le
  by_cases hmore : stored.1.cost < entry.cost
  · have hno : ¬s.budget.maxCost < s.budget.cost + (entry.cost - stored.1.cost : Nat) := by
      intro hfull
      rw [(reserve_eq_false_iff s.budget 0 _).2 (Or.inr hfull)] at hroom
      cases hroom hmore
    omega
  · omega

/-! ## Rounds -/

theorem reading_of_victim? {r : Round} {v : Victim} (h : r.victim? kept incoming = some v) : v.reading = r.reading := by
  unfold Round.victim? at h
  split at h
  · obtain ⟨⟨i, k, n⟩, -, hv⟩ := Option.bind_eq_some_iff.1 h
    obtain ⟨slot, -, rfl⟩ := Option.map_eq_some_iff.1 hv
    rfl
  · cases h

theorem Clears.eq_of_nil (h : Clears kept incoming s [] t) : t = s := by
  cases h
  rfl

/-- a round finds the store that the victims of the rounds before it are gone from, and there is no room in it for what is
asked for -/
theorem rounds_split {readings : Nat → Instant} {picks : Nat → Pick} {objects cost left idle : Nat} (h : s.Booked 0 0)
    {before after : List Round} {r : Round}
    (hsplit : s.rounds readings picks key objects cost incoming left idle = before ++ r :: after) :
    Clears key incoming s (Store.victims key incoming before) r.store ∧
      (r.store.budget.reserve objects cost).1 = false := by
  induction left generalizing s idle before with
  | zero => exact absurd hsplit (by simp [rounds])
  | succ left ih =>
    rcases makeRoom_cases readings picks key objects cost incoming left idle s with ⟨b, -, -, hrounds⟩ |
      ⟨b, e, t, hr, he, hend⟩
    · rw [hrounds] at hsplit
      exact absurd hsplit (by simp)
    · -- the reservation was rolled back
      have hback := h.reserve_false (Int.le_refl 0) hr
      subst hback
      cases before with
      | nil =>
        have hfirst : r = ⟨s, readings left, picks left⟩ := by
          rcases hend with ⟨-, -, hrounds⟩ | ⟨-, idle', -, hrounds⟩
          · exact (List.cons.inj (hsplit.symm.trans hrounds)).1
          · exact (List.cons.inj (hsplit.symm.trans hrounds)).1
        subst hfirst
        exact ⟨.refl s, by rw [hr]⟩
      | cons first before =>
        rcases hend with ⟨-, -, hrounds⟩ | ⟨hne, idle', -, hrounds⟩
        · exact absurd (hsplit.symm.trans hrounds) (by simp)
        · obtain ⟨rfl, hrest⟩ := List.cons.inj (hsplit.symm.trans hrounds)
          cases e with
          | evicted =>
            obtain ⟨i, k, slot, hs, hk, hallowed, hv, rfl⟩ := evict_evicted he
            obtain ⟨hc, hfull⟩ := ih (h.drop (Int.le_refl 0) (Int.le_refl 0) i k) hrest.symm
            rw [victims_cons_of_some hv]
            exact ⟨.evict hs hk hallowed hc, hfull⟩
          | refused => exact absurd rfl hne
          | nothing =>
            obtain ⟨rfl, hv⟩ := evict_of_ne he (by decide)
            rw [victims_cons_of_none hv]
            exact ih h hrest.symm

/-- what a round of storing an entry finds has no room for it -/
theorem insertRounds_split (h : Sound limits s) {now : Instant} {readings : Nat → Instant} {picks : Nat → Pick}
    {lifetime : Option Span} {before after : List Round} {r : Round}
    (hsplit : s.insertRounds now readings picks key entry lifetime = before ++ r :: after) :
    Clears key ((s.touch key).popularity.estimate key) (s.touch key)
        (Store.victims key ((s.touch key).popularity.estimate key) before) r.store ∧
      ¬r.store.Fits key entry := by
  obtain ⟨hs, hb⟩ : (s.touch key).Shaped ∧ (s.touch key).Booked 0 0 := ⟨(h.touch key).shaped, (h.touch key).booked⟩
  rcases insert_cases h.shaped h.booked now readings picks key entry lifetime with ⟨-, -, hr⟩ | ⟨hslot, -, hr⟩ |
    ⟨slot, hslot, hlt, -, hr⟩ | ⟨t, -, -, hr, -⟩
  · rw [hr] at hsplit
    exact absurd hsplit (by simp)
  · rw [hr] at hsplit
    obtain ⟨hc, hfull⟩ := rounds_split hb hsplit
    refine ⟨hc, fun hfits => ?_⟩
    have hnone : r.store.contents key = none := by
      rw [hc.contents_kept hs]
      unfold contents
      rw [hslot]
      rfl
    obtain ⟨b, hroom⟩ := hfits.reserve_absent (slot?_of_contents_eq_none hnone)
    rw [hroom] at hfull
    cases hfull
  · rw [hr] at hsplit
    obtain ⟨hc, hfull⟩ := rounds_split hb hsplit
    refine ⟨hc, fun hfits => ?_⟩
    have hkept : r.store.contents key = some slot.content := (hc.contents_kept hs).trans (contents_of_slot? hslot)
    obtain ⟨sl, hsl, he⟩ := slot?_of_contents_eq_some hkept
    obtain ⟨b, hroom⟩ := hfits.reserve_stored hsl (by rw [he]; exact hlt)
    rw [he] at hroom
    rw [hroom] at hfull
    cases hfull
  · rw [hr] at hsplit
    exact absurd hsplit (by simp)

/-! ## Writing -/

theorem introduce_fst {readings : Nat → Instant} {picks : Nat → Pick} {expiry : Option Instant} :
    (s.introduce readings picks key entry expiry).1 = (s.reserve readings picks key 1 entry.cost).1 := by
  unfold introduce
  cases s.reserve readings picks key 1 entry.cost with
  | mk fits t =>
    cases fits with
    | false => rfl
    | true =>
      simp only
      split <;> rfl

/-- so is a version that grows: the stored one is still there when its room is made -/
theorem grow_fst (hs : s.Shaped) (hb : s.Booked 0 0) {readings : Nat → Instant} {picks : Nat → Pick}
    {expiry : Option Instant} {slot : Slot} (hslot : s.slot? key = some slot) :
    (s.grow readings picks key entry expiry slot.entry.cost).1 =
      (s.reserve readings picks key 0 (entry.cost - slot.entry.cost)).1 := by
  obtain ⟨cleared, hc, hres⟩ := makeRoom_clears readings picks key 0 (entry.cost - slot.entry.cost)
    (s.popularity.estimate key) maxEvictions 0 s hb
  unfold grow reserve
  rcases hres with hres | ⟨b, -, hres⟩
  · rw [hres]
  · obtain ⟨sl, hsl, he⟩ := slot?_of_contents_eq_some ((hc.contents_kept hs).trans (contents_of_slot? hslot))
    have hsl' : { cleared with budget := b }.slot? key = some sl := hsl
    rw [hres]
    simp only [hsl', Option.any_some, he, decide_true, if_true]

/-- a reservation that is granted has cleared the victims of its rounds, and then there is room -/
theorem reserve_room (h : s.Booked 0 0) {readings : Nat → Instant} {picks : Nat → Pick} {objects cost : Nat}
    (hyes : (s.reserve readings picks key objects cost).1 = true) :
    ∃ cleared, Clears key (s.popularity.estimate key) s (Store.victims key (s.popularity.estimate key)
        (s.rounds readings picks key objects cost (s.popularity.estimate key) maxEvictions 0)) cleared ∧
      (cleared.budget.reserve objects cost).1 = true := by
  obtain ⟨cleared, hc, hres⟩ := makeRoom_clears readings picks key objects cost (s.popularity.estimate key)
    maxEvictions 0 s h
  refine ⟨cleared, hc, ?_⟩
  unfold reserve at hyes
  rcases hres with hres | ⟨b, hroom, -⟩
  · rw [hres] at hyes
    cases hyes
  · rw [hroom]

/-- **An entry is written only where it has room**, after the victims of its rounds are gone. -/
theorem insert_room (h : Sound limits s) {now : Instant} {readings : Nat → Instant} {picks : Nat → Pick}
    {lifetime : Option Span} (hyes : (s.insert now picks key entry lifetime readings).1 = true) :
    ∃ cleared, Clears key ((s.touch key).popularity.estimate key) (s.touch key)
        (Store.victims key ((s.touch key).popularity.estimate key)
          (s.insertRounds now readings picks key entry lifetime)) cleared ∧
      cleared.Fits key entry := by
  obtain ⟨hs, hb⟩ : (s.touch key).Shaped ∧ (s.touch key).Booked 0 0 := ⟨(h.touch key).shaped, (h.touch key).booked⟩
  rcases insert_cases h.shaped h.booked now readings picks key entry lifetime with ⟨-, hi, -⟩ | ⟨hslot, hi, hr⟩ |
    ⟨slot, hslot, -, hi, hr⟩ | ⟨t, hreplace, -, hr, -⟩
  · rw [hi] at hyes
    cases hyes
  · rw [hi, introduce_fst] at hyes
    rw [hr]
    obtain ⟨cleared, hc, hroom⟩ := reserve_room hb hyes
    refine ⟨cleared, hc, fits_of_reserve_absent ?_ hroom⟩
    rw [hc.contents_kept hs]
    unfold contents
    rw [hslot]
    rfl
  · rw [hi, grow_fst hs hb hslot] at hyes
    rw [hr]
    obtain ⟨cleared, hc, hroom⟩ := reserve_room hb hyes
    have hkept := (hc.contents_kept hs).trans (contents_of_slot? hslot)
    exact ⟨cleared, hc, fits_of_reserve_stored (hc.booked hb) hkept fun _ => hroom⟩
  · -- a version that took the place of the stored one at once
    rw [hr]
    refine ⟨_, .refl _, ?_⟩
    unfold replaceInPlace at hreplace
    cases hslot : (s.touch key).slot? key with
    | none =>
      rw [hslot] at hreplace
      cases hreplace
    | some slot =>
      rw [hslot] at hreplace
      refine fits_of_reserve_stored hb (contents_of_slot? hslot) fun hmore => ?_
      have hmore' : slot.entry.cost < entry.cost := hmore
      simp only [hmore', if_true] at hreplace
      split at hreplace
      · rename_i b hroom
        exact congrArg Prod.fst hroom
      · cases hreplace

/-! ## Popular neighbours -/

/-- where all that is stored under other keys is live and more popular than the newcomer, nothing is evicted -/
theorem victims_of_popular (h : Sound limits s) {now : Instant} {readings : Nat → Instant} {picks : Nat → Pick}
    {lifetime : Option Span}
    (hpopular : ∀ k stored, k ≠ key → s.contents k = some stored →
      (∀ r ∈ s.insertRounds now readings picks key entry lifetime, isExpired r.reading stored = false) ∧
      (s.touch key).popularity.estimate key < (s.touch key).popularity.estimate k) :
    Store.victims key ((s.touch key).popularity.estimate key)
      (s.insertRounds now readings picks key entry lifetime) = [] := by
  obtain ⟨cleared, hc, -⟩ := insert_outcome h.shaped h.booked now readings picks key entry lifetime
  rw [List.eq_nil_iff_forall_not_mem]
  intro v hv
  obtain ⟨hstored, hother, hallowed⟩ := hc.victim (h.touch key).shaped v hv
  obtain ⟨r, hr, hvictim⟩ := List.mem_filterMap.1 hv
  obtain ⟨hlive, hmore⟩ := hpopular v.key v.slot.content hother hstored
  have hnot : v.slot.isExpired v.reading = false := reading_of_victim? hvictim ▸ hlive r hr
  rcases hallowed with hexpired | hle
  · rw [hnot] at hexpired
    cases hexpired
  · omega

/-- and an entry that does not fit is refused, with nothing lost -/
theorem insert_of_popular (h : Sound limits s) (hfull : ¬s.Fits key entry) {now : Instant} {readings : Nat → Instant}
    {picks : Nat → Pick} {lifetime : Option Span}
    (hnone : Store.victims key ((s.touch key).popularity.estimate key)
      (s.insertRounds now readings picks key entry lifetime) = []) :
    s.insert now picks key entry lifetime readings = (false, s.touch key) := by
  obtain ⟨cleared, hc, hres⟩ := insert_outcome h.shaped h.booked now readings picks key entry lifetime
  rw [hnone] at hc
  obtain rfl := hc.eq_of_nil
  rcases hres with hres | ⟨t, hres, -, -⟩
  · exact hres
  · -- it was written, so that there was room
    obtain ⟨room, hroom, hfits⟩ := insert_room h (congrArg Prod.fst hres)
    rw [hnone] at hroom
    obtain rfl := hroom.eq_of_nil
    exact absurd ⟨hfits.objects, hfits.cost⟩ hfull

/-! ## Calls -/

/-- what a call that is to store an entry evicts, and when: the popularity of the newcomer counts this call -/
structure Warranted (s : ResponseStore) (call : Call) (key : Key) (entry : Entry) : Prop where
  /-- what fits is stored, and nothing else changes -/
  fits : s.Fits key entry → (call.perform s).1 = .done true ∧
    ∃ expiry, (call.perform s).2.contents = Function.update s.contents key (some (entry, expiry))
  /-- what is lost under other keys is what the rounds of the call evict -/
  lost : ∀ k, k ≠ key → (call.perform s).2.contents k =
    if k ∈ (call.victims s key).map (·.key) then none else s.contents k
  /-- each round finds what the rounds before it left, and the entry does not fit there -/
  short : ∀ before r after, call.rounds s = before ++ r :: after →
    Clears key ((s.touch key).popularity.estimate key) (s.touch key)
      (Store.victims key ((s.touch key).popularity.estimate key) before) r.store ∧
    ¬r.store.Fits key entry
  /-- what is evicted was stored under another key, and if it was live it was no more popular than the newcomer -/
  allowed : ∀ v ∈ call.victims s key, s.contents v.key = some v.slot.content ∧ v.key ≠ key ∧
    (isExpired v.reading v.slot.content = false →
      (s.touch key).popularity.estimate v.key ≤ (s.touch key).popularity.estimate key)
  /-- what does not fit is refused and changes nothing, if all that is stored under other keys is live when the rounds read
  the clock, and more popular -/
  refused : ¬s.Fits key entry →
    (∀ k stored, k ≠ key → s.contents k = some stored →
      (∀ r ∈ call.rounds s, isExpired r.reading stored = false) ∧
      (s.touch key).popularity.estimate key < (s.touch key).popularity.estimate k) →
    (call.perform s).1 = .done false ∧ (call.perform s).2.contents = s.contents

/-- **Evictions happen only when needed, and only to what is no more popular.** In every state that calls lead to, whatever
is to be stored and whichever way the picks fall: what fits is stored and nothing is lost for it; what is lost is evicted
while the entry does not fit, expired or no more popular than it; and an entry that does not fit among others that are all
live and more popular is refused and changes nothing. -/
theorem evictions_warranted (hs : s.Reachable) (hcall : call.stores? = some (key, entry)) :
    Warranted s call key entry := by
  obtain ⟨limits, hsound⟩ := hs.sound
  obtain ⟨now, readings, picks, lifetime, hperform, hrounds⟩ := perform_of_stores hcall s
  have hunder := insert_storesUnder hsound hperform hrounds
  refine ⟨?_, hunder.others, ?_, ?_, ?_⟩
  · intro hfits
    obtain ⟨hyes, hcontents⟩ := insert_of_fits hsound hfits now readings picks lifetime
    rw [hperform]
    exact ⟨by rw [hyes], _, hcontents⟩
  · intro before r after hsplit
    rw [hrounds] at hsplit
    exact insertRounds_split hsound hsplit
  · intro v hv
    obtain ⟨hstored, hother, hallowed⟩ := hunder.evicted v hv
    refine ⟨hstored, hother, fun hlive => ?_⟩
    have hnot : ¬v.slot.isExpired v.reading = true := (Bool.not_eq_true _).mpr hlive
    exact hallowed.resolve_left hnot
  · intro hfull hpopular
    rw [hrounds] at hpopular
    rw [hperform, insert_of_popular hsound hfull (victims_of_popular hsound hpopular)]
    exact ⟨rfl, rfl⟩

open ForTwo in
/-- a store that is full has room for another version of what it holds -/
theorem evictions_warranted_full :
    crowded.Reachable ∧ (ForTwo.put popular 1).stores? = some (popular, filler 1) ∧
    crowded.budget.objects = crowded.budget.maxObjects ∧ crowded.Fits popular (filler 1) ∧
    Warranted crowded (ForTwo.put popular 1) popular (filler 1) := by
  have hreachable : crowded.Reachable := ⟨_, _, calls, new_holding, run_calls⟩
  have hstored : crowded.contents popular = some (filler 1, some ⟨1⟩) := by
    unfold contents crowded
    rw [slot?_holding words.2.1, getElem?_both]
    rfl
  have hfits : crowded.Fits popular (filler 1) := by
    refine ⟨fun hnone => absurd (hstored.symm.trans hnone) (by simp), ?_⟩
    rw [hstored]
    decide
  exact ⟨hreachable, rfl, rfl, hfits, evictions_warranted hreachable rfl⟩

end EdgeCache.ResponseStore
