/-
Why an entry is refused.

- `outdone_iff`: a round refuses if and only if the neighbour that counts is live and more popular than the newcomer.
- `candidate?_ne_none`: a round finds a neighbour whenever another key is stored. `insertRounds_found`: so no round finds
  nothing, because what finds no room in a store is not alone in it.
- `makeRoom_eq_false_iff`: what makes room gives up if a round refuses, or if every round that it may make has evicted.
- `refusal_grounded`: an entry that the store could hold is refused for one of these two reasons; for the first, only
  where there is no room.
- `Crowd.refused_with_room`: the second reason can leave a store that is empty.
-/
import EdgeCache.Proofs.Store.Census
import EdgeCache.Proofs.Store.Pressure

namespace EdgeCache.Store.Shard

open EdgeCache.Time

variable {s : Shard}

/-- a sample of a shard that has a key other than a given one has such a key -/
theorem Dense.sample_other (h : Dense s) {kept key : Key} {slot : Slot} (hslot : s.slot? key = some slot)
    (hne : key ≠ kept) (position : Nat) : ∃ k sl, (k, sl) ∈ s.sample position ∧ k ≠ kept := by
  have hplace := h.place_lt hslot
  have hsize : sampleSize = 5 := rfl
  obtain ⟨k₀, sl₀, hk₀, hmem₀⟩ := h.mem_sample position (i := 0) (by omega)
  by_cases hfirst : k₀ = kept
  · -- the given key has one place only, and the next one is another place unless there is but one
    have htwo : 1 < s.keys.size := by
      by_contra hone
      have hkey := (h slot.place key).2 (by rw [hslot]; rfl)
      have hzero : (position + 0) % s.keys.size = slot.place := by
        have := Nat.mod_lt (position + 0) (by omega : 0 < s.keys.size)
        omega
      rw [hzero, hkey] at hk₀
      exact hne ((Option.some.inj hk₀).trans hfirst)
    obtain ⟨k₁, sl₁, hk₁, hmem₁⟩ := h.mem_sample position (i := 1) (by omega)
    refine ⟨k₁, sl₁, hmem₁, ?_⟩
    rintro rfl
    have hone := h.inj_around position htwo (by omega) (hk₁.trans (hfirst ▸ hk₀).symm)
    cases hone
  · exact ⟨k₀, sl₀, hmem₀, hfirst⟩

end EdgeCache.Store.Shard

namespace EdgeCache.Store

/-- the neighbour that counts in a round is live and more popular than the newcomer -/
def Round.Outdone (r : Round) (kept : Key) (incoming : Nat) : Prop :=
  ∃ i key slot, r.store.candidate? r.reading r.pick kept = some (i, key, r.store.popularity.estimate key) ∧
    (key, slot) ∈ (r.store.shardAt i).sample (r.pick.position i) ∧ slot.isExpired r.reading = false ∧
    incoming < r.store.popularity.estimate key

end EdgeCache.Store

namespace EdgeCache.ResponseStore

open EdgeCache.Freshness EdgeCache.Store EdgeCache.Time

variable {limits : Limits} {s t : ResponseStore} {kept key : Key} {incoming : Nat} {entry : Entry} {call : Call}
  {now : Instant} {pick : Pick} {readings : Nat → Instant} {picks : Nat → Pick} {lifetime : Option Span}

/-! ## One round -/

theorem outdone_iff {r : Round} :
    (r.store.evict r.reading r.pick kept incoming).1 = .refused ↔ r.Outdone kept incoming := by
  unfold evict Round.Outdone
  cases hc : r.store.candidate? r.reading r.pick kept with
  | none => simp
  | some found =>
    obtain ⟨i, key, n⟩ := found
    obtain ⟨slot, hmem, -, hn⟩ := candidate?_eq_some hc
    have hslot := Shard.slot?_of_mem_sample hmem
    simp only [hslot, Option.any_some, Bool.not_eq_true']
    constructor
    · intro h
      split_ifs at h with hlive
      rw [if_neg (by rw [hlive.1]; decide)] at hn
      subst hn
      exact ⟨i, key, slot, rfl, hmem, hlive.1, hlive.2⟩
    · rintro ⟨i', key', slot', he, hmem', hlive, hless⟩
      cases he
      have hslot' := Shard.slot?_of_mem_sample hmem'
      rw [hslot] at hslot'
      cases hslot'
      rw [if_pos ⟨hlive, hless⟩]

theorem victim?_eq_none {p : Popularity} {best : Option (Key × Nat)} {neighbours : List (Key × Slot)}
    (h : victim? p now kept best neighbours = none) : best = none ∧ ∀ pair ∈ neighbours, pair.1 = kept := by
  induction neighbours generalizing best with
  | nil => exact ⟨h, by simp⟩
  | cons pair rest ih =>
    obtain ⟨k, slot⟩ := pair
    unfold victim? at h
    split_ifs at h with hk hx
    · obtain ⟨hbest, hrest⟩ := ih h
      exact ⟨hbest, List.forall_mem_cons.2 ⟨hk, hrest⟩⟩
    · -- a neighbour that is live is the best so far, or there was a better one
      obtain ⟨hbest, -⟩ := ih h
      split_ifs at hbest with hless
      rw [hbest] at hless
      exact absurd rfl hless

theorem mem_shardCircle {i : Nat} (hi : i < s.shards.size) (start : Nat) : i ∈ s.shardCircle start := by
  have hpos : 0 < s.shards.size := by omega
  refine List.mem_map.2 ⟨(i + (s.shards.size - start % s.shards.size)) % s.shards.size,
    List.mem_range.2 (Nat.mod_lt _ hpos), ?_⟩
  have hturn : start + (i + (s.shards.size - start % s.shards.size)) = i + s.shards.size * (start / s.shards.size + 1) := by
    have hdiv := Nat.div_add_mod start s.shards.size
    have hmod := Nat.mod_lt start hpos
    rw [Nat.mul_add]
    omega
  rw [Nat.add_mod_mod, hturn, Nat.add_mul_mod_self_left, Nat.mod_eq_of_lt hi]

theorem candidate?_ne_none (hs : s.Shaped) {other : Key} {stored : Entry × Option Instant}
    (hstored : s.contents other = some stored) (hne : other ≠ kept) : s.candidate? now pick kept ≠ none := by
  intro hnone
  obtain ⟨slot, hslot, -⟩ := Option.map_eq_some_iff.1 hstored
  obtain ⟨k, sl, hmem, hk⟩ := (hs.dense _).sample_other hslot hne (pick.position (s.shardOf other))
  have hshard := List.findSome?_eq_none_iff.1 hnone (s.shardOf other) (mem_shardCircle (s.shardOf_lt hs.shards_pos other) _)
  exact hk ((victim?_eq_none (Option.map_eq_none_iff.1 hshard)).2 (k, sl) hmem)

/-- what is alone in a store has room for every version that the store could hold -/
theorem fits_of_alone (h : Sound limits s) (hpos : 0 < limits.maxObjects) (hcost : entry.cost ≤ s.budget.maxCost)
    (halone : ∀ k stored, s.contents k = some stored → k = key) : s.Fits key entry := by
  have hlisted : s.Listed {key} := fun k stored hk => Finset.mem_singleton.2 (halone k stored hk)
  refine ⟨?_, ?_⟩
  · intro hnone
    have hcount := slotCount_lt_card h.shaped hlisted (Finset.mem_singleton_self key) hnone
    have hbooked := h.booked.objects_eq
    have hmax := h.maxObjects
    rw [Finset.card_singleton] at hcount
    omega
  · have hsum := slotCost_eq_sum h.shaped hlisted
    have hbooked := h.booked.cost_eq
    rw [Finset.sum_singleton] at hsum
    omega

/-- a round finds something if there is no room for what the store could hold -/
theorem evict_ne_nothing (h : Sound limits s) (hpos : 0 < limits.maxObjects) (hcost : entry.cost ≤ s.budget.maxCost)
    (hfull : ¬s.Fits key entry) : (s.evict now pick key incoming).1 ≠ .nothing := by
  obtain ⟨other, stored, hstored, hne⟩ : ∃ k stored, s.contents k = some stored ∧ k ≠ key := by
    by_contra hnone
    push Not at hnone
    exact hfull (fits_of_alone h hpos hcost hnone)
  unfold evict
  cases hc : s.candidate? now pick key with
  | none => exact absurd hc (candidate?_ne_none h.shaped hstored hne)
  | some found =>
    simp only
    split_ifs <;> simp

/-! ## All rounds -/

/-- making room ends where a round is outdone, with what that round found -/
theorem makeRoom_of_outdone {objects cost left idle : Nat} {r : Round}
    (hr : r ∈ s.rounds readings picks key objects cost incoming left idle) (hout : r.Outdone key incoming) :
    s.makeRoom readings picks key objects cost incoming left idle = (false, r.store) := by
  induction left generalizing s idle with
  | zero => cases hr
  | succ left ih =>
    have hrefuses := outdone_iff.2 hout
    rcases makeRoom_cases readings picks key objects cost incoming left idle s with ⟨b, -, -, hrounds⟩ |
      ⟨b, e, t, -, he, ⟨hne, hm, hrounds⟩ | ⟨hne, idle', hm, hrounds⟩⟩
    · rw [hrounds] at hr
      cases hr
    · rw [hrounds] at hr
      obtain rfl := List.mem_singleton.1 hr
      rw [hm, (evict_of_ne he hne).1]
    · rw [hrounds] at hr
      rcases List.mem_cons.1 hr with rfl | hrest
      · rw [he] at hrefuses
        exact absurd hrefuses hne
      · rw [hm]
        exact ih hrest

/-- **Making room fails for one of two reasons**, if no round finds nothing: a round is outdone, or each round that there
may be has evicted. -/
theorem makeRoom_eq_false_iff {objects cost left idle : Nat}
    (hfound : ∀ r ∈ s.rounds readings picks key objects cost incoming left idle,
      (r.store.evict r.reading r.pick key incoming).1 ≠ .nothing) :
    (s.makeRoom readings picks key objects cost incoming left idle).1 = false ↔
      (∃ r ∈ s.rounds readings picks key objects cost incoming left idle, r.Outdone key incoming) ∨
      (Store.victims key incoming (s.rounds readings picks key objects cost incoming left idle)).length = left := by
  induction left generalizing s idle with
  | zero => simp [makeRoom, rounds, Store.victims]
  | succ left ih =>
    rcases makeRoom_cases readings picks key objects cost incoming left idle s with ⟨b, -, hm, hrounds⟩ |
      ⟨b, e, t, -, he, ⟨hne, hm, hrounds⟩ | ⟨hne, idle', hm, hrounds⟩⟩
    · rw [hm, hrounds]
      simp [Store.victims]
    · rw [hrounds] at hfound
      have hsome := hfound _ List.mem_cons_self
      rw [he] at hsome
      have hout : Round.Outdone ⟨{ s with budget := b }, readings left, picks left⟩ key incoming := by
        rw [← outdone_iff, he]
        cases e with
        | evicted => exact absurd rfl hne
        | refused => rfl
        | nothing => exact absurd rfl hsome
      rw [hm, hrounds]
      simp only [true_iff]
      exact .inl ⟨_, List.mem_cons_self, hout⟩
    · rw [hrounds] at hfound
      have hsome := hfound _ List.mem_cons_self
      rw [he] at hsome
      obtain rfl : e = .evicted := by
        cases e with
        | evicted => rfl
        | refused => exact absurd rfl hne
        | nothing => exact absurd rfl hsome
      obtain ⟨i, k, slot, -, -, -, hv, -⟩ := evict_evicted he
      have hnot : ¬Round.Outdone ⟨{ s with budget := b }, readings left, picks left⟩ key incoming := by
        rw [← outdone_iff, he]
        exact hne
      rw [hm, hrounds, ih fun r hr => hfound r (List.mem_cons_of_mem _ hr), victims_cons_of_some hv, List.length_cons,
        Nat.add_right_cancel_iff]
      simp only [List.mem_cons, exists_eq_or_imp, hnot, false_or]

/-! ## Storing an entry -/

theorem insertRounds_found (h : Sound limits s) (hpos : 0 < limits.maxObjects) (hcost : entry.cost ≤ s.budget.maxCost)
    {r : Round} (hr : r ∈ s.insertRounds now readings picks key entry lifetime) :
    (r.store.evict r.reading r.pick key incoming).1 ≠ .nothing := by
  obtain ⟨before, after, hsplit⟩ := List.append_of_mem hr
  obtain ⟨hc, hfull⟩ := insertRounds_split h hsplit
  have htouch := h.touch key
  have hsound : Sound limits r.store := htouch.of_frame (hc.shaped htouch.shaped) (hc.booked htouch.booked) hc.frame
  exact evict_ne_nothing hsound hpos (hc.frame.maxCost ▸ hcost) hfull

/-- an entry that the store could hold is refused if and only if a round is outdone, or all have evicted -/
theorem insert_eq_false_iff (h : Sound limits s) (hpos : 0 < limits.maxObjects) (hcost : entry.cost ≤ s.budget.maxCost) :
    (s.insert now picks key entry lifetime readings).1 = false ↔
      (∃ r ∈ s.insertRounds now readings picks key entry lifetime,
        r.Outdone key ((s.touch key).popularity.estimate key)) ∨
      (Store.victims key ((s.touch key).popularity.estimate key)
        (s.insertRounds now readings picks key entry lifetime)).length = maxEvictions := by
  obtain ⟨hs, hb⟩ : (s.touch key).Shaped ∧ (s.touch key).Booked 0 0 := ⟨(h.touch key).shaped, (h.touch key).booked⟩
  have hfound : ∀ r ∈ s.insertRounds now readings picks key entry lifetime,
      (r.store.evict r.reading r.pick key ((s.touch key).popularity.estimate key)).1 ≠ .nothing :=
    fun _ hr => insertRounds_found h hpos hcost hr
  rcases insert_cases h.shaped h.booked now readings picks key entry lifetime with ⟨hlarge, -⟩ | ⟨-, hi, hr⟩ |
    ⟨slot, hslot, -, hi, hr⟩ | ⟨t, -, hi, hr, -⟩
  · omega
  · rw [hr] at hfound
    rw [hi, hr, introduce_fst]
    exact makeRoom_eq_false_iff hfound
  · rw [hr] at hfound
    rw [hi, hr, grow_fst hs hb hslot]
    exact makeRoom_eq_false_iff hfound
  · rw [hi, hr]
    simp [Store.victims, maxEvictions]

/-- an entry that is outdone leaves what that round found -/
theorem insert_of_outdone (h : Sound limits s) {r : Round}
    (hr : r ∈ s.insertRounds now readings picks key entry lifetime)
    (hout : r.Outdone key ((s.touch key).popularity.estimate key)) :
    s.insert now picks key entry lifetime readings = (false, r.store) := by
  rcases insert_cases h.shaped h.booked now readings picks key entry lifetime with ⟨-, -, hrounds⟩ | ⟨-, hi, hrounds⟩ |
    ⟨slot, -, -, hi, hrounds⟩ | ⟨t, -, -, hrounds, -⟩
  · rw [hrounds] at hr
    cases hr
  · rw [hrounds] at hr
    have hroom : (s.touch key).reserve readings picks key 1 entry.cost = (false, r.store) := makeRoom_of_outdone hr hout
    rw [hi]
    simp only [introduce, hroom]
  · rw [hrounds] at hr
    have hroom : (s.touch key).reserve readings picks key 0 (entry.cost - slot.entry.cost) = (false, r.store) :=
      makeRoom_of_outdone hr hout
    rw [hi]
    simp only [grow, hroom]
  · rw [hrounds] at hr
    cases hr

/-! ## Where everything is expired -/

theorem reading_of_mem_rounds {objects cost left idle : Nat} {r : Round}
    (hr : r ∈ s.rounds readings picks key objects cost incoming left idle) : ∃ n, r.reading = readings n := by
  induction left generalizing s idle with
  | zero => cases hr
  | succ left ih =>
    rcases makeRoom_cases readings picks key objects cost incoming left idle s with ⟨b, -, -, hrounds⟩ |
      ⟨b, e, t, -, -, ⟨-, -, hrounds⟩ | ⟨-, idle', -, hrounds⟩⟩
    · rw [hrounds] at hr
      cases hr
    · rw [hrounds] at hr
      obtain rfl := List.mem_singleton.1 hr
      exact ⟨left, rfl⟩
    · rw [hrounds] at hr
      rcases List.mem_cons.1 hr with rfl | hrest
      · exact ⟨left, rfl⟩
      · exact ih hrest

theorem reading_of_mem_insertRounds {r : Round} (hr : r ∈ s.insertRounds now readings picks key entry lifetime) :
    ∃ n, r.reading = readings n := by
  unfold insertRounds at hr
  simp only at hr
  split_ifs at hr
  · cases hr
  · split at hr
    · cases hr
    · exact reading_of_mem_rounds hr
    · exact reading_of_mem_rounds hr

/-- where all that is stored is expired, no round is outdone -/
theorem not_outdone_of_expired (h : Sound limits s)
    (hexpired : ∀ n k stored, s.contents k = some stored → isExpired (readings n) stored = true) {r : Round}
    (hr : r ∈ s.insertRounds now readings picks key entry lifetime) : ¬r.Outdone key incoming := by
  rintro ⟨i, k, slot, -, hmem, hlive, -⟩
  obtain ⟨n, hreading⟩ := reading_of_mem_insertRounds hr
  obtain ⟨before, after, hsplit⟩ := List.append_of_mem hr
  obtain ⟨hc, -⟩ := insertRounds_split h hsplit
  have hslot := Shard.slot?_of_mem_sample hmem
  obtain rfl := (hc.shaped (h.touch key).shaped).home i k slot hslot
  have hstored := contents_of_slot? hslot
  rw [hc.contents (h.touch key).shaped] at hstored
  split_ifs at hstored
  have hover : slot.isExpired (readings n) = true := hexpired n k slot.content hstored
  rw [← hreading, hlive] at hover
  cases hover

/-! ## Reasons -/

theorem Reachable.sound_pos (hs : s.Reachable) : ∃ limits, Sound limits s ∧ 0 < limits.maxObjects := by
  obtain ⟨limits, fresh, calls, hnew, rfl⟩ := hs
  refine ⟨limits, run_sound (sound_new hnew) calls, ?_⟩
  unfold new at hnew
  split_ifs at hnew with hzero
  exact Nat.pos_of_ne_zero hzero

/-- why a call that is to store an entry is answered no: the popularity of the newcomer counts this call -/
structure Grounded (s : ResponseStore) (call : Call) (key : Key) (entry : Entry) : Prop where
  /-- it is if and only if one of its rounds is outdone, or as many entries as may be are evicted for it -/
  refused_iff : (call.perform s).1 = .done false ↔
    (∃ r ∈ call.rounds s, r.Outdone key ((s.touch key).popularity.estimate key)) ∨
    (call.victims s key).length = maxEvictions
  /-- otherwise it is answered yes -/
  answered : ∃ yes, (call.perform s).1 = .done yes
  /-- where a round is outdone, the entry does not fit in what is left -/
  short : (∃ r ∈ call.rounds s, r.Outdone key ((s.touch key).popularity.estimate key)) →
    ¬(call.perform s).2.Fits key entry

/-- **A refusal has a reason.** In every state that calls lead to, an entry that the store could hold is refused for one of
two reasons only: in some round the neighbour that counted was live and more popular, and then there is no room for the
entry, or the evictions for one entry are used up. -/
theorem refusal_grounded (hs : s.Reachable) (hcall : call.stores? = some (key, entry))
    (hcost : entry.cost ≤ s.budget.maxCost) : Grounded s call key entry := by
  obtain ⟨limits, hsound, hpos⟩ := hs.sound_pos
  obtain ⟨now, readings, picks, lifetime, hperform, hrounds⟩ := perform_of_stores hcall s
  refine ⟨?_, ?_, ?_⟩
  · unfold Call.victims
    rw [hperform, hrounds, Reply.done.injEq]
    exact insert_eq_false_iff hsound hpos hcost
  · rw [hperform]
    exact ⟨_, rfl⟩
  · rintro ⟨r, hr, hout⟩
    rw [hrounds] at hr
    rw [hperform, insert_of_outdone hsound hr hout]
    obtain ⟨before, after, hsplit⟩ := List.append_of_mem hr
    exact (insertRounds_split hsound hsplit).2

/-! ## A refusal that leaves room

The budget allows a total cost of 1024, and 1024 expired entries that cost one each use it up. Room for a newcomer that
costs 1024 needs all of them to go. They all go, one in each round that there may be, and after the last round the budget is
not asked again. -/

namespace Crowd

open ForTwo (filler firstPick cost_filler)

def narrow : Limits := ⟨2000, 1024, none⟩

def keyAt (n : Nat) : Key := ⟨UInt8.ofNat (n % 256) :: UInt8.ofNat (n / 256) :: List.replicate 30 0⟩

def keys (n : Nat) : Finset Key := (Finset.range n).image keyAt

/-- store an entry under each of them -/
def calls (n : Nat) : List Call := (List.range n).map fun i => ForTwo.put (keyAt i) 1

def stored : Entry × Option Instant := (filler 1, some ⟨1⟩)

def newcomer : Key := keyAt 1024

def late : Call := .setFor ⟨1⟩ (fun _ => ⟨1⟩) firstPick newcomer (filler 1024) ⟨1⟩

theorem keyAt_inj {m n : Nat} (hm : m < 65536) (hn : n < 65536) (h : keyAt m = keyAt n) : m = n := by
  injection h with hoctets
  obtain ⟨hlow, hrest⟩ := List.cons.inj hoctets
  have hlow' := congrArg UInt8.toNat hlow
  have hhigh' := congrArg UInt8.toNat (List.cons.inj hrest).1
  simp only [UInt8.toNat_ofNat'] at hlow' hhigh'
  omega

theorem card_keys {n : Nat} (hn : n ≤ 65536) : (keys n).card = n := by
  have hinj : Set.InjOn keyAt (Finset.range n) := by
    intro i hi j hj
    have hi' := Finset.mem_range.1 hi
    have hj' := Finset.mem_range.1 hj
    exact keyAt_inj (by omega) (by omega)
  rw [keys, Finset.card_image_of_injOn hinj, Finset.card_range]

theorem mem_keys_succ {n : Nat} {key : Key} : key ∈ keys (n + 1) ↔ key = keyAt n ∨ key ∈ keys n := by
  unfold keys
  rw [Finset.range_add_one, Finset.image_insert, Finset.mem_insert]

theorem newcomer_notMem : newcomer ∉ keys 1024 := by
  intro hmem
  obtain ⟨n, hn, hkey⟩ := Finset.mem_image.1 hmem
  have hlt := Finset.mem_range.1 hn
  have hsame := keyAt_inj (by omega) (by decide) hkey
  omega

/-- what is stored after the first calls -/
def Holds (s : ResponseStore) (n : Nat) : Prop := ∀ key, s.contents key = if key ∈ keys n then some stored else none

theorem Holds.listed {n : Nat} (h : Holds s n) : s.Listed (keys n) := by
  intro key x hx
  by_contra hnot
  rw [h key, if_neg hnot] at hx
  cases hx

theorem Holds.eq_stored {n : Nat} (h : Holds s n) {key : Key} {x : Entry × Option Instant} (hx : s.contents key = some x) :
    x = stored := by
  have hkey := h.listed key x hx
  rw [h key, if_pos hkey] at hx
  exact (Option.some.inj hx).symm

/-- one more of them is stored -/
theorem Holds.put {n : Nat} (h : Holds s n) (hs : Sound narrow s) (hn : n < 1024) :
    Holds ((ForTwo.put (keyAt n) 1).perform s).2 (n + 1) := by
  have hlisted : s.Listed (keys (n + 1)) := fun key x hx => mem_keys_succ.2 (.inr (h.listed key x hx))
  have hcard : (keys (n + 1)).card = n + 1 := card_keys (by omega)
  have hbound : ∀ key x, s.contents key = some x → x.1.cost ≤ 1 := by
    intro key x hx
    rw [h.eq_stored hx]
    exact (cost_filler 1).le
  have hfits : s.Fits (keyAt n) (filler 1) := by
    refine fits_of_listed hs hlisted ?_ hbound ?_ (mem_keys_succ.2 (.inl rfl)) (cost_filler 1).le
    · show (keys (n + 1)).card ≤ 2000
      omega
    · show ∑ _ ∈ keys (n + 1), 1 ≤ 1024
      rw [← Finset.card_eq_sum_ones]
      omega
  have hwritten := (insert_of_fits hs hfits ⟨0⟩ (fun _ => ⟨0⟩) firstPick (some ⟨1⟩)).2
  intro key
  show (s.insert ⟨0⟩ firstPick (keyAt n) (filler 1) (some ⟨1⟩) fun _ => ⟨0⟩).2.contents key = _
  rw [hwritten, Function.update_apply, h key]
  by_cases hkey : key = keyAt n
  · rw [if_pos hkey, if_pos (mem_keys_succ.2 (.inl hkey))]
    rfl
  · simp only [mem_keys_succ, hkey, false_or, if_false]

theorem holds_run {fresh : ResponseStore} (hnew : new narrow = .ok fresh) {n : Nat} (hn : n ≤ 1024) :
    Holds (fresh.run (calls n)) n := by
  induction n with
  | zero => exact congrFun (contents_new hnew)
  | succ n ih =>
    have hlast : fresh.run (calls (n + 1)) = ((ForTwo.put (keyAt n) 1).perform (fresh.run (calls n))).2 := by
      unfold calls run
      rw [List.range_succ, List.map_append, List.foldl_append]
      rfl
    rw [hlast]
    exact (ih (by omega)).put (run_sound (sound_new hnew) _) (by omega)

theorem Holds.touch {n : Nat} (h : Holds s n) (key : Key) : Holds (s.touch key) n := h

theorem Holds.sum_eq {n : Nat} (h : Holds s n) (hn : n ≤ 65536) (v : Entry × Option Instant → Nat) :
    ∑ key ∈ keys n, ((s.contents key).map v).getD 0 = n * v stored := by
  rw [Finset.sum_const_nat (m := v stored) ?_, card_keys hn]
  intro key hkey
  rw [h key, if_pos hkey]
  rfl

theorem Holds.budget (h : Holds s 1024) (hs : Sound narrow s) : s.budget.objects = 1024 ∧ s.budget.cost = 1024 := by
  have hcount := slotCount_eq_sum hs.shaped h.listed
  have hcost := slotCost_eq_sum hs.shaped h.listed
  rw [h.sum_eq (by decide)] at hcount hcost
  have hone : stored.1.cost = 1 := cost_filler 1
  have hobjects := hs.booked.objects_eq
  have hbooked := hs.booked.cost_eq
  exact ⟨by omega, by omega⟩

/-- room for the newcomer is what all entries together give back -/
theorem fits_iff (h : Holds s 1024) (hs : Sound narrow s) {victims : List Victim}
    (hc : Clears newcomer incoming s victims t) : t.Fits newcomer (filler 1024) ↔ victims.length = 1024 := by
  have hone : ∀ v ∈ victims, v.slot.entry.cost = 1 := by
    intro v hv
    have hstored := h.eq_stored (hc.victim hs.shaped v hv).1
    exact (congrArg (·.1.cost) hstored).trans (cost_filler 1)
  have hfreed : freed victims = victims.length := by
    unfold freed
    rw [List.map_congr_left hone, List.map_const', List.sum_replicate_nat, Nat.mul_one]
  have hnone : t.contents newcomer = none := (hc.contents_kept hs.shaped).trans ((h newcomer).trans (if_neg newcomer_notMem))
  obtain ⟨hobjects, hcost⟩ := h.budget hs
  obtain ⟨hobjects', hcost'⟩ := hc.budget
  have hbooked := (hc.booked hs.booked).cost_eq
  have hmaxObjects : t.budget.maxObjects = 2000 := hc.frame.maxObjects.trans hs.maxObjects
  have hmaxCost : t.budget.maxCost = 1024 := hc.frame.maxCost.trans hs.maxCost
  have hnewcomer : (filler 1024).cost = 1024 := cost_filler 1024
  constructor
  · intro hfits
    have hroom := hfits.cost
    rw [hnone] at hroom
    simp only [Option.map_none, Option.getD_none] at hroom
    omega
  · intro hall
    refine ⟨fun _ => by omega, ?_⟩
    rw [hnone]
    simp only [Option.map_none, Option.getD_none]
    omega

theorem perform_late (s : ResponseStore) : late.perform s =
    (.done (s.insert ⟨1⟩ firstPick newcomer (filler 1024) (some ⟨1⟩) fun _ => ⟨1⟩).1,
      (s.insert ⟨1⟩ firstPick newcomer (filler 1024) (some ⟨1⟩) fun _ => ⟨1⟩).2) := rfl

theorem rounds_late (s : ResponseStore) :
    late.rounds s = s.insertRounds ⟨1⟩ (fun _ => ⟨1⟩) firstPick newcomer (filler 1024) (some ⟨1⟩) := rfl

/-- all that is stored is expired when the newcomer comes -/
theorem not_outdone_late (h : Holds s 1024) (hs : Sound narrow s) :
    ¬∃ r ∈ late.rounds s, r.Outdone newcomer ((s.touch newcomer).popularity.estimate newcomer) := by
  rintro ⟨r, hr, hout⟩
  rw [rounds_late] at hr
  refine not_outdone_of_expired hs (fun _ k x hx => ?_) hr hout
  rw [h.eq_stored hx]
  rfl

/-- the newcomer is refused, and it has room -/
theorem refused_with_room : ∃ s, s.Reachable ∧ late.stores? = some (newcomer, filler 1024) ∧
    (filler 1024).cost ≤ s.budget.maxCost ∧ Grounded s late newcomer (filler 1024) ∧
    (late.perform s).1 = .done false ∧ (late.perform s).2.Fits newcomer (filler 1024) := by
  obtain ⟨fresh, hnew⟩ : ∃ fresh, new narrow = .ok fresh := ⟨_, new_eq narrow (by decide) (by decide)⟩
  have hs : Sound narrow (fresh.run (calls 1024)) := run_sound (sound_new hnew) _
  have hholds := holds_run hnew (Nat.le_refl 1024)
  have hreachable : (fresh.run (calls 1024)).Reachable := ⟨narrow, fresh, _, hnew, rfl⟩
  generalize fresh.run (calls 1024) = s at hs hholds hreachable
  have hcost : (filler 1024).cost ≤ s.budget.maxCost := by
    rw [cost_filler, hs.maxCost]
    exact Nat.le_refl 1024
  have hgrounded := refusal_grounded hreachable (rfl : late.stores? = some (newcomer, filler 1024)) hcost
  have hfull : (late.perform s).1 = .done false ↔ (late.victims s newcomer).length = 1024 := by
    rw [hgrounded.refused_iff, or_iff_right (not_outdone_late hholds hs), maxEvictions]
  obtain ⟨cleared, hc, hres⟩ := insert_outcome hs.shaped hs.booked ⟨1⟩ (fun _ => ⟨1⟩) firstPick newcomer (filler 1024)
    (some ⟨1⟩)
  have hroom := fits_iff (hholds.touch newcomer) (hs.touch newcomer) hc
  rw [← rounds_late] at hroom
  have hrefused : (late.perform s).1 = .done false := by
    -- if it were admitted, it had room, so that all were evicted
    obtain ⟨yes, hyes⟩ := hgrounded.answered
    cases yes with
    | false => exact hyes
    | true =>
      rw [perform_late, Reply.done.injEq] at hyes
      obtain ⟨cleared', hc', hfits⟩ := insert_room hs hyes
      exact hfull.2 ((fits_iff (hholds.touch newcomer) (hs.touch newcomer) hc').1 hfits)
  refine ⟨s, hreachable, rfl, hcost, hgrounded, hrefused, ?_⟩
  have hall := hroom.2 (hfull.1 hrefused)
  rw [perform_late] at hrefused ⊢
  rcases hres with hres | ⟨t, hres, -, -⟩
  · rw [hres]
    exact hall
  · rw [hres] at hrefused
    cases hrefused

end Crowd

end EdgeCache.ResponseStore
