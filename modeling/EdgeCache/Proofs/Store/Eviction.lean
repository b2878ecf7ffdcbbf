/-
What evictions do: who can be the victim of a round, and what a whole reservation does to the store.

- `evict_evicted`: a round takes out one stored entry other than the protected one, which is expired or no more popular
  than the newcomer. `evict_of_ne`: every other round changes nothing.
- `Clears`: one such eviction after another; what it does to the contents, the shape and the counters.
- `makeRoom_cases`: the ways of one round of a reservation.
- `makeRoom_clears`: a reservation clears the victims of its rounds, and then it has its share or gives up.
- `insert_cases`: the ways that storing an entry takes. `insert_outcome`: what it comes to on each of them.
- `makeRoom_of_fits`, `makeRoom_of_evicted`, `makeRoom_of_refused`: single rounds, for a reservation that is followed round
  by round.
-/
import EdgeCache.Proofs.Store.Booking

namespace EdgeCache.ResponseStore

open EdgeCache.Store EdgeCache.Time

/-! ## Victims -/

theorem victim?_eq_some {p : Popularity} {now : Instant} {kept : Key} {neighbours : List (Key × Slot)}
    {best : Option (Key × Nat)} {key : Key} {n : Nat} (h : victim? p now kept best neighbours = some (key, n)) :
    best = some (key, n) ∨ ∃ slot, (key, slot) ∈ neighbours ∧ key ≠ kept ∧
      n = if slot.isExpired now then 0 else p.estimate key := by
  induction neighbours generalizing best with
  | nil => exact Or.inl h
  | cons pair rest ih =>
    obtain ⟨k, slot⟩ := pair
    have hrest : (∃ slot, (key, slot) ∈ rest ∧ key ≠ kept ∧ n = if slot.isExpired now then 0 else p.estimate key) →
        ∃ sl, (key, sl) ∈ (k, slot) :: rest ∧ key ≠ kept ∧ n = if sl.isExpired now then 0 else p.estimate key :=
      fun ⟨sl, hm, he⟩ => ⟨sl, List.mem_cons_of_mem _ hm, he⟩
    unfold victim? at h
    split_ifs at h with hk hx
    · exact (ih h).imp id hrest
    · cases h
      exact Or.inr ⟨slot, List.mem_cons_self, hk, by simp [hx]⟩
    · rcases ih h with hb | hb
      · split_ifs at hb
        · cases hb
          exact Or.inr ⟨slot, List.mem_cons_self, hk, by simp [hx]⟩
        · exact Or.inl hb
      · exact Or.inr (hrest hb)

theorem candidate?_eq_some {s : ResponseStore} {now : Instant} {pick : Pick} {kept : Key} {i : Nat} {key : Key} {n : Nat}
    (h : s.candidate? now pick kept = some (i, key, n)) :
    ∃ slot, (key, slot) ∈ (s.shardAt i).sample (pick.position i) ∧ key ≠ kept ∧
      n = if slot.isExpired now then 0 else s.popularity.estimate key := by
  obtain ⟨j, -, hj⟩ := List.exists_of_findSome?_eq_some h
  obtain ⟨⟨k, m⟩, hv, he⟩ := Option.map_eq_some_iff.1 hj
  cases he
  rcases victim?_eq_some hv with hb | ⟨slot, hm, hk, hn⟩
  · cases hb
  · exact ⟨slot, hm, hk, hn⟩

/-- a round that evicts takes out an entry other than the protected one, expired or no more popular than the newcomer -/
theorem evict_evicted {s s' : ResponseStore} {now : Instant} {pick : Pick} {kept : Key} {incoming : Nat}
    (h : s.evict now pick kept incoming = (.evicted, s')) :
    ∃ i key slot, (s.shardAt i).slot? key = some slot ∧ key ≠ kept ∧
      (slot.isExpired now = true ∨ s.popularity.estimate key ≤ incoming) ∧
      Round.victim? ⟨s, now, pick⟩ kept incoming = some ⟨key, slot, now⟩ ∧ s' = (s.drop i key).2 := by
  have hfirst : (s.evict now pick kept incoming).1 = .evicted := by rw [h]
  unfold evict at h
  split at h
  · cases h
  · rename_i i key n hc
    obtain ⟨slot, hmem, hk, hn⟩ := candidate?_eq_some hc
    have hs := Shard.slot?_of_mem_sample hmem
    split_ifs at h with hlive
    · cases h
    · cases h
      refine ⟨i, key, slot, hs, hk, ?_, ?_, rfl⟩
      · by_cases hx : slot.isExpired now = true
        · exact Or.inl hx
        · right
          simp only [hs, Option.any_some, hx, Bool.not_false, true_and] at hlive
          rw [if_neg hx] at hn
          omega
      · simp [Round.victim?, hfirst, hc, hs]

theorem evict_of_ne {s s' : ResponseStore} {now : Instant} {pick : Pick} {kept : Key} {incoming : Nat} {e : Eviction}
    (h : s.evict now pick kept incoming = (e, s')) (he : e ≠ .evicted) :
    s' = s ∧ Round.victim? ⟨s, now, pick⟩ kept incoming = none := by
  have hfirst : (s.evict now pick kept incoming).1 = e := by rw [h]
  have hnone : Round.victim? ⟨s, now, pick⟩ kept incoming = none := by
    unfold Round.victim?
    simp only [hfirst]
  refine ⟨?_, hnone⟩
  unfold evict at h
  split at h
  · cases h; rfl
  · split_ifs at h
    · cases h; rfl
    · cases h; exact absurd rfl he

theorem size_evict (s : ResponseStore) (now : Instant) (pick : Pick) (kept : Key) (incoming : Nat) :
    (s.evict now pick kept incoming).2.shards.size = s.shards.size := by
  cases h : s.evict now pick kept incoming with
  | mk e t =>
    by_cases he : e = .evicted
    · subst he
      obtain ⟨i, key, -, -, -, -, -, rfl⟩ := evict_evicted h
      exact size_drop s i key
    · rw [(evict_of_ne h he).1]

/-! ## One eviction after another -/

/-- `t` is `s` after some evictions for an entry of key `kept` and popularity `incoming`, with the victims in order -/
inductive Clears (kept : Key) (incoming : Nat) : ResponseStore → List Victim → ResponseStore → Prop where
  | refl (s : ResponseStore) : Clears kept incoming s [] s
  | evict {s t : ResponseStore} {i : Nat} {v : Victim} {victims : List Victim}
      (stored : (s.shardAt i).slot? v.key = some v.slot) (other : v.key ≠ kept)
      (allowed : v.slot.isExpired v.reading = true ∨ s.popularity.estimate v.key ≤ incoming)
      (rest : Clears kept incoming (s.drop i v.key).2 victims t) :
      Clears kept incoming s (v :: victims) t

variable {kept : Key} {incoming : Nat} {s t : ResponseStore} {victims : List Victim}

theorem Clears.shaped (h : Clears kept incoming s victims t) (hs : s.Shaped) : t.Shaped := by
  induction h with
  | refl s => exact hs
  | evict _ _ _ _ ih => exact ih (hs.drop _ _)

theorem Clears.booked (h : Clears kept incoming s victims t) (hb : s.Booked 0 0) : t.Booked 0 0 := by
  induction h with
  | refl s => exact hb
  | evict _ _ _ _ ih => exact ih (hb.drop (Int.le_refl 0) (Int.le_refl 0) _ _)

/-- what evictions leave alone besides the entries -/
structure SameFrame (s t : ResponseStore) : Prop where
  popularity : t.popularity = s.popularity
  maxObjects : t.budget.maxObjects = s.budget.maxObjects
  maxCost : t.budget.maxCost = s.budget.maxCost
  defaultLifetime : t.defaultLifetime = s.defaultLifetime
  size : t.shards.size = s.shards.size

theorem SameFrame.refl (s : ResponseStore) : SameFrame s s := ⟨rfl, rfl, rfl, rfl, rfl⟩

theorem SameFrame.trans {s t u : ResponseStore} (h1 : SameFrame s t) (h2 : SameFrame t u) : SameFrame s u :=
  ⟨h2.popularity.trans h1.popularity, h2.maxObjects.trans h1.maxObjects, h2.maxCost.trans h1.maxCost,
    h2.defaultLifetime.trans h1.defaultLifetime, h2.size.trans h1.size⟩

theorem sameFrame_drop (s : ResponseStore) (i : Nat) (key : Key) : SameFrame s (s.drop i key).2 := by
  cases hs : (s.shardAt i).slot? key with
  | none => rw [drop_eq_false hs]; exact SameFrame.refl s
  | some slot =>
    obtain ⟨shard, -, hd⟩ := drop_eq_true hs
    rw [hd]
    exact ⟨rfl, rfl, rfl, rfl, size_setShard s i shard⟩

theorem Clears.frame (h : Clears kept incoming s victims t) : SameFrame s t := by
  induction h with
  | refl s => exact SameFrame.refl s
  | evict _ _ _ _ ih => exact (sameFrame_drop _ _ _).trans ih

/-- the victims are gone, and nothing else is -/
theorem Clears.contents (h : Clears kept incoming s victims t) (hs : s.Shaped) (key : Key) :
    t.contents key = if key ∈ victims.map (·.key) then none else s.contents key := by
  induction h with
  | refl s => simp
  | @evict s t i v victims stored other allowed rest ih =>
    rw [ih (hs.drop i v.key), contents_drop (hs.home i v.key v.slot stored), Function.update_apply]
    simp only [List.map_cons, List.mem_cons]
    by_cases hk : key = v.key
    · subst hk; simp
    · simp only [hk, if_false, false_or]

/-- a victim was stored, under another key than the protected one, and it was expired at the reading of its round or no
more popular than the newcomer -/
theorem Clears.victim (h : Clears kept incoming s victims t) (hs : s.Shaped) :
    ∀ v ∈ victims, s.contents v.key = some v.slot.content ∧ v.key ≠ kept ∧
      (v.slot.isExpired v.reading = true ∨ s.popularity.estimate v.key ≤ incoming) := by
  induction h with
  | refl s => simp
  | @evict s t i w victims stored other allowed rest ih =>
    have hhome := hs.home i w.key w.slot stored
    intro v hv
    rcases List.mem_cons.1 hv with rfl | hv
    · refine ⟨?_, other, allowed⟩
      subst hhome
      show ((s.shardAt (s.shardOf v.key)).slot? v.key).map _ = _
      rw [stored]; rfl
    · obtain ⟨h1, h2, h3⟩ := ih (hs.drop i w.key) v hv
      rw [contents_drop hhome, Function.update_apply] at h1
      rw [(sameFrame_drop s i w.key).popularity] at h3
      split_ifs at h1
      exact ⟨h1, h2, h3⟩

theorem Clears.contents_kept (h : Clears kept incoming s victims t) (hs : s.Shaped) :
    t.contents kept = s.contents kept := by
  rw [h.contents hs, if_neg]
  intro hm
  obtain ⟨v, hv, hk⟩ := List.mem_map.1 hm
  exact (h.victim hs v hv).2.1 hk

def freed (victims : List Victim) : Nat := (victims.map (·.slot.entry.cost)).sum

/-- the budget has the victims back -/
theorem Clears.budget (h : Clears kept incoming s victims t) :
    t.budget.objects = s.budget.objects - victims.length ∧ t.budget.cost = s.budget.cost - freed victims := by
  induction h with
  | refl s => simp [freed]
  | @evict s t i v victims stored other allowed rest ih =>
    obtain ⟨shard, -, hd⟩ := drop_eq_true stored
    rw [hd] at ih
    obtain ⟨hobjects, hcost⟩ := ih
    rw [hobjects, hcost]
    simp only [Budget.release, Budget.releaseObjects, Budget.releaseCost, freed, List.map_cons, List.sum_cons,
      List.length_cons]
    constructor
    · omega
    · omega

/-! ## A whole reservation -/

theorem victims_cons_of_some {r : Round} {v : Victim} (h : r.victim? kept incoming = some v) (rounds : List Round) :
    Store.victims kept incoming (r :: rounds) = v :: Store.victims kept incoming rounds := List.filterMap_cons_some h

theorem victims_cons_of_none {r : Round} (h : r.victim? kept incoming = none) (rounds : List Round) :
    Store.victims kept incoming (r :: rounds) = Store.victims kept incoming rounds := List.filterMap_cons_none h

/-- the ways of one more round: there is room; or it is the last round, and evicted nothing; or another one follows -/
theorem makeRoom_cases (readings : Nat → Instant) (picks : Nat → Pick) (key : Key) (objects cost incoming : Nat)
    (left idle : Nat) (s : ResponseStore) :
    (∃ b, s.budget.reserve objects cost = (true, b) ∧
      s.makeRoom readings picks key objects cost incoming (left + 1) idle = (true, { s with budget := b }) ∧
      s.rounds readings picks key objects cost incoming (left + 1) idle = []) ∨
    ∃ b e t, s.budget.reserve objects cost = (false, b) ∧
      { s with budget := b }.evict (readings left) (picks left) key incoming = (e, t) ∧
      (e ≠ .evicted ∧ s.makeRoom readings picks key objects cost incoming (left + 1) idle = (false, t) ∧
        s.rounds readings picks key objects cost incoming (left + 1) idle =
          [⟨{ s with budget := b }, readings left, picks left⟩] ∨
      e ≠ .refused ∧ ∃ idle', s.makeRoom readings picks key objects cost incoming (left + 1) idle =
          t.makeRoom readings picks key objects cost incoming left idle' ∧
        s.rounds readings picks key objects cost incoming (left + 1) idle =
          ⟨{ s with budget := b }, readings left, picks left⟩ ::
            t.rounds readings picks key objects cost incoming left idle') := by
  rw [makeRoom, rounds]
  cases hr : s.budget.reserve objects cost with
  | mk fits b =>
    cases fits with
    | true => exact .inl ⟨b, rfl, rfl, rfl⟩
    | false =>
      right
      simp only
      cases he : { s with budget := b }.evict (readings left) (picks left) key incoming with
      | mk e t =>
        refine ⟨b, e, t, rfl, he, ?_⟩
        cases e with
        | evicted => exact .inr ⟨by decide, idle, rfl, rfl⟩
        | refused => exact .inl ⟨by decide, rfl, rfl⟩
        | nothing =>
          simp only
          split_ifs
          · exact .inl ⟨by decide, rfl, rfl⟩
          · exact .inr ⟨by decide, idle + 1, rfl, rfl⟩

theorem size_makeRoom (readings : Nat → Instant) (picks : Nat → Pick) (key : Key) (objects cost incoming : Nat)
    (left idle : Nat) (s : ResponseStore) :
    (s.makeRoom readings picks key objects cost incoming left idle).2.shards.size = s.shards.size := by
  induction left generalizing s idle with
  | zero => rfl
  | succ left ih =>
    rcases makeRoom_cases readings picks key objects cost incoming left idle s with ⟨b, -, hm, -⟩ |
      ⟨b, e, t, -, he, ⟨-, hm, -⟩ | ⟨-, idle', hm, -⟩⟩
    · rw [hm]
    · have hsize := size_evict { s with budget := b } (readings left) (picks left) key incoming
      rw [he] at hsize
      rw [hm]
      exact hsize
    · have hsize := size_evict { s with budget := b } (readings left) (picks left) key incoming
      rw [he] at hsize
      rw [hm]
      exact (ih idle' t).trans hsize

theorem size_reserve (s : ResponseStore) (readings : Nat → Instant) (picks : Nat → Pick) (key : Key)
    (objects cost : Nat) : (s.reserve readings picks key objects cost).2.shards.size = s.shards.size :=
  size_makeRoom readings picks key objects cost _ maxEvictions 0 s

/-- a reservation clears the victims of its rounds; then it has its share, or it gives up and holds nothing -/
theorem makeRoom_clears (readings : Nat → Instant) (picks : Nat → Pick) (key : Key) (objects cost incoming : Nat)
    (left idle : Nat) (s : ResponseStore) (h : s.Booked 0 0) :
    ∃ cleared, Clears key incoming s
        (Store.victims key incoming (s.rounds readings picks key objects cost incoming left idle)) cleared ∧
      (s.makeRoom readings picks key objects cost incoming left idle = (false, cleared) ∨
        ∃ b, cleared.budget.reserve objects cost = (true, b) ∧
          s.makeRoom readings picks key objects cost incoming left idle = (true, { cleared with budget := b })) := by
  induction left generalizing s idle with
  | zero => exact ⟨s, .refl s, Or.inl rfl⟩
  | succ left ih =>
    rcases makeRoom_cases readings picks key objects cost incoming left idle s with ⟨b, hr, hm, hrounds⟩ |
      ⟨b, e, t, hr, he, hend⟩
    · rw [hm, hrounds]
      exact ⟨s, .refl s, Or.inr ⟨b, hr, rfl⟩⟩
    · -- the store that the round finds is the one before it: the reservation was rolled back
      have hback := h.reserve_false (Int.le_refl 0) hr
      subst hback
      rcases hend with ⟨hne, hm, hrounds⟩ | ⟨hne, idle', hm, hrounds⟩
      · obtain ⟨rfl, hv⟩ := evict_of_ne he hne
        rw [hm, hrounds, victims_cons_of_none hv]
        exact ⟨s, .refl s, Or.inl rfl⟩
      · rw [hm, hrounds]
        cases e with
        | evicted =>
          obtain ⟨i, k, slot, hs, hk, hallowed, hv, rfl⟩ := evict_evicted he
          obtain ⟨cleared, hc, hres⟩ := ih idle' _ (h.drop (Int.le_refl 0) (Int.le_refl 0) i k)
          rw [victims_cons_of_some hv]
          exact ⟨cleared, .evict hs hk hallowed hc, hres⟩
        | refused => exact absurd rfl hne
        | nothing =>
          obtain ⟨rfl, hv⟩ := evict_of_ne he (by decide)
          rw [victims_cons_of_none hv]
          exact ih idle' s h

/-! ## Storing an entry -/

/-- `t` is `s` with an entry written under its key -/
structure Writes (key : Key) (entry : Entry) (expiry : Option Instant) (s t : ResponseStore) : Prop where
  shaped : t.Shaped
  frame : SameFrame s t
  contents : t.contents = Function.update s.contents key (some (entry, expiry))

/-- publishing writes, whatever becomes of the counters -/
theorem writes_publish (hs : s.Shaped) (key : Key) (entry : Entry) (expiry : Option Instant)
    (hshards : t.shards = (s.publish key entry expiry).shards) (hp : t.popularity = s.popularity)
    (hd : t.defaultLifetime = s.defaultLifetime)
    (hb : t.budget.maxObjects = s.budget.maxObjects ∧ t.budget.maxCost = s.budget.maxCost) :
    Writes key entry expiry s t := by
  have hput : (s.publish key entry expiry).Shaped := hs.put rfl entry expiry
  have hsize : (s.publish key entry expiry).shards.size = s.shards.size := size_setShard _ _ _
  refine ⟨hput.congr hshards, ⟨hp, hb.1, hb.2, hd, by rw [hshards, hsize]⟩, ?_⟩
  rw [contents_congr hshards, contents_publish hs.shards_pos]

theorem Booked.publish (hs : s.Shaped) {o c : Int} (h : s.Booked o c) (key : Key) (entry : Entry)
    (expiry : Option Instant) :
    (s.publish key entry expiry).Booked (o - 1 + if (s.slot? key).isSome then 1 else 0)
      (c - entry.cost + ((s.slot? key).map (·.entry.cost)).getD 0) :=
  h.put (s.shardOf_lt hs.shards_pos key) key entry expiry

/-- a stored version is replaced, unless there is none or no room for what the new one costs more -/
theorem replaceInPlace_cases (hs : s.Shaped) (h : s.Booked 0 0) (key : Key) (entry : Entry) (expiry : Option Instant) :
    (s.slot? key = none ∧ s.replaceInPlace key entry expiry = (.absent, s)) ∨
    (∃ slot, s.slot? key = some slot ∧ slot.entry.cost < entry.cost ∧
      s.replaceInPlace key entry expiry = (.needsRoom slot.entry.cost, s)) ∨
    ∃ t, s.replaceInPlace key entry expiry = (.done, t) ∧ Writes key entry expiry s t ∧ t.Booked 0 0 := by
  unfold replaceInPlace
  cases hslot : s.slot? key with
  | none => exact Or.inl ⟨rfl, rfl⟩
  | some slot =>
    right
    simp only
    split_ifs with hlt hlt'
    · cases hr : s.budget.reserve 0 (entry.cost - slot.entry.cost) with
      | mk fits budget =>
        cases fits with
        | true =>
          have hb := (h.reserve_true hr).publish (hs.withBudget _) key entry expiry
          have hslot' : { s with budget }.slot? key = some slot := hslot
          rw [hslot'] at hb
          refine Or.inr ⟨_, rfl, writes_publish hs key entry expiry rfl rfl rfl (reserve_limits hr), hb.congr ?_ ?_⟩
          · simp
          · simp only [Option.map_some, Option.getD_some]; omega
        | false =>
          have hback := h.reserve_false (Int.le_refl 0) hr
          subst hback
          exact Or.inl ⟨slot, rfl, hlt, rfl⟩
    · have hb := h.publish hs key entry expiry
      rw [hslot] at hb
      simp only [Option.map_some, Option.getD_some, Option.isSome_some, if_true] at hb
      have hreleased := hb.releaseCost (n := slot.entry.cost - entry.cost) (by omega)
      exact Or.inr ⟨_, rfl, writes_publish hs key entry expiry rfl rfl rfl ⟨rfl, rfl⟩,
        hreleased.congr (by omega) (by omega)⟩
    · have hb := h.publish hs key entry expiry
      rw [hslot] at hb
      simp only [Option.map_some, Option.getD_some, Option.isSome_some, if_true] at hb
      exact Or.inr ⟨_, rfl, writes_publish hs key entry expiry rfl rfl rfl ⟨rfl, rfl⟩, hb.congr (by omega) (by omega)⟩

theorem slot?_of_contents_eq_none {key : Key} (h : s.contents key = none) : s.slot? key = none :=
  Option.map_eq_none_iff.1 h

theorem slot?_of_contents_eq_some {key : Key} {slot : Slot} (h : s.contents key = some slot.content) :
    ∃ sl, s.slot? key = some sl ∧ sl.entry = slot.entry := by
  obtain ⟨sl, hs, he⟩ := Option.map_eq_some_iff.1 h
  exact ⟨sl, hs, congrArg Prod.fst he⟩

theorem contents_of_slot? {key : Key} {slot : Slot} (h : s.slot? key = some slot) :
    s.contents key = some slot.content := by unfold contents; rw [h]; rfl

/-- storing an entry cleared the victims of its rounds, and then the entry was refused or written -/
def Outcome (key : Key) (entry : Entry) (expiry : Option Instant) (s : ResponseStore) (rounds : List Round)
    (result : Bool × ResponseStore) : Prop :=
  ∃ cleared, Clears key (s.popularity.estimate key) s (Store.victims key (s.popularity.estimate key) rounds) cleared ∧
    (result = (false, cleared) ∨ ∃ t, result = (true, t) ∧ Writes key entry expiry cleared t ∧ t.Booked 0 0)

/-- a version that grows is still there when its room is made -/
theorem grow_outcome (hs : s.Shaped) (h : s.Booked 0 0) (readings : Nat → Instant) (picks : Nat → Pick) (key : Key)
    (entry : Entry) (expiry : Option Instant) {slot : Slot} (hslot : s.slot? key = some slot)
    (hlt : slot.entry.cost < entry.cost) :
    Outcome key entry expiry s
      (s.rounds readings picks key 0 (entry.cost - slot.entry.cost) (s.popularity.estimate key) maxEvictions 0)
      (s.grow readings picks key entry expiry slot.entry.cost) := by
  obtain ⟨cleared, hc, hres⟩ := makeRoom_clears readings picks key 0 (entry.cost - slot.entry.cost)
    (s.popularity.estimate key) maxEvictions 0 s h
  have hcs := hc.shaped hs
  refine ⟨cleared, hc, ?_⟩
  unfold grow reserve
  rcases hres with hres | ⟨b, hr, hres⟩
  · rw [hres]
    exact Or.inl rfl
  · rw [hres]
    have hkept : cleared.contents key = some slot.content := by
      rw [hc.contents_kept hs]; exact contents_of_slot? hslot
    obtain ⟨sl, hsl, hcost⟩ := slot?_of_contents_eq_some hkept
    have hsl' : { cleared with budget := b }.slot? key = some sl := hsl
    simp only [hsl', Option.any_some, hcost, decide_true, if_true]
    have hb := ((hc.booked h).reserve_true hr).publish (hcs.withBudget b) key entry expiry
    rw [hsl'] at hb
    refine Or.inr ⟨_, rfl, writes_publish hcs key entry expiry rfl rfl rfl (reserve_limits hr), hb.congr ?_ ?_⟩
    · simp
    · simp only [Option.map_some, Option.getD_some, hcost]; omega

/-- no version of an absent key came in between -/
theorem introduce_outcome (hs : s.Shaped) (h : s.Booked 0 0) (readings : Nat → Instant) (picks : Nat → Pick) (key : Key)
    (entry : Entry) (expiry : Option Instant) (hslot : s.slot? key = none) :
    Outcome key entry expiry s
      (s.rounds readings picks key 1 entry.cost (s.popularity.estimate key) maxEvictions 0)
      (s.introduce readings picks key entry expiry) := by
  obtain ⟨cleared, hc, hres⟩ := makeRoom_clears readings picks key 1 entry.cost
    (s.popularity.estimate key) maxEvictions 0 s h
  have hcs := hc.shaped hs
  refine ⟨cleared, hc, ?_⟩
  unfold introduce reserve
  rcases hres with hres | ⟨b, hr, hres⟩
  · rw [hres]
    exact Or.inl rfl
  · rw [hres]
    have hkept : cleared.slot? key = none := by
      refine slot?_of_contents_eq_none ?_
      rw [hc.contents_kept hs]; unfold contents; rw [hslot]; rfl
    have hsl' : { cleared with budget := b }.slot? key = none := hkept
    simp only [hsl']
    have hb := ((hc.booked h).reserve_true hr).publish (hcs.withBudget b) key entry expiry
    rw [hsl'] at hb
    refine Or.inr ⟨_, rfl, writes_publish hcs key entry expiry rfl rfl rfl (reserve_limits hr), hb.congr ?_ ?_⟩
    · simp
    · simp

/-- the four ways of storing an entry, after the request is counted: one that is too large is refused, an absent one is
introduced, a stored version grows, or it is replaced at once -/
theorem insert_cases (hs : s.Shaped) (h : s.Booked 0 0) (now : Instant) (readings : Nat → Instant)
    (picks : Nat → Pick) (key : Key) (entry : Entry) (lifetime : Option Span) :
    (s.budget.maxCost < entry.cost ∧ s.insert now picks key entry lifetime readings = (false, s.touch key) ∧
      s.insertRounds now readings picks key entry lifetime = []) ∨
    ((s.touch key).slot? key = none ∧
      s.insert now picks key entry lifetime readings =
        (s.touch key).introduce readings picks key entry (lifetime.bind now.after?) ∧
      s.insertRounds now readings picks key entry lifetime =
        (s.touch key).rounds readings picks key 1 entry.cost ((s.touch key).popularity.estimate key) maxEvictions 0) ∨
    (∃ slot, (s.touch key).slot? key = some slot ∧ slot.entry.cost < entry.cost ∧
      s.insert now picks key entry lifetime readings =
        (s.touch key).grow readings picks key entry (lifetime.bind now.after?) slot.entry.cost ∧
      s.insertRounds now readings picks key entry lifetime =
        (s.touch key).rounds readings picks key 0 (entry.cost - slot.entry.cost)
          ((s.touch key).popularity.estimate key) maxEvictions 0) ∨
    ∃ t, (s.touch key).replaceInPlace key entry (lifetime.bind now.after?) = (.done, t) ∧
      s.insert now picks key entry lifetime readings = (true, t) ∧
      s.insertRounds now readings picks key entry lifetime = [] ∧
      Writes key entry (lifetime.bind now.after?) (s.touch key) t ∧ t.Booked 0 0 := by
  unfold insert insertRounds
  simp only
  split_ifs with hlarge
  · exact .inl ⟨hlarge, rfl, rfl⟩
  · right
    rcases replaceInPlace_cases (hs.congr rfl : (s.touch key).Shaped) (h.touch key) key entry (lifetime.bind now.after?) with
      ⟨hslot, hr⟩ | ⟨slot, hslot, hlt, hr⟩ | ⟨t, hr, hw, hb⟩
    · rw [hr]
      exact .inl ⟨hslot, rfl, rfl⟩
    · rw [hr]
      exact .inr (.inl ⟨slot, hslot, hlt, rfl, rfl⟩)
    · rw [hr]
      exact .inr (.inr ⟨t, rfl, rfl, rfl, hw, hb⟩)

/-- **Storing an entry.** After the request is counted, the victims of the rounds are cleared, and then the entry is
refused or written, the counters exact either way. -/
theorem insert_outcome (hs : s.Shaped) (h : s.Booked 0 0) (now : Instant) (readings : Nat → Instant)
    (picks : Nat → Pick) (key : Key) (entry : Entry) (lifetime : Option Span) :
    Outcome key entry (lifetime.bind now.after?) (s.touch key) (s.insertRounds now readings picks key entry lifetime)
      (s.insert now picks key entry lifetime readings) := by
  have hs' : (s.touch key).Shaped := hs.congr rfl
  have h' := h.touch key
  rcases insert_cases hs h now readings picks key entry lifetime with ⟨-, hi, hr⟩ | ⟨hslot, hi, hr⟩ |
    ⟨slot, hslot, hlt, hi, hr⟩ | ⟨t, -, hi, hr, hw, hb⟩
  · rw [hi, hr]
    exact ⟨s.touch key, .refl _, Or.inl rfl⟩
  · rw [hi, hr]
    exact introduce_outcome hs' h' readings picks key entry _ hslot
  · rw [hi, hr]
    exact grow_outcome hs' h' readings picks key entry _ hslot hlt
  · rw [hi, hr]
    exact ⟨s.touch key, .refl _, Or.inr ⟨t, rfl, hw, hb⟩⟩

/-! ## Single rounds -/

section Rounds

variable {readings : Nat → Instant} {picks : Nat → Pick} {key : Key} {objects cost incoming n idle : Nat} {b : Budget}

theorem makeRoom_of_fits (h : s.budget.reserve objects cost = (true, b)) :
    s.makeRoom readings picks key objects cost incoming (n + 1) idle = (true, { s with budget := b }) := by
  rw [makeRoom, h]

theorem makeRoom_of_evicted (hr : s.budget.reserve objects cost = (false, b))
    (he : { s with budget := b }.evict (readings n) (picks n) key incoming = (.evicted, t)) :
    s.makeRoom readings picks key objects cost incoming (n + 1) idle =
      t.makeRoom readings picks key objects cost incoming n idle := by
  rw [makeRoom, hr]
  simp only [he]

theorem makeRoom_of_refused (hr : s.budget.reserve objects cost = (false, b))
    (he : { s with budget := b }.evict (readings n) (picks n) key incoming = (.refused, t)) :
    s.makeRoom readings picks key objects cost incoming (n + 1) idle = (false, t) := by
  rw [makeRoom, hr]
  simp only [he]

/-- an absent entry is written if its reservation has room, and refused if not -/
theorem insert_absent {now : Instant} {entry : Entry} {lifetime : Option Span} {fits : Bool}
    (hcost : entry.cost ≤ s.budget.maxCost) (hslot : s.slot? key = none)
    (hroom : (s.touch key).reserve readings picks key 1 entry.cost = (fits, t)) (hslot' : t.slot? key = none) :
    s.insert now picks key entry lifetime readings =
      if fits then (true, t.publish key entry (lifetime.bind now.after?)) else (false, t) := by
  have htouch : ¬(s.touch key).budget.maxCost < entry.cost := Nat.not_lt.2 hcost
  have hslot'' : (s.touch key).slot? key = none := hslot
  cases fits with
  | true => simp only [insert, htouch, if_false, replaceInPlace, hslot'', introduce, hroom, hslot', if_true]
  | false => simp only [insert, htouch, if_false, replaceInPlace, hslot'', introduce, hroom, Bool.false_eq_true]

end Rounds

end EdgeCache.ResponseStore
