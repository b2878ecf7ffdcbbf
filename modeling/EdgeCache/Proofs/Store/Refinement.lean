/-
The store does what a flat map does, in every state that calls lead to.

- `perform_allows`: what a call answers and leaves behind, the flat map allows.
- `FlatMap.Allows.others`: what that means for every other key.
- `refines_flat_map`: all of it for the store that a pair of positive limits gives; `runs_transcript`: whole runs.
-/
import EdgeCache.Store.FlatMap
import EdgeCache.Proofs.Store.Capacity

namespace EdgeCache.Store.FlatMap

open EdgeCache.Time EdgeCache.Freshness

variable {limits : Limits} {m m' : FlatMap}

theorem Thinned.refl (key : Key) (m : FlatMap) : Thinned key m m := ⟨rfl, fun _ => Or.inl rfl⟩

theorem Stores.others {now : Instant} {key : Key} {entry : Entry} {lifetime : Option Span} {reply : Reply}
    (h : m.Stores limits now key entry lifetime reply m') {k : Key} (hk : k ≠ key) : m' k = m k ∨ m' k = none := by
  unfold Stores at h
  split_ifs at h
  · rw [h.2]; exact Or.inl rfl
  · obtain ⟨thinned, hthin, ⟨-, rfl⟩ | ⟨-, rfl⟩⟩ := h
    · exact hthin.2 k
    · rw [Function.update_of_ne hk]; exact hthin.2 k

/-- a refused entry leaves the stored version of its key in place -/
theorem Stores.refused {now : Instant} {key : Key} {entry : Entry} {lifetime : Option Span}
    (h : m.Stores limits now key entry lifetime (.done false) m') : m' key = m key := by
  unfold Stores at h
  split_ifs at h
  · rw [h.2]
  · obtain ⟨thinned, hthin, ⟨-, rfl⟩ | ⟨hreply, -⟩⟩ := h
    · exact hthin.1
    · cases hreply

/-- no call changes what is stored under another key, other than by losing it -/
theorem Allows.others {call : Call} {reply : Reply} (h : m.Allows limits call reply m') {k : Key}
    (hk : call.key? ≠ some k) : m' k = m k ∨ m' k = none := by
  have hne : ∀ key, some key ≠ some k → k ≠ key := fun key h e => h (e ▸ rfl)
  cases call with
  | get now key =>
    rw [h.2]
    split_ifs
    · exact Or.inl (Function.update_of_ne (hne key hk) _ _)
    · exact Or.inl rfl
  | set clock readings picks key entry =>
    unfold Allows at h
    simp only at h
    split at h
    · rw [h.2]; exact Or.inl rfl
    · exact h.others (hne key hk)
    · exact h.others (hne key hk)
  | setFor now readings picks key entry lifetime => exact Stores.others h (hne key hk)
  | remove key =>
    rw [h.2]
    exact Or.inl (Function.update_of_ne (hne key hk) _ _)
  | sweep now =>
    rw [h.2]
    simp only
    split_ifs
    · exact Or.inr rfl
    · exact Or.inl rfl

/-- a call that is answered no leaves the stored version of its key in place -/
theorem Allows.refused {call : Call} (h : m.Allows limits call (.done false) m') {key : Key}
    (hk : call.key? = some key) : m' key = m key := by
  cases call with
  | get now k => cases h.1
  | set clock readings picks k entry =>
    cases hk
    unfold Allows at h
    simp only at h
    split at h
    · rw [h.2]
    · exact h.refused
    · exact h.refused
  | setFor now readings picks k entry lifetime =>
    cases hk
    exact Stores.refused h
  | remove k =>
    cases hk
    have hnone : m key = none := by
      have := h.1
      cases hm : m key with
      | none => rfl
      | some stored => rw [hm] at this; cases this
    rw [h.2, Function.update_self, hnone]
  | sweep now => cases hk

theorem Allows.follows {call : Call} {reply : Reply} (h : m.Allows limits call reply m') :
    m.Follows limits call reply m' := by
  refine ⟨h, fun k hk => h.others hk, ?_⟩
  intro k hk hreply
  subst hreply
  exact h.refused hk

end EdgeCache.Store.FlatMap

namespace EdgeCache.ResponseStore

open EdgeCache.Store EdgeCache.Time EdgeCache.Freshness

variable {limits : Limits} {s : ResponseStore}

/-! ## One call -/

theorem get_allows (s : ResponseStore) (now : Instant) (key : Key) :
    FlatMap.Allows limits s.contents (.get now key) (.found (s.get now key).1) (s.get now key).2.contents := by
  have htouch : (s.touch key).contents = s.contents := rfl
  rcases get_cases s now key with ⟨hslot, hg⟩ | ⟨slot, hslot, hx, hg⟩ | ⟨slot, hslot, hx, hg⟩
  · have hc : s.contents key = none := by unfold contents; rw [hslot]; rfl
    rw [hg]
    exact ⟨by simp [FlatMap.served, hc], by simp [hc, htouch]⟩
  · have hc : s.contents key = some slot.content := contents_of_slot? hslot
    have hx' : isExpired now slot.content = false := hx
    rw [hg]
    exact ⟨by simp [FlatMap.served, hc, hx']; rfl, by simp [hc, hx', htouch]⟩
  · have hc : s.contents key = some slot.content := contents_of_slot? hslot
    have hx' : isExpired now slot.content = true := hx
    rw [hg]
    refine ⟨by simp [FlatMap.served, hc, hx'], ?_⟩
    rw [hc, Option.any_some, hx', if_pos rfl]
    exact contents_drop rfl

theorem remove_allows (s : ResponseStore) (key : Key) :
    FlatMap.Allows limits s.contents (.remove key) (.done (s.remove key).1) (s.remove key).2.contents := by
  refine ⟨?_, contents_drop rfl⟩
  unfold remove contents slot?
  cases hslot : (s.shardAt (s.shardOf key)).slot? key with
  | none => rw [drop_eq_false hslot]; rfl
  | some slot =>
    obtain ⟨shard, -, hd⟩ := drop_eq_true hslot
    rw [hd]; rfl

theorem Clears.thinned {kept : Key} {incoming : Nat} {t : ResponseStore} {victims : List Victim}
    (h : Clears kept incoming s victims t) (hs : s.Shaped) : FlatMap.Thinned kept s.contents t.contents := by
  refine ⟨h.contents_kept hs, ?_⟩
  intro k
  rw [h.contents hs]
  split_ifs
  · exact Or.inr rfl
  · exact Or.inl rfl

theorem insert_allows (h : Sound limits s) (now : Instant) (readings : Nat → Instant) (picks : Nat → Pick) (key : Key)
    (entry : Entry) (lifetime : Option Span) :
    FlatMap.Stores limits s.contents now key entry lifetime (.done (s.insert now picks key entry lifetime readings).1)
      (s.insert now picks key entry lifetime readings).2.contents := by
  unfold FlatMap.Stores
  split_ifs with hbig
  · have hbig' : (s.touch key).budget.maxCost < entry.cost := by
      show s.budget.maxCost < entry.cost
      rw [h.maxCost]; exact hbig
    unfold insert
    simp only [hbig', if_true, true_and]
    rfl
  · obtain ⟨cleared, hc, hres⟩ := insert_outcome h.shaped h.booked now readings picks key entry lifetime
    refine ⟨cleared.contents, hc.thinned (h.touch key).shaped, ?_⟩
    rcases hres with hres | ⟨t, hres, hw, -⟩
    · rw [hres]; exact Or.inl ⟨rfl, rfl⟩
    · rw [hres]; exact Or.inr ⟨rfl, hw.contents⟩

/-- **What a call does, a flat map allows.** -/
theorem perform_allows (h : Sound limits s) (call : Call) :
    FlatMap.Allows limits s.contents call (call.perform s).1 (call.perform s).2.contents := by
  cases call with
  | get now key => exact get_allows s now key
  | set clock readings picks key entry =>
    show FlatMap.Allows limits s.contents _ (.done (s.set clock picks key entry readings).1)
      (s.set clock picks key entry readings).2.contents
    unfold FlatMap.Allows set
    simp only
    cases Decision.ofHeader entry.header clock.moment with
    | forbidden => exact ⟨rfl, rfl⟩
    | unspecified =>
      rw [← h.defaultLifetime]
      exact insert_allows h _ readings picks key entry _
    | lifetime span => exact insert_allows h _ readings picks key entry _
  | setFor now readings picks key entry lifetime => exact insert_allows h now readings picks key entry (some lifetime)
  | remove key => exact remove_allows s key
  | sweep now => exact ⟨⟨_, rfl⟩, funext fun key => contents_sweep h.shaped now key⟩

/-! ## Runs -/

theorem runs_transcript (h : Sound limits s) (calls : List Call) :
    FlatMap.Runs limits s.contents (s.transcript calls) (s.run calls).contents := by
  induction calls generalizing s with
  | nil => exact .nil _
  | cons call calls ih => exact .cons (perform_allows h call).follows (ih (perform_sound h call))

/-- **The store is a flat map.** Positive limits give a store whose map is empty. After any calls every slot of any shard
stands in the map, under its key, and the calls with their answers are a run of a flat map; and whatever call comes next,
with any readings of the clocks and any picks, the map allows what it answers and leaves behind, and no entry of another
key changes. -/
theorem refines_flat_map (limits : Limits) (ho : 0 < limits.maxObjects) (hc : 0 < limits.maxCost) :
    ∃ fresh, new limits = .ok fresh ∧ fresh.contents = FlatMap.empty ∧ ∀ calls : List Call,
      (∀ i key slot, ((fresh.run calls).shardAt i).slot? key = some slot →
        (fresh.run calls).contents key = some slot.content) ∧
      FlatMap.Runs limits FlatMap.empty (fresh.transcript calls) (fresh.run calls).contents ∧
      ∀ call : Call, FlatMap.Follows limits (fresh.run calls).contents call (call.perform (fresh.run calls)).1
        (call.perform (fresh.run calls)).2.contents := by
  have hempty := contents_new (new_eq limits ho hc)
  refine ⟨_, new_eq limits ho hc, hempty, ?_⟩
  intro calls
  have hsound := run_sound (sound_new (new_eq limits ho hc)) calls
  refine ⟨?_, ?_, ?_⟩
  · intro i key slot hslot
    have hhome := hsound.shaped.home i key slot hslot
    subst hhome
    exact contents_of_slot? hslot
  · have hruns := runs_transcript (sound_new (new_eq limits ho hc)) calls
    rw [hempty] at hruns
    exact hruns
  · intro call
    exact (perform_allows hsound call).follows

open ForTwo in
/-- a store for two entries is filled, one of them makes way for a third, what came is found and what went is not, and
then one that stayed is removed -/
theorem refines_flat_map_exchanged : 0 < 2 ∧
    ∃ fresh, new ⟨2, 2, none⟩ = .ok fresh ∧ fresh.contents = FlatMap.empty ∧
      (∀ i key slot, ((fresh.run session).shardAt i).slot? key = some slot →
        (fresh.run session).contents key = some slot.content) ∧
      FlatMap.Runs ⟨2, 2, none⟩ FlatMap.empty answered (fresh.run session).contents ∧
      (fresh.run session).contents newcomer = some (filler 1, some ⟨1⟩) ∧
      (fresh.run session).contents popular = some (filler 1, some ⟨1⟩) ∧
      (fresh.run session).contents rare = none ∧
      FlatMap.Follows ⟨2, 2, none⟩ (fresh.run session).contents (.remove popular) (.done true)
        ((Call.remove popular).perform (fresh.run session)).2.contents := by
  obtain ⟨fresh, hnew, hempty, hrefines⟩ := refines_flat_map ⟨2, 2, none⟩ (by decide) (by decide)
  obtain rfl : holding ∅ #[] (.new 2) = fresh := Except.ok.inj (new_holding.symm.trans hnew)
  obtain ⟨hanswered, hrun⟩ := session_answered
  obtain ⟨hslots, hruns, hnext⟩ := hrefines session
  obtain ⟨hnewcomer, hpopular, hrare⟩ := contents_exchanged askedLater
  have hremoved := hnext (.remove popular)
  rw [hanswered] at hruns
  refine ⟨by decide, _, hnew, hempty, hslots, hruns, ?_⟩
  rw [hrun] at hremoved ⊢
  have hreply : ((Call.remove popular).perform (exchanged askedLater)).1 = .done true := by
    rw [hremoved.allowed.1, hpopular]
    rfl
  rw [hreply] at hremoved
  exact ⟨hnewcomer, hpopular, hrare, hremoved⟩

end EdgeCache.ResponseStore
