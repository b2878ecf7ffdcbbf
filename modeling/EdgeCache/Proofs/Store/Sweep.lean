/-
What a sweep does, and that lookups cannot tell whether there was one.

- `sweep_count`: a sweep counts the slots that it takes out.
- `total_sweep`: what is left of a weight after a sweep, and what was expired of it, make up what it was.
- `Lags`: one store holds what another does, less what is expired at lookups to come. `Lags.run`, `Lags.get`: sweeps and
  lookups in one store alone, and the same lookup in both, keep it.
- `Lags.lookUp_eq`: so lookups find the same in both.
- `sweep_exact`: all of it for every store that calls lead to.
-/
import EdgeCache.Proofs.Store.Census
import EdgeCache.Proofs.Store.Lasting

namespace EdgeCache.ResponseStore

open EdgeCache.Store EdgeCache.Time

variable {limits : Limits} {s t : ResponseStore}

/-! ## Counting -/

theorem drop_count (s : ResponseStore) (i : Nat) (key : Key) :
    (if (s.drop i key).1 then 1 else 0) + (s.drop i key).2.slotCount = s.slotCount := by
  cases hslot : (s.shardAt i).slot? key with
  | none =>
    rw [drop_eq_false hslot]
    exact Nat.zero_add _
  | some slot =>
    have htotal := total_drop (s := s) (w := fun _ => 1) (fun _ _ => rfl) hslot
    obtain ⟨shard, -, hdrop⟩ := drop_eq_true hslot
    have hfound : (s.drop i key).1 = true := by rw [hdrop]
    rw [if_pos hfound, slotCount_eq_total, slotCount_eq_total]
    omega

theorem dropAll_count (s : ResponseStore) (i : Nat) (keys : List Key) :
    (s.dropAll i keys).1 + (s.dropAll i keys).2.slotCount = s.slotCount := by
  unfold dropAll
  -- with any number counted before
  rw [← Nat.zero_add s.slotCount]
  generalize 0 = n
  induction keys generalizing s n with
  | nil => rfl
  | cons key keys ih =>
    have hdrop := drop_count s i key
    rw [List.foldl_cons, ih]
    split_ifs at hdrop ⊢
    · omega
    · omega

theorem sweep_count (s : ResponseStore) (now : Instant) : (s.sweep now).1 + (s.sweep now).2.slotCount = s.slotCount := by
  unfold sweep
  rw [← Nat.zero_add s.slotCount]
  generalize List.range s.shards.size = is
  generalize 0 = n
  induction is generalizing s n with
  | nil => rfl
  | cons i is ih =>
    have hshard := dropAll_count s i ((s.shardAt i).expiredKeys now)
    rw [List.foldl_cons, ih]
    omega

def expired (s : ResponseStore) (now : Instant) : Finset Key :=
  s.storedKeys.filter fun key => (s.contents key).any (isExpired now)

theorem mem_expired_iff (hs : s.Shaped) (now : Instant) (key : Key) :
    key ∈ s.expired now ↔ (s.contents key).any (isExpired now) = true := by
  unfold expired
  rw [Finset.mem_filter, and_iff_right_iff_imp]
  intro hover
  obtain ⟨stored, hstored, -⟩ := (Option.any_eq_true _ _).1 hover
  exact listed_storedKeys hs key stored hstored

/-- what is left of a weight after a sweep, and what was expired of it, make up what it was -/
theorem total_sweep (hs : s.Shaped) (now : Instant) (v : Entry × Option Instant → Nat) :
    (s.sweep now).2.total (fun slot => v slot.content) + ∑ key ∈ s.expired now, ((s.contents key).map v).getD 0 =
      s.total fun slot => v slot.content := by
  have hshaped : (s.sweep now).2.Shaped := sweep_induct (fun _ i key h => h.drop i key) hs now
  have hlisted : (s.sweep now).2.Listed s.storedKeys := by
    intro key stored hstored
    rw [contents_sweep hs] at hstored
    split_ifs at hstored
    exact listed_storedKeys hs key stored hstored
  rw [total_eq_sum hshaped hlisted, total_eq_sum hs (listed_storedKeys hs), expired, Finset.sum_filter,
    ← Finset.sum_add_distrib]
  refine Finset.sum_congr rfl fun key _ => ?_
  rw [contents_sweep hs]
  split_ifs
  · exact Nat.zero_add _
  · exact Nat.add_zero _

theorem card_expired (hs : s.Shaped) (now : Instant) : (s.sweep now).1 = (s.expired now).card := by
  have hone : ∀ key ∈ s.expired now, ((s.contents key).map fun _ => 1).getD 0 = 1 := by
    intro key hkey
    obtain ⟨stored, hstored, -⟩ := (Option.any_eq_true _ _).1 ((mem_expired_iff hs now key).1 hkey)
    rw [hstored]
    rfl
  have htotal := total_sweep hs now fun _ => 1
  rw [Finset.sum_congr rfl hone, ← Finset.card_eq_sum_ones, ← slotCount_eq_total, ← slotCount_eq_total] at htotal
  have hcount := sweep_count s now
  omega

end EdgeCache.ResponseStore

namespace EdgeCache.Store

open EdgeCache.Time

/-! ## Lookups -/

structure Lookup where
  before : List Call
  now : Instant
  key : Key

/-- the lookup without the calls before it -/
def Lookup.alone (l : Lookup) : Lookup := { l with before := [] }

/-- before each lookup there are only sweeps and other lookups, by readings of the clock that are not past those of the
lookup and of all that follow -/
def Quiet : List Lookup → Prop
  | [] => True
  | l :: ls => (∀ call ∈ l.before, ∃ t, call.reading? = some t ∧ ∀ later ∈ l :: ls, t ≤ later.now) ∧ Quiet ls

/-- sweeps and lookups up to a time leave alone what is not expired -/
theorem spared_of_reading {key : Key} {last : Instant} {calls : List Call}
    (h : ∀ call ∈ calls, ∃ t, call.reading? = some t ∧ t ≤ last) (s : ResponseStore) : Spared key last s calls := by
  induction calls generalizing s with
  | nil => trivial
  | cons call calls ih =>
    refine ⟨?_, ih (fun c hc => h c (List.mem_cons_of_mem call hc)) _⟩
    obtain ⟨t, hreading, hle⟩ := h call List.mem_cons_self
    have hstores : call.stores? = none := by
      cases call <;> first | rfl | cases hreading
    refine ⟨?_, ?_, ?_, ?_⟩
    · rintro rfl
      cases hreading
    · intro entry hentry
      rw [hstores] at hentry
      cases hentry
    · intro other entry hentry
      rw [hstores] at hentry
      cases hentry
    · intro now hnow
      rw [hreading] at hnow
      cases hnow
      exact hle

end EdgeCache.Store

namespace EdgeCache.ResponseStore

open EdgeCache.Store EdgeCache.Time

variable {limits : Limits} {s t : ResponseStore} {l : Lookup} {ls : List Lookup}

/-- what lookups find, one after the other, each after the calls before it -/
def lookUp (s : ResponseStore) : List Lookup → List (Option Entry)
  | [] => []
  | l :: ls => ((s.run l.before).get l.now l.key).1 :: ((s.run l.before).get l.now l.key).2.lookUp ls

/-- `t` holds what `s` does, less some of what is expired at every one of the lookups -/
def Lags (ls : List Lookup) (s t : ResponseStore) : Prop := ∀ l ∈ ls, ∀ key, Lasts key l.now s.contents t.contents

theorem Lags.refl (ls : List Lookup) (s : ResponseStore) : Lags ls s s := fun _ _ _ => .inl rfl

/-- sweeps and lookups up to the readings of all lookups -/
theorem Lags.run (h : Lags ls s t) (ht : Sound limits t) {calls : List Call}
    (hcalls : ∀ call ∈ calls, ∃ now, call.reading? = some now ∧ ∀ l ∈ ls, now ≤ l.now) : Lags ls s (t.run calls) := by
  intro l hl key
  have hspared : Spared key l.now t calls :=
    spared_of_reading (fun call hcall => (hcalls call hcall).imp fun _ hnow => ⟨hnow.1, hnow.2 l hl⟩) t
  exact (h l hl key).trans (run_spares ht hspared)

theorem Lags.get_eq (h : Lags (l :: ls) s t) : (t.get l.now l.key).1 = (s.get l.now l.key).1 := by
  have hget : ∀ u : ResponseStore, (u.get l.now l.key).1 = FlatMap.served u.contents l.now l.key := by
    intro u
    have hallows : FlatMap.Allows ⟨0, 0, none⟩ u.contents (.get l.now l.key) _ _ := get_allows u l.now l.key
    exact Reply.found.inj hallows.1
  rw [hget, hget]
  unfold FlatMap.served
  rcases h l List.mem_cons_self l.key with hsame | ⟨hnone, hover⟩
  · rw [hsame]
  · obtain ⟨stored, hstored, hx⟩ := (Option.any_eq_true _ _).1 hover
    rw [hnone, hstored, Option.bind_some, if_pos hx]
    rfl

theorem contents_get (s : ResponseStore) (now : Instant) (key k : Key) :
    (s.get now key).2.contents k =
      if k = key ∧ (s.contents k).any (isExpired now) = true then none else s.contents k := by
  rw [(get_reclaims s now key).contents]
  by_cases hk : k = key
  · subst hk
    simp only [true_and]
    split_ifs
    · exact Function.update_self ..
    · rfl
  · simp only [hk, false_and, if_false]
    split_ifs
    · exact Function.update_of_ne hk ..
    · rfl

theorem Lags.get (h : Lags (l :: ls) s t) : Lags ls (s.get l.now l.key).2 (t.get l.now l.key).2 := by
  intro later hlater key
  have hlasts := h later (List.mem_cons_of_mem l hlater) key
  unfold Lasts
  rw [contents_get s, contents_get t]
  by_cases hgone : key = l.key ∧ (s.contents key).any (isExpired l.now) = true
  · -- `t` loses it as well, or has lost it before
    left
    obtain ⟨rfl, hover⟩ := hgone
    rcases h l List.mem_cons_self l.key with hsame | ⟨hnone, -⟩
    · rw [hsame]
    · rw [hnone, ite_self, if_pos ⟨rfl, hover⟩]
  · have hstays : ¬(key = l.key ∧ (t.contents key).any (isExpired l.now) = true) := by
      rintro ⟨rfl, hover⟩
      rcases h l List.mem_cons_self l.key with hsame | ⟨hnone, -⟩
      · exact hgone ⟨rfl, hsame ▸ hover⟩
      · rw [hnone] at hover
        cases hover
    rw [if_neg hgone, if_neg hstays]
    exact hlasts

/-- **Lookups cannot tell** sweeps and other lookups that went before: they find the same without them. -/
theorem Lags.lookUp_eq (h : Lags ls s t) (hs : Sound limits s) (ht : Sound limits t) (hquiet : Quiet ls) :
    t.lookUp ls = s.lookUp (ls.map .alone) := by
  induction ls generalizing s t with
  | nil => rfl
  | cons l ls ih =>
    have hrun : Lags (l :: ls) s (t.run l.before) := h.run ht hquiet.1
    have hsound := run_sound ht l.before
    rw [List.map_cons, lookUp, lookUp]
    exact congrArg₂ _ hrun.get_eq (ih hrun.get (hs.get l.now l.key) (hsound.get l.now l.key) hquiet.2)

/-! ## A sweep -/

/-- `t` is what a sweep that counted `n` entries left of `s` -/
structure Swept (s : ResponseStore) (now : Instant) (n : Nat) (t : ResponseStore) : Prop where
  /-- what is expired is gone, and everything else is as it was -/
  contents : ∀ key, t.contents key = if (s.contents key).any (isExpired now) then none else s.contents key
  /-- nothing that is left is expired -/
  live : ∀ key, (t.contents key).any (isExpired now) = false
  /-- the size is lower by the number of expired entries, and the cost by what they cost -/
  counted : ∃ expired : Finset Key, (∀ key, key ∈ expired ↔ (s.contents key).any (isExpired now) = true) ∧
    n = expired.card ∧ t.size + n = s.size ∧
    t.cost + ∑ key ∈ expired, ((s.contents key).map (·.1.cost)).getD 0 = s.cost
  /-- later lookups find the same as without the sweep, and without all sweeps and lookups in between -/
  invisible : ∀ ls, Quiet ls → (∀ l ∈ ls, now ≤ l.now) → t.lookUp ls = s.lookUp (ls.map .alone)

/-- **A sweep is exact, and it cannot be seen.** -/
theorem sweep_exact (hs : s.Reachable) (now : Instant) : Swept s now (s.sweep now).1 (s.sweep now).2 := by
  obtain ⟨limits, hsound⟩ := hs.sound
  have hswept : Sound limits (s.sweep now).2 := perform_sound hsound (.sweep now)
  have hcontents := contents_sweep hsound.shaped now
  refine ⟨hcontents, ?_, ⟨s.expired now, mem_expired_iff hsound.shaped now, card_expired hsound.shaped now, ?_, ?_⟩, ?_⟩
  · intro key
    rw [hcontents]
    split_ifs with hover
    · rfl
    · exact Bool.not_eq_true _ ▸ hover
  · have hcount := sweep_count s now
    rw [hsound.size_eq, hswept.size_eq]
    omega
  · rw [hsound.cost_eq, hswept.cost_eq]
    exact total_sweep hsound.shaped now (·.1.cost)
  · intro ls hquiet hlater
    have hlags : Lags ls s (s.run [.sweep now]) :=
      (Lags.refl ls s).run hsound (by simpa [Call.reading?] using hlater)
    exact hlags.lookUp_eq hsound hswept hquiet

theorem sweep_exact_crowded : ForTwo.crowded.Reachable ∧
    Swept ForTwo.crowded ⟨1⟩ (ForTwo.crowded.sweep ⟨1⟩).1 (ForTwo.crowded.sweep ⟨1⟩).2 :=
  ⟨⟨_, _, _, ForTwo.new_holding, ForTwo.run_calls⟩,
    sweep_exact ⟨_, _, _, ForTwo.new_holding, ForTwo.run_calls⟩ ⟨1⟩⟩

end EdgeCache.ResponseStore
