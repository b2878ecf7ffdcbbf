/-
A store in use by several tasks, in every state that any interleaving of their steps leads to.

- `perform_booked`: a step moves the counters by as much as it moves what is stored and what is on accounts.
- `perform_shardAt`: a step changes no shard but the one that its task has locked.
- `Pool.Sound`: the counters are exact but for the accounts, and every task is in line with its lock and its account.
  `step_sound`: every move keeps it; `run_sound`: so do moves in a row.
-/
import Mathlib.Algebra.BigOperators.Fin
import Mathlib.Algebra.Order.BigOperators.Group.Finset
import EdgeCache.Proofs.Store.Booking
import EdgeCache.Proofs.Store.Discipline

namespace EdgeCache.Store

open EdgeCache.Time ResponseStore

/-! ## One step of a routine -/

namespace Act

variable {α : Type} {s : ResponseStore} {shards : Nat} {held : Held}

theorem perform_frame (act : Act α) (s : ResponseStore) :
    (act.perform s).2.shards.size = s.shards.size ∧
    (act.perform s).2.budget.maxObjects = s.budget.maxObjects ∧
    (act.perform s).2.budget.maxCost = s.budget.maxCost := by
  cases act with
  | put i key entry expiry => exact ⟨size_setShard _ _ _, rfl, rfl⟩
  | takeOut i key =>
    show (s.takeOut i key).2.shards.size = _ ∧ (s.takeOut i key).2.budget.maxObjects = _ ∧
      (s.takeOut i key).2.budget.maxCost = _
    unfold ResponseStore.takeOut
    cases (s.shardAt i).remove? key with
    | none => exact ⟨rfl, rfl, rfl⟩
    | some p => exact ⟨size_setShard _ _ _, rfl, rfl⟩
  | reserveObjects n =>
    show _ ∧ ((s.budget.reserveObjects? n).getD s.budget).maxObjects = _ ∧
      ((s.budget.reserveObjects? n).getD s.budget).maxCost = _
    unfold Budget.reserveObjects?
    split_ifs <;> exact ⟨rfl, rfl, rfl⟩
  | reserveCost n =>
    show _ ∧ ((s.budget.reserveCost? n).getD s.budget).maxObjects = _ ∧
      ((s.budget.reserveCost? n).getD s.budget).maxCost = _
    unfold Budget.reserveCost?
    split_ifs <;> exact ⟨rfl, rfl, rfl⟩
  | _ => exact ⟨rfl, rfl, rfl⟩

/-- a step that is in order changes no shard but the one that is locked -/
theorem perform_shardAt {act : Act α} (horder : act.InOrder shards held) {j : Nat} (hj : held.shard? ≠ some j) :
    (act.perform s).2.shardAt j = s.shardAt j := by
  cases act with
  | put i key entry expiry =>
    have hij : i ≠ j := fun e => hj (e ▸ horder.1)
    show (s.setShard i _).shardAt j = _
    rw [shardAt_setShard, if_neg fun h => hij h.1]
  | takeOut i key =>
    have hij : i ≠ j := fun e => hj (e ▸ horder)
    show (s.takeOut i key).2.shardAt j = _
    unfold ResponseStore.takeOut
    cases (s.shardAt i).remove? key with
    | none => rfl
    | some p => exact (shardAt_setShard s i p.2 j).trans (if_neg fun h => hij h.1)
  | _ => rfl

/-- a step moves the counters by as much as it moves what is stored and what is on accounts, and no release takes a
counter below zero, if there is that much on the accounts -/
theorem perform_booked {o c : Int} (h : s.Booked o c) {act : Act α} (horder : act.InOrder s.shards.size held)
    (ho : 0 ≤ o + (act.booked (act.perform s).1).objects) (hc : 0 ≤ c + (act.booked (act.perform s).1).cost) :
    (act.perform s).2.Booked (o + (act.booked (act.perform s).1).objects)
      (c + (act.booked (act.perform s).1).cost) := by
  cases act with
  | put i key entry expiry =>
    have hput := h.put horder.2 key entry expiry
    refine hput.congr ?_ ?_
    · show _ = o + (-1 + (Account.ofTaken (((s.shardAt i).slot? key).map (·.entry))).objects)
      cases (s.shardAt i).slot? key
      · simp [Account.ofTaken]; omega
      · simp [Account.ofTaken]
    · show _ = c + (-entry.cost + (Account.ofTaken (((s.shardAt i).slot? key).map (·.entry))).cost)
      cases (s.shardAt i).slot? key
      · simp [Account.ofTaken]; omega
      · simp [Account.ofTaken]; omega
  | takeOut i key =>
    show (s.takeOut i key).2.Booked (o + (Account.ofTaken (s.takeOut i key).1).objects)
      (c + (Account.ofTaken (s.takeOut i key).1).cost)
    cases hs : (s.shardAt i).slot? key with
    | none =>
      rw [takeOut_eq_none hs]
      exact h.congr (Int.add_zero o).symm (Int.add_zero c).symm
    | some slot =>
      have htaken := h.takeOut hs
      obtain ⟨shard, -, ht⟩ := takeOut_eq_some hs
      rw [ht] at htaken ⊢
      exact htaken
  | reserveObjects n =>
    show { s with budget := (s.budget.reserveObjects? n).getD s.budget }.Booked
      (o + (if (s.budget.reserveObjects? n).isSome then ⟨n, 0⟩ else 0 : Account).objects)
      (c + (if (s.budget.reserveObjects? n).isSome then ⟨n, 0⟩ else 0 : Account).cost)
    cases hb : s.budget.reserveObjects? n with
    | none => exact h.congr (Int.add_zero o).symm (Int.add_zero c).symm
    | some b => exact (h.reserveObjects hb).congr rfl (Int.add_zero c).symm
  | reserveCost n =>
    show { s with budget := (s.budget.reserveCost? n).getD s.budget }.Booked
      (o + (if (s.budget.reserveCost? n).isSome then ⟨0, n⟩ else 0 : Account).objects)
      (c + (if (s.budget.reserveCost? n).isSome then ⟨0, n⟩ else 0 : Account).cost)
    cases hb : s.budget.reserveCost? n with
    | none => exact h.congr (Int.add_zero o).symm (Int.add_zero c).symm
    | some b => exact (h.reserveCost hb).congr (Int.add_zero o).symm rfl
  | releaseObjects n =>
    have hn : (n : Int) ≤ o := by
      have : 0 ≤ o + -n := ho
      omega
    exact (h.releaseObjects hn).congr Int.sub_eq_add_neg (Int.add_zero c).symm
  | releaseCost n =>
    have hn : (n : Int) ≤ c := by
      have : 0 ≤ c + -n := hc
      omega
    exact (h.releaseCost hn).congr (Int.add_zero o).symm Int.sub_eq_add_neg
  | touch key => exact (h.touch key).congr (Int.add_zero o).symm (Int.add_zero c).symm
  | _ => exact h.congr (Int.add_zero o).symm (Int.add_zero c).symm

theorem agrees_heldAfter (act : Act α) (s : ResponseStore) (held : Held) : Agrees (act.heldAfter s held) s := by
  cases act with
  | lock i =>
    intro j shard h
    cases h
    rfl
  | unlock i =>
    intro j shard h
    cases h
  | _ => exact held.agrees_within s

end Act

/-! ## The invariant of a pool -/

namespace Pool

variable {n : Nat} {limits : Limits} {p : Pool n}

/-- a call in progress keeps to the discipline until its end, and a task without a call holds nothing -/
def Owes (shards : Nat) (held : Held) (account : Account) : Option (Routine Reply) → Prop
  | none => held = none ∧ account = 0
  | some r => r.Balanced shards (fun _ held account => held = none ∧ account = 0) held account

/-- a task holds a lock and an account that what it has still to do accounts for -/
structure InLine (p : Pool n) (t : Fin n) (held : Held) : Prop where
  agrees : Agrees held p.store
  owns : ∀ i, p.owner i = some t ↔ held.shard? = some i
  nonneg : (p.account t).Nonneg
  owes : Owes p.store.shards.size held (p.account t) (p.rest t)

/-- what holds between moves: the counters stand at what is stored and what is on accounts, and every task is in line -/
structure Sound (limits : Limits) (p : Pool n) : Prop where
  shards_pos : 0 < p.store.shards.size
  maxObjects : p.store.budget.maxObjects = limits.maxObjects
  maxCost : p.store.budget.maxCost = limits.maxCost
  booked : p.store.Booked (∑ t, (p.account t).objects) (∑ t, (p.account t).cost)
  inLine : ∀ t, ∃ held, p.InLine t held

/-- a task with no call in progress holds nothing -/
theorem Sound.account_eq_zero (h : p.Sound limits) {t : Fin n} (hidle : p.rest t = none) : p.account t = 0 := by
  obtain ⟨held, ht⟩ := h.inLine t
  have howes := ht.owes
  rw [hidle] at howes
  exact howes.2

theorem sound_idle {fresh : ResponseStore} (h : ResponseStore.new limits = .ok fresh) :
    (idle fresh : Pool n).Sound limits := by
  have hbooked := booked_new h
  have hpos := (shaped_new h).shards_pos
  unfold ResponseStore.new at h
  split_ifs at h
  cases h
  refine ⟨hpos, rfl, rfl, ?_, fun t => ⟨none, ?_, ?_, Account.nonneg_zero, rfl, rfl⟩⟩
  · exact hbooked.congr (by simp [idle]) (by simp [idle])
  · intro i shard hi
    cases hi
  · intro i
    simp [idle, Held.shard?]

theorem sum_update (f : Account → Int) (account : Fin n → Account) (t : Fin n) (a : Account) :
    ∑ u, f (Function.update account t a u) = ∑ u, f (account u) - f (account t) + f a := by
  rw [← Finset.add_sum_erase _ (fun u => f (Function.update account t a u)) (Finset.mem_univ t),
    ← Finset.add_sum_erase _ (fun u => f (account u)) (Finset.mem_univ t)]
  have hothers : ∑ u ∈ Finset.univ.erase t, f (Function.update account t a u) =
      ∑ u ∈ Finset.univ.erase t, f (account u) := by
    apply Finset.sum_congr rfl
    intro u hu
    rw [Function.update_of_ne (Finset.ne_of_mem_erase hu)]
  rw [hothers, Function.update_self]
  omega

/-! ## Moves -/

theorem owns_ownerAfter {α : Type} {act : Act α} {t : Fin n} {held : Held} {shards : Nat}
    (howns : ∀ i, p.owner i = some t ↔ held.shard? = some i) (horder : act.InOrder shards held) (s : ResponseStore)
    (i : Nat) : p.ownerAfter t act i = some t ↔ (act.heldAfter s held).shard? = some i := by
  cases act with
  | lock j =>
    show Function.update p.owner j (some t) i = some t ↔ some j = some i
    have hnone : held = none := horder
    subst hnone
    rw [Function.update_apply]
    split_ifs with hij
    · simp [hij]
    · rw [howns i]
      simp [Held.shard?, Ne.symm hij]
  | unlock j =>
    show Function.update p.owner j none i = some t ↔ none = some i
    have hheld : held.shard? = some j := horder
    rw [Function.update_apply]
    split_ifs with hij
    · simp
    · rw [howns i, hheld]
      simp [Ne.symm hij]
  | _ => exact (howns i).trans (by rw [← held.shard?_within s]; rfl)

theorem owner_of_ne {α : Type} {act : Act α} {t u : Fin n} (hu : u ≠ t) {held : Held} {shards : Nat}
    (howns : ∀ i, p.owner i = some t ↔ held.shard? = some i) (horder : act.InOrder shards held)
    (hallows : p.allows t act = true) (i : Nat) : p.ownerAfter t act i = some u ↔ p.owner i = some u := by
  have hne : ¬some t = some u := fun h => hu (Option.some.inj h).symm
  cases act with
  | lock j =>
    show Function.update p.owner j (some t) i = some u ↔ _
    rw [Function.update_apply]
    split_ifs with hij
    · subst hij
      have hfree : p.owner i = none := Option.isNone_iff_eq_none.1 hallows
      simp [hfree, hne]
    · exact Iff.rfl
  | unlock j =>
    show Function.update p.owner j none i = some u ↔ _
    rw [Function.update_apply]
    split_ifs with hij
    · subst hij
      simp [(howns i).2 horder, hne]
    · exact Iff.rfl
  | _ => exact Iff.rfl

theorem sound_begin (h : p.Sound limits) (t : Fin n) (call : Call) (hidle : p.rest t = none) :
    Sound limits { p with rest := Function.update p.rest t (some (call.routine p.store)) } := by
  refine ⟨h.shards_pos, h.maxObjects, h.maxCost, h.booked, ?_⟩
  intro u
  obtain ⟨held, hu⟩ := h.inLine u
  refine ⟨held, hu.agrees, hu.owns, hu.nonneg, ?_⟩
  show Owes _ held (p.account u) (Function.update p.rest t _ u)
  rw [Function.update_apply]
  split_ifs with hut
  · subst hut
    have howes := hu.owes
    rw [hidle] at howes
    rw [howes.1, howes.2]
    exact Routine.balanced_routine h.shards_pos call
  · exact hu.owes

theorem sound_finish (h : p.Sound limits) (t : Fin n) {reply : Reply} (hdone : p.rest t = some (.done reply)) :
    Sound limits { p with rest := Function.update p.rest t none } := by
  refine ⟨h.shards_pos, h.maxObjects, h.maxCost, h.booked, ?_⟩
  intro u
  obtain ⟨held, hu⟩ := h.inLine u
  refine ⟨held, hu.agrees, hu.owns, hu.nonneg, ?_⟩
  show Owes _ held (p.account u) (Function.update p.rest t _ u)
  rw [Function.update_apply]
  split_ifs with hut
  · subst hut
    have howes := hu.owes
    rw [hdone] at howes
    exact howes
  · exact hu.owes

theorem sound_drift (h : p.Sound limits) (popularity : Popularity) :
    Sound limits { p with store := { p.store with popularity } } := by
  have hb := h.booked
  refine ⟨h.shards_pos, h.maxObjects, h.maxCost, ⟨hb.1, hb.2, hb.3, hb.4, hb.5⟩, ?_⟩
  intro u
  obtain ⟨held, hu⟩ := h.inLine u
  exact ⟨held, hu.agrees, hu.owns, hu.nonneg, hu.owes⟩

/-- **A step of one task.** It settles its own account, and it leaves every other task in line: the shard that one has
locked is not touched. -/
theorem sound_advance (h : p.Sound limits) (t : Fin n) {α : Type} {act : Act α} {next : α → Routine Reply}
    (hrest : p.rest t = some (.step act next)) (hallows : p.allows t act = true) :
    Sound limits
      { store := (act.perform p.store).2
        owner := p.ownerAfter t act
        rest := Function.update p.rest t (some (next (act.perform p.store).1))
        account := Function.update p.account t (p.account t + act.booked (act.perform p.store).1) } := by
  obtain ⟨held, ht⟩ := h.inLine t
  have howes := ht.owes
  rw [hrest] at howes
  obtain ⟨horder, hstep⟩ := howes
  obtain ⟨hnonneg, hnext⟩ := hstep p.store rfl ht.agrees
  obtain ⟨hsize, hobjects, hcost⟩ := act.perform_frame p.store
  -- what is on all accounts is at least what is on the account of this task
  have hsum : ∀ f : Account → Int, (∀ u, 0 ≤ f (p.account u)) → f (p.account t) ≤ ∑ u, f (p.account u) := by
    intro f hf
    exact Finset.single_le_sum (fun u _ => hf u) (Finset.mem_univ t)
  have hobjects_sum := hsum (·.objects) fun u => (h.inLine u).choose_spec.nonneg.1
  have hcost_sum := hsum (·.cost) fun u => (h.inLine u).choose_spec.nonneg.2
  have hbooked := act.perform_booked h.booked horder
    (by have := hnonneg.1; simp only [Account.objects_add] at this; omega)
    (by have := hnonneg.2; simp only [Account.cost_add] at this; omega)
  refine ⟨by rw [hsize]; exact h.shards_pos, hobjects.trans h.maxObjects, hcost.trans h.maxCost, ?_, ?_⟩
  · refine hbooked.congr ?_ ?_
    · rw [sum_update (·.objects)]
      simp only [Account.objects_add]
      omega
    · rw [sum_update (·.cost)]
      simp only [Account.cost_add]
      omega
  · intro u
    by_cases hut : u = t
    · subst hut
      refine ⟨act.heldAfter (act.perform p.store).2 held, act.agrees_heldAfter _ held,
        owns_ownerAfter ht.owns horder _, ?_, ?_⟩
      · simp only [Function.update_self]
        exact hnonneg
      · simp only [Function.update_self, hsize]
        exact hnext
    · obtain ⟨heldU, hu⟩ := h.inLine u
      refine ⟨heldU, ?_, ?_, ?_, ?_⟩
      · intro i shard hi
        -- the shard that `u` has locked is not the one that `t` has locked
        have hother : held.shard? ≠ some i := by
          intro hi'
          have h1 := (ht.owns i).2 hi'
          rw [(hu.owns i).2 (by rw [hi]; rfl)] at h1
          exact hut (Option.some.inj h1)
        exact (Act.perform_shardAt horder hother).trans (hu.agrees i shard hi)
      · intro i
        exact (owner_of_ne hut ht.owns horder hallows i).trans (hu.owns i)
      · simp only [Function.update_of_ne hut]
        exact hu.nonneg
      · simp only [Function.update_of_ne hut, hsize]
        exact hu.owes

theorem step_sound (h : p.Sound limits) (move : Move n) : (p.step move).Sound limits := by
  unfold step
  cases move with
  | begin t call =>
    simp only
    split
    · rename_i hidle; exact sound_begin h t call hidle
    · exact h
  | advance t =>
    simp only
    split
    · exact h
    · rename_i hdone; exact sound_finish h t hdone
    · rename_i hrest
      split_ifs with hallows
      · exact sound_advance h t hrest hallows
      · exact h
  | drift popularity => exact sound_drift h popularity

theorem run_sound (h : p.Sound limits) (moves : List (Move n)) : (p.run moves).Sound limits := by
  induction moves generalizing p with
  | nil => exact h
  | cons move moves ih => exact ih (step_sound h move)

end Pool

end EdgeCache.Store
