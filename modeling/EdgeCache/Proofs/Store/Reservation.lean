/-
The budget of a store in use by several tasks.

- `Pool.Accounted`: the counters are within the limits, and they stand at what is stored together with what calls in
  progress have reserved and not published, or taken out and not given back.
- `reserve_before_publish`: this holds in every state that any interleaving leads to.
- `run_making`, `run_finishing`: two tasks on the small store, and a call of one in the middle of a call of the other.
-/
import EdgeCache.Proofs.Store.Capacity
import EdgeCache.Proofs.Store.Solo

namespace EdgeCache.Store.Pool

open EdgeCache.Time ResponseStore

variable {n : Nat} {limits : Limits} {p : Pool n}

/-- the counters are within the limits, and they stand at what is stored together with what calls in progress hold -/
structure Accounted (limits : Limits) (p : Pool n) : Prop where
  objects_le : p.store.budget.objects ≤ limits.maxObjects
  cost_le : p.store.budget.cost ≤ limits.maxCost
  objects_eq : p.store.budget.objects = p.store.slotCount + ∑ t, (p.account t).objects
  cost_eq : p.store.budget.cost = p.store.slotCost + ∑ t, (p.account t).cost
  nonneg : ∀ t, (p.account t).Nonneg
  /-- only calls in progress hold anything -/
  account_eq_zero : ∀ t, p.rest t = none → p.account t = 0
  not_overdrawn : p.store.budget.overdrawn = false
  /-- with no call in progress, size and cost are exact -/
  exact_of_idle : (∀ t, p.rest t = none) → p.store.size = p.store.slotCount ∧ p.store.cost = p.store.slotCost

theorem Sound.accounted (h : p.Sound limits) : p.Accounted limits := by
  refine ⟨h.maxObjects ▸ h.booked.objects_le, h.maxCost ▸ h.booked.cost_le, h.booked.objects_eq, h.booked.cost_eq,
    fun t => (h.inLine t).choose_spec.nonneg, fun _ => h.account_eq_zero, h.booked.not_overdrawn, ?_⟩
  intro hidle
  have ho := h.booked.objects_eq
  have hc := h.booked.cost_eq
  simp only [fun t => h.account_eq_zero (hidle t), Account.objects_zero, Account.cost_zero, Finset.sum_const_zero] at ho hc
  constructor
  · unfold size; omega
  · unfold cost; omega

/-! ## One call in the middle of another -/

section Newcomer

open ResponseStore.ForTwo

/-- what is left to do for the task that stores the newcomer, once it has made room -/
def publishing : Routine Reply := do return .done (← Routine.publish 2 newcomer (filler 1) (some ⟨1⟩))

theorem leads_newcomer : ((ForTwo.put newcomer 1).routine crowded).Leads crowded publishing
    (promised left #[popular] (asked.increment newcomer)) :=
  (Routine.leads_insert (Nat.le_of_ble_eq_true rfl) slot?_crowded_newcomer reserve_newcomer).bind _

theorem solo_publishing (q : Popularity) : (publishing.solo (promised left #[popular] q)).2 = exchanged q := by
  have hslot : (promised left #[popular] q).slot? newcomer = none :=
    (slot?_promised words.2.2).trans getElem?_left_newcomer
  have hpublish := Routine.solo_publish newcomer (filler 1) (some ⟨1⟩) (promised left #[popular] q)
  rw [hslot] at hpublish
  unfold publishing
  rw [Routine.solo_bind]
  refine (congrArg Prod.snd hpublish).trans ?_
  exact publish_promised words.2.2 getElem?_left_newcomer

/-- the first task begins to store the newcomer, and does so many steps of that -/
def making (k : Nat) : List (Move 2) := .begin 0 (ForTwo.put newcomer 1) :: List.replicate k (.advance 0)

/-- the second task looks up the popular entry, and then the first one goes on -/
def finishing (l m : Nat) : List (Move 2) :=
  (.begin 1 (.get ⟨0⟩ popular) :: List.replicate l (.advance 1)) ++ List.replicate m (.advance 0)

/-- the first task gets its share, and goes on to the lock of the shard -/
theorem run_making (h : (idle crowded : Pool 2).Sound limits) : ∃ k,
    ((idle crowded).run (making k)).store = promised left #[popular] (asked.increment newcomer) ∧
    ((idle crowded).run (making k)).rest 0 = some publishing ∧ ((idle crowded).run (making k)).rest 1 = none := by
  have hbegin := step_begin (p := (idle crowded : Pool 2)) (t := 0) rfl (ForTwo.put newcomer 1)
  have hbegun := step_sound h (.begin 0 (ForTwo.put newcomer 1))
  rw [hbegin] at hbegun
  obtain ⟨k, hstore, hrest, -⟩ := run_leads leads_newcomer hbegun (fun _ _ howner => nomatch howner)
    (Function.update_self ..) rfl
  rw [← hbegin] at hstore hrest
  have hrest' : ((idle crowded).run (making k)).rest = _ := hrest
  refine ⟨k, hstore, ?_, ?_⟩
  · rw [hrest', Function.update_self]
  · rw [hrest', hbegin, Function.update_idem, Function.update_of_ne (by decide)]
    rfl

/-- at that lock it can be overtaken by a call of the second task -/
theorem run_finishing {half : Pool 2} {q : Popularity} (h : half.Sound limits)
    (hstore : half.store = promised left #[popular] q) (hfirst : half.rest 0 = some publishing)
    (hsecond : half.rest 1 = none) :
    ∃ l m, half.run (finishing l m) = idle (exchanged (q.increment popular)) := by
  have halone : half.Alone 1 := by
    refine alone_of_rest h fun u hu => .inr ?_
    obtain rfl : u = 0 := by omega
    exact ⟨_, _, hfirst⟩
  have hfound : (promised left #[popular] q).slot? popular = some (slotAt 0) :=
    (slot?_promised words.2.1).trans ((getElem?_left popular).trans (if_pos rfl))
  obtain ⟨l, hlooked, hrest⟩ := run_call_alone h halone hsecond (.get ⟨0⟩ popular)
  rw [hstore, get_perform hfound] at hlooked
  have hlater := run_sound h (.begin 1 (.get ⟨0⟩ popular) :: List.replicate l (.advance 1))
  have hfinish : ∀ m, half.run (finishing l m) = _ := fun m => run_append half _ (List.replicate m (.advance 0))
  generalize half.run (.begin 1 (.get ⟨0⟩ popular) :: List.replicate l (.advance 1)) = later
    at hlooked hrest hlater hfinish
  have halone' : later.Alone 0 := by
    refine alone_of_rest hlater fun u hu => .inl ?_
    obtain rfl : u = 1 := by omega
    rw [hrest, hsecond]
  obtain ⟨m, hpublished, hend⟩ := run_alone hlater halone' (by rw [hrest, hfirst])
  have hidle : ∀ t, (later.run (List.replicate m (.advance 0))).rest t = none := by
    intro t
    rw [hend, hrest, Function.update_apply]
    split_ifs with ht
    · rfl
    · obtain rfl : t = 1 := by omega
      exact hsecond
  refine ⟨l, m, ?_⟩
  rw [hfinish, eq_idle (run_sound hlater _) hidle, hpublished, hlooked]
  exact congrArg idle (solo_publishing _)

end Newcomer

/-- **Reserve before publish.** Positive limits give a store, and in every state that tasks which use it come to, however
their steps interleave, the counters are within the limits and stand at what is stored together with what calls in
progress have reserved and not published, or taken out and not given back. -/
theorem reserve_before_publish (limits : Limits) (ho : 0 < limits.maxObjects) (hc : 0 < limits.maxCost) :
    ∃ fresh, ResponseStore.new limits = .ok fresh ∧
      ∀ (n : Nat) (moves : List (Move n)), ((idle fresh).run moves).Accounted limits :=
  ⟨_, new_eq limits ho hc, fun _ moves => (run_sound (sound_idle (new_eq limits ho hc)) moves).accounted⟩

open ResponseStore.ForTwo in
/-- One task has made room for the newcomer and has not published it when the other task looks up an entry. In between,
the size counts an object that is on the account of the first task and in no slot. -/
theorem reserve_before_publish_halfway : 0 < 2 ∧
    ∃ fresh, ResponseStore.new ⟨2, 2, none⟩ = .ok fresh ∧ ∃ before k l m,
      (idle fresh).run before = (idle crowded : Pool 2) ∧
      ((idle fresh).run before).Accounted ⟨2, 2, none⟩ ∧
      ((idle fresh).run (before ++ making k)).store = promised left #[popular] (asked.increment newcomer) ∧
      ((idle fresh).run (before ++ making k)).store.size = 2 ∧
      ((idle fresh).run (before ++ making k)).store.slotCount = 1 ∧
      ((idle fresh).run (before ++ making k)).account 0 = ⟨1, 1⟩ ∧
      ((idle fresh).run (before ++ making k)).Accounted ⟨2, 2, none⟩ ∧
      (idle fresh).run (before ++ making k ++ finishing l m) =
        idle (exchanged ((asked.increment newcomer).increment popular)) ∧
      ((idle fresh).run (before ++ making k ++ finishing l m)).Accounted ⟨2, 2, none⟩ := by
  obtain ⟨fresh, hnew, haccounted⟩ := reserve_before_publish ⟨2, 2, none⟩ (by decide) (by decide)
  obtain rfl : holding ∅ #[] (.new 2) = fresh := Except.ok.inj (new_holding.symm.trans hnew)
  have hsound : (idle (holding ∅ #[] (.new 2)) : Pool 2).Sound _ := sound_idle hnew
  obtain ⟨before, hbefore⟩ := run_calls_alone hsound 0 calls
  rw [run_calls] at hbefore
  have hcrowded := run_sound hsound before
  rw [hbefore] at hcrowded
  obtain ⟨k, hstore, hfirst, hsecond⟩ := run_making hcrowded
  obtain ⟨l, m, hlast⟩ := run_finishing (run_sound hcrowded (making k)) hstore hfirst hsecond
  have hfilled := haccounted 2 before
  have hhalf := haccounted 2 (before ++ making k)
  have hfull := haccounted 2 (before ++ making k ++ finishing l m)
  obtain ⟨hslots, hslotCost⟩ := slotCount_left (asked.increment newcomer)
  refine ⟨by decide, _, hnew, before, k, l, m, hbefore, hfilled, ?_⟩
  rw [run_append _ (before ++ making k)] at hfull ⊢
  rw [run_append _ before, hbefore] at hhalf hfull ⊢
  -- what is neither stored nor on the account of the second task is on that of the first one
  have haccount : ((idle crowded).run (making k)).account 0 = ⟨1, 1⟩ := by
    have hobjects := hhalf.objects_eq
    have hcost := hhalf.cost_eq
    have hbudget : (promised left #[popular] (asked.increment newcomer)).budget.objects = 2 ∧
        (promised left #[popular] (asked.increment newcomer)).budget.cost = 2 := ⟨rfl, rfl⟩
    rw [hstore, Fin.sum_univ_two, hhalf.account_eq_zero 1 hsecond, hbudget.1, hslots, Account.objects_zero] at hobjects
    rw [hstore, Fin.sum_univ_two, hhalf.account_eq_zero 1 hsecond, hbudget.2, hslotCost, Account.cost_zero] at hcost
    exact Account.eq_of (by simp only; omega) (by simp only; omega)
  refine ⟨hstore, ?_, ?_, haccount, hhalf, hlast, hfull⟩
  · rw [hstore]; rfl
  · rw [hstore, hslots]

end EdgeCache.Store.Pool
