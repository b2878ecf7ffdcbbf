/-
Routines without steps of other tasks in between: each of them comes to what the call of the same name does to the store.

- `solo_insert`, `solo_get`, `solo_sweep`: the routines of the single calls.
- `solo_routine`: every call, done as a routine and alone, is the call itself.
- `Routine.Leads`: a routine done in part. `leads_insert`: storing an entry, up to where its share is reserved.
- `Pool.run_leads`: a task that is alone is never kept waiting on its way; `run_alone`: it gets to the end of its routine.
- `run_calls_alone`: so calls in a row are among what tasks can do.
-/
import EdgeCache.Store.Interleaving
import EdgeCache.Proofs.Store.Eviction
import EdgeCache.Proofs.Store.Pool

namespace EdgeCache.Store.Routine

open EdgeCache.Time EdgeCache.Freshness

variable {α β : Type}

@[simp] theorem solo_pure (a : α) (s : ResponseStore) : (pure a : Routine α).solo s = (a, s) := rfl

@[simp] theorem solo_act (a : Act α) (s : ResponseStore) : (act a).solo s = a.perform s := rfl

theorem perform_lock (i : Nat) (s : ResponseStore) : (Act.lock i).perform s = ((), s) := rfl

theorem perform_slot? (i : Nat) (key : Key) (s : ResponseStore) :
    (Act.slot? i key).perform s = ((s.shardAt i).slot? key, s) := rfl

theorem perform_reserveObjects (n : Nat) (s : ResponseStore) :
    (Act.reserveObjects n).perform s =
      ((s.budget.reserveObjects? n).isSome, { s with budget := (s.budget.reserveObjects? n).getD s.budget }) := rfl

theorem perform_reserveCost (n : Nat) (s : ResponseStore) :
    (Act.reserveCost n).perform s =
      ((s.budget.reserveCost? n).isSome, { s with budget := (s.budget.reserveCost? n).getD s.budget }) := rfl

@[simp] theorem solo_bind (r : Routine α) (f : α → Routine β) (s : ResponseStore) :
    (r >>= f).solo s = (f (r.solo s).1).solo (r.solo s).2 := by
  induction r generalizing s with
  | done a => rfl
  | step act next ih => exact ih _ _

/-! ## Taking out -/

theorem solo_drop (i : Nat) (key : Key) (s : ResponseStore) : (drop i key).solo s = s.drop i key := by
  unfold drop ResponseStore.drop
  simp only [solo_bind, solo_act, Act.perform]
  cases h : s.takeOut i key with
  | mk taken s' => cases taken <;> rfl

theorem solo_remove (key : Key) (s : ResponseStore) : (remove s.shards.size key).solo s = s.remove key := by
  unfold remove ResponseStore.remove ResponseStore.drop ResponseStore.shardOf
  simp only [solo_bind, solo_act, Act.perform]
  cases h : s.takeOut (key.word 0 % s.shards.size) key with
  | mk taken s' => cases taken <;> rfl

theorem solo_get (now : Instant) (key : Key) (s : ResponseStore) : (get s.shards.size now key).solo s = s.get now key := by
  unfold get ResponseStore.get
  simp only [solo_bind, solo_act, Act.perform]
  have hslot : (s.touch key).slot? key = ((s.touch key).shardAt (key.word 0 % s.shards.size)).slot? key := rfl
  rw [hslot]
  cases h : ((s.touch key).shardAt (key.word 0 % s.shards.size)).slot? key with
  | none => rfl
  | some slot =>
    cases hx : slot.isExpired now with
    | false => simp [hx]
    | true => simp [hx, h, Act.perform, solo_drop]; rfl

/-! ## Sweeping -/

theorem solo_dropAll (i : Nat) (keys : List Key) (n : Nat) (s : ResponseStore) :
    (dropAll i n keys).solo s =
      keys.foldl (fun (n, s) key =>
        let (found, s) := s.drop i key
        (if found then n + 1 else n, s)) (n, s) := by
  induction keys generalizing n s with
  | nil => rfl
  | cons key keys ih =>
    unfold dropAll
    rw [solo_bind, solo_drop, ih]
    rfl

theorem solo_sweep (now : Instant) (is : List Nat) (n : Nat) (s : ResponseStore) :
    (sweep now n is).solo s =
      is.foldl (fun (n, s) i =>
        let (m, s) := s.dropAll i ((s.shardAt i).expiredKeys now)
        (n + m, s)) (n, s) := by
  induction is generalizing n s with
  | nil => rfl
  | cons i is ih =>
    unfold sweep
    simp only [solo_bind, solo_act, Act.perform, solo_dropAll, ih]
    rfl

/-! ## Evicting -/

theorem solo_victim? (now : Instant) (kept : Key) (neighbours : List (Key × Slot)) (best : Option (Key × Nat))
    (s : ResponseStore) :
    (victim? now kept best neighbours).solo s = (ResponseStore.victim? s.popularity now kept best neighbours, s) := by
  induction neighbours generalizing best with
  | nil => rfl
  | cons pair rest ih =>
    obtain ⟨key, slot⟩ := pair
    unfold victim? ResponseStore.victim?
    split_ifs
    · exact ih best
    · rfl
    · simp only [solo_bind, solo_act, Act.perform]
      exact ih _

/-- the shards are tried in their order, and the first that has a victim decides -/
theorem solo_evictFrom (now : Instant) (pick : Pick) (kept : Key) (incoming : Nat) (is : List Nat) (s : ResponseStore) :
    (evictFrom now pick kept incoming is).solo s =
      match is.findSome? fun i =>
        (ResponseStore.victim? s.popularity now kept none ((s.shardAt i).sample (pick.position i))).map fun (key, n) =>
          (i, key, n) with
      | none => (.nothing, s)
      | some (i, key, n) =>
        if !((s.shardAt i).slot? key).any (·.isExpired now) ∧ incoming < n then (.refused, s)
        else (.evicted, (s.drop i key).2) := by
  induction is with
  | nil => rfl
  | cons i is ih =>
    unfold evictFrom
    rw [solo_bind, solo_bind, solo_bind, solo_victim?, List.findSome?_cons]
    simp only [solo_act, Act.perform]
    cases h : ResponseStore.victim? s.popularity now kept none ((s.shardAt i).sample (pick.position i)) with
    | none => simpa [Act.perform] using ih
    | some v =>
      obtain ⟨key, n⟩ := v
      simp only [Option.map_some]
      rw [solo_bind, solo_act, perform_slot?]
      by_cases hlive : (!((s.shardAt i).slot? key).any (·.isExpired now)) = true ∧ incoming < n
      · rw [if_pos hlive, if_pos hlive]; rfl
      · rw [if_neg hlive, if_neg hlive, solo_bind, solo_drop]; rfl

theorem solo_evict (now : Instant) (pick : Pick) (kept : Key) (incoming : Nat) (s : ResponseStore) :
    (evictFrom now pick kept incoming
      ((List.range s.shards.size).map fun i => (pick.shard + i) % s.shards.size)).solo s =
      s.evict now pick kept incoming := solo_evictFrom now pick kept incoming _ s

/-! ## Making room -/

theorem solo_tryReserve (objects cost : Nat) (s : ResponseStore) :
    (tryReserve objects cost).solo s =
      ((s.budget.reserve objects cost).1, { s with budget := (s.budget.reserve objects cost).2 }) := by
  -- to count no objects is to count what is there
  have hcounted : ((if objects = 0 then pure true else act (.reserveObjects objects)) : Routine Bool).solo s =
      (Act.reserveObjects objects).perform s := by
    split_ifs with hn
    · subst hn; rfl
    · rfl
  unfold tryReserve Budget.reserve
  rw [solo_bind, hcounted, perform_reserveObjects]
  cases s.budget.reserveObjects? objects with
  | none => rfl
  | some b =>
    simp only [Option.isSome_some, Option.getD_some, if_true]
    rw [solo_bind, solo_act, perform_reserveCost]
    simp only
    cases b.reserveCost? cost <;> rfl

theorem solo_makeRoom (readings : Nat → Instant) (picks : Nat → Pick) (key : Key) (objects cost incoming : Nat)
    (rounds idle : Nat) (s : ResponseStore) :
    (makeRoom s.shards.size readings picks key objects cost incoming rounds idle).solo s =
      s.makeRoom readings picks key objects cost incoming rounds idle := by
  generalize hsize : s.shards.size = shards
  induction rounds generalizing idle s with
  | zero => rfl
  | succ rounds ih =>
    unfold makeRoom ResponseStore.makeRoom
    rw [solo_bind, solo_tryReserve]
    cases hr : s.budget.reserve objects cost with
    | mk fits b =>
      cases fits with
      | true => rfl
      | false =>
        subst hsize
        have hevict := solo_evict (readings rounds) (picks rounds) key incoming { s with budget := b }
        simp only [Bool.false_eq_true, if_false, solo_bind]
        rw [hevict]
        cases he : { s with budget := b }.evict (readings rounds) (picks rounds) key incoming with
        | mk e t =>
          have hsize : t.shards.size = s.shards.size := by
            have := ResponseStore.size_evict { s with budget := b } (readings rounds) (picks rounds) key incoming
            rwa [he] at this
          cases e with
          | evicted => exact ih idle t hsize
          | refused => rfl
          | nothing =>
            simp only [hsize]
            split_ifs
            · rfl
            · exact ih (idle + 1) t hsize

theorem solo_reserve (readings : Nat → Instant) (picks : Nat → Pick) (key : Key) (objects cost : Nat)
    (s : ResponseStore) :
    (reserve s.shards.size readings picks key objects cost).solo s = s.reserve readings picks key objects cost := by
  unfold reserve ResponseStore.reserve
  rw [solo_bind]
  exact solo_makeRoom readings picks key objects cost _ maxEvictions 0 s

/-! ## Storing -/

theorem solo_replaceInPlace (key : Key) (entry : Entry) (expiry : Option Instant) (s : ResponseStore) :
    (replaceInPlace s.shards.size key entry expiry).solo s = s.replaceInPlace key entry expiry := by
  unfold replaceInPlace ResponseStore.replaceInPlace
  have hslot : s.slot? key = (s.shardAt (key.word 0 % s.shards.size)).slot? key := rfl
  simp only [solo_bind, solo_act, Act.perform, hslot]
  cases h : (s.shardAt (key.word 0 % s.shards.size)).slot? key with
  | none => rfl
  | some slot =>
    simp only
    by_cases hlt : slot.entry.cost < entry.cost
    · rw [if_pos hlt, if_pos hlt, solo_bind, solo_tryReserve]
      cases hr : s.budget.reserve 0 (entry.cost - slot.entry.cost) with
      | mk fits b => cases fits <;> rfl
    · rw [if_neg hlt, if_neg hlt, solo_bind]
      by_cases hlt' : entry.cost < slot.entry.cost
      · simp only [if_pos hlt']; rfl
      · simp only [if_neg hlt']; rfl

theorem solo_grow (readings : Nat → Instant) (picks : Nat → Pick) (key : Key) (entry : Entry)
    (expiry : Option Instant) (old : Nat) (s : ResponseStore) :
    (grow s.shards.size readings picks key entry expiry old).solo s = s.grow readings picks key entry expiry old := by
  unfold grow ResponseStore.grow
  have hsize := ResponseStore.size_reserve s readings picks key 0 (entry.cost - old)
  simp only [solo_bind, solo_reserve]
  cases hr : s.reserve readings picks key 0 (entry.cost - old) with
  | mk room t =>
    rw [hr] at hsize
    cases room with
    | false => rfl
    | true =>
      have hslot : t.slot? key = (t.shardAt (key.word 0 % s.shards.size)).slot? key := by
        rw [← hsize]; rfl
      simp only [if_true, hslot]
      rw [solo_bind, solo_act, perform_lock, solo_bind, solo_act, perform_slot?]
      by_cases hold : ((t.shardAt (key.word 0 % s.shards.size)).slot? key).any (·.entry.cost = old) = true
      · rw [if_pos hold, if_pos hold, ← hsize]; rfl
      · rw [if_neg hold, if_neg hold]; rfl

/-- what is left of introducing an entry once its share is reserved -/
def publish (shards : Nat) (key : Key) (entry : Entry) (expiry : Option Instant) : Routine Bool := do
  let i := key.word 0 % shards
  act (.lock i)
  let replaced ← act (.put i key entry expiry)
  act (.unlock i)
  match replaced with
  | some old =>
    release old.cost
    return true
  | none => return true

theorem introduce_eq (shards : Nat) (readings : Nat → Instant) (picks : Nat → Pick) (key : Key) (entry : Entry)
    (expiry : Option Instant) :
    introduce shards readings picks key entry expiry = do
      if ← reserve shards readings picks key 1 entry.cost then publish shards key entry expiry else return false := rfl

theorem solo_publish (key : Key) (entry : Entry) (expiry : Option Instant) (s : ResponseStore) :
    (publish s.shards.size key entry expiry).solo s =
      match s.slot? key with
      | some old =>
        (true, { s.publish key entry expiry with
          budget := (s.publish key entry expiry).budget.release old.entry.cost })
      | none => (true, s.publish key entry expiry) := by
  have hslot : s.slot? key = (s.shardAt (key.word 0 % s.shards.size)).slot? key := rfl
  unfold publish
  simp only [solo_bind, solo_act, Act.perform, hslot]
  cases (s.shardAt (key.word 0 % s.shards.size)).slot? key <;> rfl

theorem solo_introduce (readings : Nat → Instant) (picks : Nat → Pick) (key : Key) (entry : Entry)
    (expiry : Option Instant) (s : ResponseStore) :
    (introduce s.shards.size readings picks key entry expiry).solo s = s.introduce readings picks key entry expiry := by
  have hsize := ResponseStore.size_reserve s readings picks key 1 entry.cost
  rw [introduce_eq, solo_bind, solo_reserve]
  unfold ResponseStore.introduce
  cases hr : s.reserve readings picks key 1 entry.cost with
  | mk room t =>
    rw [hr] at hsize
    cases room with
    | false => rfl
    | true =>
      simp only [if_true]
      rw [← hsize]
      exact solo_publish key entry expiry t

theorem size_replaceInPlace (key : Key) (entry : Entry) (expiry : Option Instant) (s : ResponseStore) :
    (s.replaceInPlace key entry expiry).2.shards.size = s.shards.size := by
  unfold ResponseStore.replaceInPlace
  cases s.slot? key with
  | none => rfl
  | some slot =>
    simp only
    split_ifs
    · cases s.budget.reserve 0 (entry.cost - slot.entry.cost) with
      | mk fits b =>
        cases fits
        · rfl
        · exact ResponseStore.size_setShard _ _ _
    · exact ResponseStore.size_setShard _ _ _
    · exact ResponseStore.size_setShard _ _ _

theorem solo_insert (now : Instant) (readings : Nat → Instant) (picks : Nat → Pick) (key : Key) (entry : Entry)
    (lifetime : Option Span) (s : ResponseStore) :
    (insert s.shards.size s.budget.maxCost now readings picks key entry lifetime).solo s =
      s.insert now picks key entry lifetime readings := by
  unfold insert ResponseStore.insert
  rw [solo_bind]
  show (if s.budget.maxCost < entry.cost then (pure false : Routine Bool) else _).solo (s.touch key) =
    if s.budget.maxCost < entry.cost then _ else _
  split_ifs
  · rfl
  · have hreplace : (replaceInPlace s.shards.size key entry (lifetime.bind now.after?)).solo (s.touch key) =
        (s.touch key).replaceInPlace key entry (lifetime.bind now.after?) := solo_replaceInPlace key entry _ _
    have hsize := size_replaceInPlace key entry (lifetime.bind now.after?) (s.touch key)
    simp only [solo_bind, hreplace]
    cases hr : (s.touch key).replaceInPlace key entry (lifetime.bind now.after?) with
    | mk result t =>
      rw [hr] at hsize
      have hsize' : s.shards.size = t.shards.size := hsize.symm
      rw [hsize']
      cases result with
      | done => rfl
      | needsRoom old => exact solo_grow readings picks key entry _ old t
      | absent => exact solo_introduce readings picks key entry _ t

/-! ## Calls -/

/-- **Routines do what calls do.** A call that is done step by step, with no steps of others in between, is the call. -/
theorem solo_routine (call : Call) (s : ResponseStore) : (call.routine s).solo s = call.perform s := by
  cases call with
  | get now key =>
    show ((get _ now key) >>= _).solo s = _
    rw [solo_bind, solo_get]
    rfl
  | set clock readings picks key entry =>
    unfold Call.routine Call.perform ResponseStore.set
    simp only
    cases Decision.ofHeader entry.header clock.moment with
    | forbidden => rfl
    | unspecified =>
      simp only
      rw [solo_bind, solo_insert]
      rfl
    | lifetime span =>
      simp only
      rw [solo_bind, solo_insert]
      rfl
  | setFor now readings picks key entry lifetime =>
    show ((insert _ _ now readings picks key entry (some lifetime)) >>= _).solo s = _
    rw [solo_bind, solo_insert]
    rfl
  | remove key =>
    show ((remove _ key) >>= _).solo s = _
    rw [solo_bind, solo_remove]
    rfl
  | sweep now =>
    show ((sweep now 0 _) >>= _).solo s = _
    rw [solo_bind, solo_sweep]
    rfl

/-! ## Part of the way -/

/-- steps of `r` from `s`, with no steps of others in between, come to where `r'` is left to do and the store is `s'` -/
inductive Leads {α : Type} : Routine α → ResponseStore → Routine α → ResponseStore → Prop where
  | refl (r : Routine α) (s : ResponseStore) : Leads r s r s
  | step {β : Type} {act : Act β} {next : β → Routine α} {s s' : ResponseStore} {r' : Routine α}
      (rest : Leads (next (act.perform s).1) (act.perform s).2 r' s') : Leads (.step act next) s r' s'

section Leads

variable {r r' r'' : Routine α} {s s' s'' : ResponseStore}

theorem Leads.trans (h : r.Leads s r' s') (h' : r'.Leads s' r'' s'') : r.Leads s r'' s'' := by
  induction h with
  | refl r s => exact h'
  | step rest ih => exact .step (ih h')

/-- what follows is still to be done -/
theorem Leads.bind (h : r.Leads s r' s') (f : α → Routine β) : (r >>= f).Leads s (r' >>= f) s' := by
  induction h with
  | refl r s => exact .refl _ s
  | step rest ih => exact .step ih

/-- the first of two routines leads to the second one -/
theorem leads_bind (r : Routine α) (f : α → Routine β) (s : ResponseStore) :
    (r >>= f).Leads s (f (r.solo s).1) (r.solo s).2 := by
  induction r generalizing s with
  | done a => exact .refl _ s
  | step act next ih => exact .step (ih _ _)

theorem leads_done (r : Routine α) (s : ResponseStore) : r.Leads s (.done (r.solo s).1) (r.solo s).2 := by
  induction r generalizing s with
  | done a => exact .refl _ s
  | step act next ih => exact .step (ih _ _)

/-- storing an absent entry for which room can be made, up to where its share is reserved and it is not yet written -/
theorem leads_insert {t : ResponseStore} {now : Instant} {readings : Nat → Instant} {picks : Nat → Pick} {key : Key}
    {entry : Entry} {lifetime : Option Span} (hcost : entry.cost ≤ s.budget.maxCost) (hslot : s.slot? key = none)
    (hroom : (s.touch key).reserve readings picks key 1 entry.cost = (true, t)) :
    (insert s.shards.size s.budget.maxCost now readings picks key entry lifetime).Leads s
      (publish s.shards.size key entry (lifetime.bind now.after?)) t := by
  have hslot' : (s.touch key).slot? key = none := hslot
  have habsent : (replaceInPlace s.shards.size key entry (lifetime.bind now.after?)).solo (s.touch key) =
      (.absent, s.touch key) := by
    refine (solo_replaceInPlace key entry (lifetime.bind now.after?) (s.touch key)).trans ?_
    simp only [ResponseStore.replaceInPlace, hslot']
  have hreserved : (reserve s.shards.size readings picks key 1 entry.cost).solo (s.touch key) = (true, t) :=
    (solo_reserve readings picks key 1 entry.cost (s.touch key)).trans hroom
  unfold insert
  refine (leads_bind _ _ s).trans ?_
  rw [if_neg (Nat.not_lt.2 hcost)]
  refine (leads_bind _ _ (s.touch key)).trans ?_
  rw [habsent]
  simp only [introduce_eq]
  have hlead := leads_bind (reserve s.shards.size readings picks key 1 entry.cost)
    (fun room => if room then publish s.shards.size key entry (lifetime.bind now.after?) else pure false) (s.touch key)
  rw [hreserved] at hlead
  exact hlead

end Leads

end EdgeCache.Store.Routine

namespace EdgeCache.Store.Pool

open EdgeCache.Time

variable {n : Nat} {limits : Limits} {p : Pool n}

/-! ## A task alone -/

/-- no task but `t` holds a lock -/
def Alone (p : Pool n) (t : Fin n) : Prop := ∀ i u, p.owner i = some u → u = t

/-- with no locks of other tasks about, every step that keeps to the discipline is allowed -/
theorem allows_of_alone {t : Fin n} (halone : p.Alone t) {held : Held} (howns : ∀ i, p.owner i = some t ↔ held.shard? = some i)
    {α : Type} {act : Act α} {shards : Nat} (horder : act.InOrder shards held) : p.allows t act = true := by
  have hfree : ∀ i, (p.owner i).all (· = t) = true := by
    intro i
    cases ho : p.owner i with
    | none => rfl
    | some u => simp [halone i u ho]
  have hnone : held = none → ∀ i, p.owner i = none := by
    intro hheld i
    cases ho : p.owner i with
    | none => rfl
    | some u =>
      have hu := halone i u ho
      subst hu
      rw [howns i, hheld] at ho
      cases ho
  cases act with
  | lock i => exact Option.isNone_iff_eq_none.2 (hnone horder i)
  | slot? i key => exact hfree i
  | sample i position => exact hfree i
  | expiredKeys i now => exact hfree i
  | put i key entry expiry => exact hfree i
  | takeOut i key => exact hfree i
  | _ => rfl

theorem alone_ownerAfter {t : Fin n} (halone : p.Alone t) {α : Type} (act : Act α) (i : Nat) (u : Fin n)
    (hu : p.ownerAfter t act i = some u) : u = t := by
  cases act with
  | lock j =>
    have hu' : Function.update p.owner j (some t) i = some u := hu
    rw [Function.update_apply] at hu'
    split_ifs at hu'
    · exact (Option.some.inj hu').symm
    · exact halone i u hu'
  | unlock j =>
    have hu' : Function.update p.owner j none i = some u := hu
    rw [Function.update_apply] at hu'
    split_ifs at hu'
    exact halone i u hu'
  | _ => exact halone i u hu

/-- a task that has no call in progress, or is about to take a lock, holds none -/
theorem owner_ne (h : p.Sound limits) {t : Fin n}
    (ht : p.rest t = none ∨ ∃ i next, p.rest t = some (.step (.lock i) next)) (i : Nat) : p.owner i ≠ some t := by
  obtain ⟨held, hline⟩ := h.inLine t
  have howes := hline.owes
  have hheld : held = none := by
    rcases ht with hrest | ⟨j, next, hrest⟩
    · rw [hrest] at howes
      exact howes.1
    · rw [hrest] at howes
      exact howes.1
  intro howner
  have hshard := (hline.owns i).1 howner
  rw [hheld] at hshard
  cases hshard

theorem alone_of_rest (h : p.Sound limits) {t : Fin n}
    (hothers : ∀ u ≠ t, p.rest u = none ∨ ∃ i next, p.rest u = some (.step (.lock i) next)) : p.Alone t := by
  intro i u howner
  by_contra hne
  exact owner_ne h (hothers u hne) i howner

theorem run_append (p : Pool n) (moves moves' : List (Move n)) : p.run (moves ++ moves') = (p.run moves).run moves' :=
  List.foldl_append

/-- **A task that is alone goes its way**: nothing keeps it from the steps of its routine, and nothing else changes. -/
theorem run_leads {t : Fin n} {r r' : Routine Reply} {s s' : ResponseStore} (hlead : r.Leads s r' s')
    (h : p.Sound limits) (halone : p.Alone t) (hrest : p.rest t = some r) (hstore : p.store = s) :
    ∃ k, (p.run (List.replicate k (.advance t))).store = s' ∧
      (p.run (List.replicate k (.advance t))).rest = Function.update p.rest t (some r') ∧
      (p.run (List.replicate k (.advance t))).Alone t := by
  induction hlead generalizing p with
  | refl r s => exact ⟨0, hstore, (Function.update_eq_self_iff.2 hrest.symm).symm, halone⟩
  | @step _ act next s s' r' _ ih =>
    subst hstore
    obtain ⟨held, ht⟩ := h.inLine t
    have howes := ht.owes
    rw [hrest] at howes
    have hallows := allows_of_alone halone ht.owns howes.1
    have hnext := sound_advance h t hrest hallows
    have hstep : p.step (.advance t) =
        { store := (act.perform p.store).2
          owner := p.ownerAfter t act
          rest := Function.update p.rest t (some (next (act.perform p.store).1))
          account := Function.update p.account t (p.account t + act.booked (act.perform p.store).1) } := by
      unfold step
      simp only [hrest, hallows, if_true]
    obtain ⟨k, hstore, hend, halone'⟩ :=
      ih hnext (alone_ownerAfter halone act) (Function.update_self ..) rfl
    rw [← hstep] at hstore hend halone'
    refine ⟨k + 1, hstore, hend.trans ?_, halone'⟩
    rw [hstep]
    exact Function.update_idem _ _ _

/-- **A task that is alone gets to its end**, and what it did by then is the routine done at one go. -/
theorem run_alone {t : Fin n} {r : Routine Reply} (h : p.Sound limits) (halone : p.Alone t) (hrest : p.rest t = some r) :
    ∃ k, (p.run (List.replicate k (.advance t))).store = (r.solo p.store).2 ∧
      (p.run (List.replicate k (.advance t))).rest = Function.update p.rest t none := by
  obtain ⟨k, hstore, hend, -⟩ := run_leads (Routine.leads_done r p.store) h halone hrest rfl
  refine ⟨k + 1, ?_⟩
  rw [List.replicate_succ', run_append]
  generalize p.run (List.replicate k (.advance t)) = q at hstore hend
  have hdone : q.rest t = some (.done (r.solo p.store).1) := by rw [hend, Function.update_self]
  have hlast : q.step (.advance t) = { q with rest := Function.update q.rest t none } := by
    unfold step
    simp only [hdone]
  show (q.step (.advance t)).store = _ ∧ (q.step (.advance t)).rest = _
  rw [hlast]
  exact ⟨hstore, by simp only [hend, Function.update_idem]⟩

theorem step_begin {t : Fin n} (hidle : p.rest t = none) (call : Call) :
    p.step (.begin t call) = { p with rest := Function.update p.rest t (some (call.routine p.store)) } := by
  unfold step
  simp only [hidle]

/-- a call of a task that is alone does to the store what the call does, and is not in progress any more after it -/
theorem run_call_alone {t : Fin n} (h : p.Sound limits) (halone : p.Alone t) (hidle : p.rest t = none) (call : Call) :
    ∃ k, (p.run (.begin t call :: List.replicate k (.advance t))).store = (call.perform p.store).2 ∧
      (p.run (.begin t call :: List.replicate k (.advance t))).rest = p.rest := by
  have hbegin := step_begin hidle call
  have hsound := step_sound h (.begin t call)
  rw [hbegin] at hsound
  obtain ⟨k, hstore, hend⟩ := run_alone hsound halone (Function.update_self ..)
  rw [← hbegin] at hstore hend
  refine ⟨k, hstore.trans ?_, hend.trans ?_⟩
  · rw [hbegin]
    exact congrArg Prod.snd (Routine.solo_routine call p.store)
  · rw [hbegin]
    simp only [Function.update_idem]
    exact Function.update_eq_self_iff.2 hidle.symm

/-! ## Calls in a row -/

theorem eq_idle (h : p.Sound limits) (hidle : ∀ t, p.rest t = none) : p = idle p.store := by
  have howners : ∀ i, p.owner i = none := fun i =>
    Option.eq_none_iff_forall_ne_some.2 fun t => owner_ne h (.inl (hidle t)) i
  obtain ⟨store, owner, rest, account⟩ := p
  have howner : owner = fun _ => none := funext howners
  have hrest : rest = fun _ => none := funext hidle
  have haccount : account = fun _ => 0 := funext fun t => h.account_eq_zero (hidle t)
  subst howner hrest haccount
  rfl

theorem run_calls_alone {s : ResponseStore} (h : (idle s : Pool n).Sound limits) (t : Fin n) (calls : List Call) :
    ∃ moves, (idle s).run moves = (idle (s.run calls) : Pool n) := by
  induction calls generalizing s with
  | nil => exact ⟨[], rfl⟩
  | cons call calls ih =>
    obtain ⟨k, hstore, hrest⟩ := run_call_alone h (alone_of_rest h fun u _ => .inl rfl) rfl call
    have hsound := run_sound h (.begin t call :: List.replicate k (.advance t))
    have hdone := eq_idle hsound fun u => congrFun hrest u
    rw [hstore] at hdone
    rw [hdone] at hsound
    obtain ⟨moves, hmoves⟩ := ih hsound
    exact ⟨_, (run_append _ _ moves).trans (by rw [hdone, hmoves]; rfl)⟩

end EdgeCache.Store.Pool
