/-
Where keys are, in every state that tasks bring a store to.

- `Routine.AtHome`: a routine writes every key to the shard of that key. `atHome_routine`: every call does.
- `Pool.step_tidy`, `Pool.run_tidy`: so the shards stay in shape, however the steps of tasks interleave.
- `Reachable.arises`: what calls in a row lead to is among what tasks bring a store to.
- `Shard.removes_of_dense`: a key is taken out at a place that is there, and no other key goes with it.
- `keys_placed`: in each of these states, the list of a shard has exactly the keys of its slots, each once and where its
  slot says, and all keys of the store are in their own shards, each in one only.
-/
import EdgeCache.Proofs.Store.Capacity
import EdgeCache.Proofs.Store.Solo

namespace EdgeCache.Store

open EdgeCache.Time EdgeCache.Freshness

/-! ## Routines write keys to their own shards -/

/-- a step writes a key to no shard but its own -/
def Act.AtHome {α : Type} (shards : Nat) : Act α → Prop
  | .put i key _ _ => i = key.word 0 % shards
  | _ => True

namespace Routine

variable {α β : Type} {shards : Nat}

/-- every step does, whatever the answers are -/
def AtHome (shards : Nat) : Routine α → Prop
  | .done _ => True
  | .step act next => act.AtHome shards ∧ ∀ answer, (next answer).AtHome shards

theorem atHome_pure (a : α) : (pure a : Routine α).AtHome shards := trivial

theorem atHome_step {a : Act α} {f : α → Routine β} (ha : a.AtHome shards) (hf : ∀ answer, (f answer).AtHome shards) :
    (act a >>= f).AtHome shards := ⟨ha, hf⟩

theorem atHome_bind {r : Routine α} {f : α → Routine β} (hr : r.AtHome shards) (hf : ∀ a, (f a).AtHome shards) :
    (r >>= f).AtHome shards := by
  induction r with
  | done a => exact hf a
  | step act next ih => exact ⟨hr.1, fun answer => ih answer (hr.2 answer)⟩

theorem atHome_release (cost : Nat) : (release cost).AtHome shards :=
  atHome_step trivial fun _ => atHome_step trivial atHome_pure

theorem atHome_drop (i : Nat) (key : Key) : (drop i key).AtHome shards := by
  refine atHome_step trivial ?_
  intro taken
  cases taken with
  | none => exact atHome_pure false
  | some entry => exact atHome_bind (atHome_release entry.cost) fun _ => atHome_pure true

theorem atHome_get (now : Instant) (key : Key) : (get shards now key).AtHome shards := by
  refine atHome_step trivial fun _ => atHome_step trivial ?_
  intro slot
  cases slot with
  | none => exact atHome_pure none
  | some slot =>
    simp only
    split_ifs
    · refine atHome_step trivial fun _ => atHome_step trivial ?_
      intro again
      split_ifs
      · exact atHome_bind (atHome_drop _ key) fun _ => atHome_step trivial fun _ => atHome_pure none
      · exact atHome_step trivial fun _ => atHome_pure none
    · exact atHome_pure _

theorem atHome_remove (key : Key) : (remove shards key).AtHome shards := by
  refine atHome_step trivial fun _ => atHome_step trivial fun taken => atHome_step trivial fun _ => ?_
  cases taken with
  | none => exact atHome_pure false
  | some entry => exact atHome_bind (atHome_release entry.cost) fun _ => atHome_pure true

theorem atHome_dropAll (i n : Nat) (keys : List Key) : (dropAll i n keys).AtHome shards := by
  induction keys generalizing n with
  | nil => exact atHome_pure n
  | cons key keys ih => exact atHome_bind (atHome_drop i key) fun _ => ih _

theorem atHome_sweep (now : Instant) (n : Nat) (is : List Nat) : (sweep now n is).AtHome shards := by
  induction is generalizing n with
  | nil => exact atHome_pure n
  | cons i is ih =>
    refine atHome_step trivial fun _ => atHome_step trivial fun keys => ?_
    exact atHome_bind (atHome_dropAll i 0 keys) fun _ => atHome_step trivial fun _ => ih _

theorem atHome_victim? (now : Instant) (kept : Key) (best : Option (Key × Nat)) (neighbours : List (Key × Slot)) :
    (victim? now kept best neighbours).AtHome shards := by
  induction neighbours generalizing best with
  | nil => exact atHome_pure best
  | cons pair rest ih =>
    obtain ⟨key, slot⟩ := pair
    unfold victim?
    split_ifs
    · exact ih best
    · exact atHome_pure _
    · exact atHome_step trivial fun _ => ih _

theorem atHome_evictFrom (now : Instant) (pick : Pick) (kept : Key) (incoming : Nat) (is : List Nat) :
    (evictFrom now pick kept incoming is).AtHome shards := by
  induction is with
  | nil => exact atHome_pure _
  | cons i is ih =>
    refine atHome_step trivial fun _ => atHome_step trivial fun neighbours => ?_
    refine atHome_bind (atHome_victim? now kept none neighbours) fun v => ?_
    cases v with
    | none => exact atHome_step trivial fun _ => ih
    | some v =>
      refine atHome_step trivial fun slot => ?_
      split_ifs
      · exact atHome_step trivial fun _ => atHome_pure _
      · exact atHome_bind (atHome_drop i v.1) fun _ => atHome_step trivial fun _ => atHome_pure _

theorem atHome_tryReserve (objects cost : Nat) : (tryReserve objects cost).AtHome shards := by
  have hcounted : ((if objects = 0 then pure true else act (.reserveObjects objects)) : Routine Bool).AtHome
      shards := by
    split_ifs
    · exact atHome_pure true
    · exact ⟨trivial, atHome_pure⟩
  refine atHome_bind hcounted fun counted => ?_
  split_ifs
  · refine atHome_step trivial fun paid => ?_
    split_ifs
    · exact atHome_pure true
    · exact atHome_step trivial fun _ => atHome_pure false
  · exact atHome_pure false

theorem atHome_makeRoom (readings : Nat → Instant) (picks : Nat → Pick) (key : Key)
    (objects cost incoming rounds idle : Nat) :
    (makeRoom shards readings picks key objects cost incoming rounds idle).AtHome shards := by
  induction rounds generalizing idle with
  | zero => exact atHome_pure false
  | succ rounds ih =>
    refine atHome_bind (atHome_tryReserve objects cost) fun room => ?_
    cases room with
    | true => exact atHome_pure true
    | false =>
      refine atHome_bind (atHome_evictFrom (readings rounds) (picks rounds) key incoming _) fun e => ?_
      cases e with
      | evicted => exact ih idle
      | refused => exact atHome_pure false
      | nothing =>
        simp only
        split_ifs
        · exact atHome_pure false
        · exact ih (idle + 1)

theorem atHome_reserve (readings : Nat → Instant) (picks : Nat → Pick) (key : Key) (objects cost : Nat) :
    (reserve shards readings picks key objects cost).AtHome shards :=
  atHome_step trivial fun _ => atHome_makeRoom ..

theorem atHome_replaceInPlace (key : Key) (entry : Entry) (expiry : Option Instant) :
    (replaceInPlace shards key entry expiry).AtHome shards := by
  refine atHome_step trivial fun _ => atHome_step trivial fun slot => ?_
  cases slot with
  | none => exact atHome_step trivial fun _ => atHome_pure _
  | some slot =>
    simp only
    split_ifs
    · refine atHome_bind (atHome_tryReserve ..) fun room => ?_
      split_ifs
      · exact atHome_step rfl fun _ => atHome_step trivial fun _ => atHome_pure _
      · exact atHome_step trivial fun _ => atHome_pure _
    · exact atHome_step rfl fun _ => atHome_step trivial fun _ => atHome_step trivial fun _ => atHome_pure _
    · exact atHome_step rfl fun _ => atHome_step trivial fun _ => atHome_pure _

theorem atHome_grow (readings : Nat → Instant) (picks : Nat → Pick) (key : Key) (entry : Entry)
    (expiry : Option Instant) (old : Nat) : (grow shards readings picks key entry expiry old).AtHome shards := by
  refine atHome_bind (atHome_reserve ..) fun room => ?_
  split_ifs
  · refine atHome_step trivial fun _ => atHome_step trivial fun slot => ?_
    split_ifs
    · exact atHome_step rfl fun _ => atHome_step trivial fun _ => atHome_pure true
    · exact atHome_step trivial fun _ => atHome_step trivial fun _ => atHome_pure false
  · exact atHome_pure false

theorem atHome_introduce (readings : Nat → Instant) (picks : Nat → Pick) (key : Key) (entry : Entry)
    (expiry : Option Instant) : (introduce shards readings picks key entry expiry).AtHome shards := by
  refine atHome_bind (atHome_reserve ..) fun room => ?_
  split_ifs
  · refine atHome_step trivial fun _ => atHome_step rfl fun replaced => atHome_step trivial fun _ => ?_
    cases replaced with
    | none => exact atHome_pure true
    | some old => exact atHome_bind (atHome_release old.cost) fun _ => atHome_pure true
  · exact atHome_pure false

theorem atHome_insert (maxCost : Nat) (now : Instant) (readings : Nat → Instant) (picks : Nat → Pick) (key : Key)
    (entry : Entry) (lifetime : Option Span) :
    (insert shards maxCost now readings picks key entry lifetime).AtHome shards := by
  refine atHome_step trivial fun _ => ?_
  split_ifs
  · exact atHome_pure false
  · refine atHome_bind (atHome_replaceInPlace ..) fun result => ?_
    cases result with
    | done => exact atHome_pure true
    | needsRoom old => exact atHome_grow ..
    | absent => exact atHome_introduce ..

theorem atHome_routine (s : ResponseStore) (call : Call) : (call.routine s).AtHome s.shards.size := by
  cases call with
  | get now key => exact atHome_bind (atHome_get now key) fun _ => atHome_pure _
  | set clock readings picks key entry =>
    unfold Call.routine
    simp only
    cases Decision.ofHeader entry.header clock.moment with
    | forbidden => exact atHome_pure _
    | unspecified => exact atHome_bind (atHome_insert ..) fun _ => atHome_pure _
    | lifetime span => exact atHome_bind (atHome_insert ..) fun _ => atHome_pure _
  | setFor now readings picks key entry lifetime => exact atHome_bind (atHome_insert ..) fun _ => atHome_pure _
  | remove key => exact atHome_bind (atHome_remove key) fun _ => atHome_pure _
  | sweep now => exact atHome_bind (atHome_sweep ..) fun _ => atHome_pure _

end Routine

/-! ## Tasks keep the shards in shape -/

namespace Act

variable {α : Type} {s : ResponseStore}

theorem perform_shaped (h : s.Shaped) {act : Act α} (hact : act.AtHome s.shards.size) : (act.perform s).2.Shaped := by
  cases act with
  | put i key entry expiry => exact h.put hact.symm entry expiry
  | takeOut i key => exact h.takeOut i key
  | _ => exact h.congr rfl

end Act

namespace Pool

open ResponseStore

variable {n : Nat} {limits : Limits} {p : Pool n}

/-- the shards are in shape, their number is a power of two, and what tasks have still to do keeps them in shape -/
structure Tidy (p : Pool n) : Prop where
  shaped : p.store.Shaped
  shards : ∃ k, p.store.shards.size = 2 ^ k
  atHome : ∀ t r, p.rest t = some r → r.AtHome p.store.shards.size

theorem tidy_idle {fresh : ResponseStore} (h : ResponseStore.new limits = .ok fresh) : (idle fresh : Pool n).Tidy := by
  refine ⟨shaped_new h, ?_, fun t r hr => by cases hr⟩
  unfold ResponseStore.new at h
  split_ifs at h
  cases h
  obtain ⟨k, hk⟩ := Nat.isPowerOfTwo_nextPowerOfTwo (min limits.maxObjects maxShards)
  exact ⟨k, by simpa [idle] using hk⟩

theorem step_tidy (h : p.Tidy) (move : Move n) : (p.step move).Tidy := by
  -- what a task has still to do after it is replaced
  have hrest : ∀ {shards : Nat} {t : Fin n} {next : Option (Routine Reply)},
      (∀ u r, p.rest u = some r → r.AtHome shards) → (∀ r, next = some r → r.AtHome shards) →
      ∀ u r, Function.update p.rest t next u = some r → r.AtHome shards := by
    intro shards t next hothers hnext u r hr
    rw [Function.update_apply] at hr
    split_ifs at hr
    · exact hnext r hr
    · exact hothers u r hr
  unfold step
  cases move with
  | begin t call =>
    simp only
    split
    · refine ⟨h.shaped, h.shards, hrest h.atHome ?_⟩
      rintro r ⟨⟩
      exact Routine.atHome_routine p.store call
    · exact h
  | advance t =>
    simp only
    split
    · exact h
    · refine ⟨h.shaped, h.shards, hrest h.atHome ?_⟩
      rintro r ⟨⟩
    · next act next hnow =>
      split_ifs
      · have hact := h.atHome t _ hnow
        have hsize := (act.perform_frame p.store).1
        refine ⟨act.perform_shaped h.shaped hact.1, by rw [hsize]; exact h.shards, ?_⟩
        simp only [hsize]
        refine hrest h.atHome ?_
        rintro r ⟨⟩
        exact hact.2 _
      · exact h
  | drift popularity => exact ⟨h.shaped.congr rfl, h.shards, h.atHome⟩

theorem run_tidy (h : p.Tidy) (moves : List (Move n)) : (p.run moves).Tidy := by
  induction moves generalizing p with
  | nil => exact h
  | cons move moves ih => exact ih (step_tidy h move)

end Pool

end EdgeCache.Store

namespace EdgeCache.Store.Shard

open EdgeCache.Time

variable {s s' : Shard} {key : Key} {entry : Entry}

/-! ## One shard -/

theorem Dense.nodup_keys (h : s.Dense) : s.keys.toList.Nodup := by
  rw [List.nodup_iff_getElem?_ne_getElem?]
  intro i j hij hj heq
  rw [Array.getElem?_toList, Array.getElem?_toList] at heq
  have hlt : j < s.keys.size := by simpa using hj
  have hkey : s.keys[j]? = some s.keys[j] := Array.getElem?_eq_getElem hlt
  have hsame := h.place_unique (heq.trans hkey) hkey
  omega

/-- `s'` is `s` without a key, which held an entry -/
structure Removes (s : Shard) (key : Key) (entry : Entry) (s' : Shard) : Prop where
  /-- the key is taken from the place that its slot knows, and it stands there -/
  place : ∃ slot, s.slot? key = some slot ∧ slot.entry = entry ∧ s.keys[slot.place]? = some key
  /-- it is the only key that goes -/
  keys : s'.keys.toList.Perm (s.keys.toList.erase key)
  /-- and what is stored under the others stays -/
  content : ∀ k, (s'.slot? k).map (·.content) = if k = key then none else (s.slot? k).map (·.content)

theorem removes_of_dense (h : s.Dense) (hr : s.remove? key = some (entry, s')) : s.Removes key entry s' := by
  have hcontent := content_of_remove? hr
  have h' := dense_remove? h hr
  obtain ⟨slot, hslot, he, -⟩ := remove?_eq_some hr
  refine ⟨⟨slot, hslot, he, (h slot.place key).2 (by rw [hslot]; rfl)⟩, ?_, hcontent⟩
  refine (List.perm_ext_iff_of_nodup h'.nodup_keys (h.nodup_keys.erase key)).2 fun k => ?_
  rw [h.nodup_keys.mem_erase_iff, Array.mem_toList_iff, Array.mem_toList_iff, h'.mem_iff, h.mem_iff,
    ← Option.isSome_iff_exists, ← Option.isSome_iff_exists]
  have hsome := congrArg Option.isSome (hcontent k)
  rw [Option.isSome_map] at hsome
  rw [hsome]
  by_cases hkey : k = key
  · simp [hkey]
  · simp [hkey]

end EdgeCache.Store.Shard

namespace EdgeCache.ResponseStore

open EdgeCache.Store EdgeCache.Time

variable {s : ResponseStore}

/-! ## All shards -/

/-- some tasks bring an empty store to this one, with their steps in any order -/
def Arises (s : ResponseStore) : Prop :=
  ∃ (n : Nat) (limits : Limits) (fresh : ResponseStore) (moves : List (Move n)),
    new limits = .ok fresh ∧ ((Pool.idle fresh).run moves).store = s

theorem Reachable.arises (h : s.Reachable) : s.Arises := by
  obtain ⟨limits, fresh, calls, hnew, rfl⟩ := h
  obtain ⟨moves, hmoves⟩ := Pool.run_calls_alone (Pool.sound_idle hnew) (0 : Fin 1) calls
  exact ⟨1, limits, fresh, moves, hnew, by rw [hmoves]; rfl⟩

theorem Arises.shaped (h : s.Arises) : s.Shaped := by
  obtain ⟨n, limits, fresh, moves, hnew, rfl⟩ := h
  exact (Pool.run_tidy (Pool.tidy_idle hnew) moves).shaped

/-- where the keys of a store are -/
structure Placed (s : ResponseStore) : Prop where
  /-- the list of a shard has no key twice -/
  nodup : ∀ i, (s.shardAt i).keys.toList.Nodup
  /-- it has exactly the keys of the slots -/
  mem_iff : ∀ i key, key ∈ (s.shardAt i).keys ↔ key ∈ (s.shardAt i).slots
  /-- the slot of a key knows where the key stands -/
  place : ∀ i place key, (s.shardAt i).keys[place]? = some key →
    ∃ slot, (s.shardAt i).slot? key = some slot ∧ slot.place = place
  /-- the number of shards is a power of two -/
  shards : ∃ k, s.shards.size = 2 ^ k
  /-- a key is in no shard but the one that the first word of its digest chooses, masked by that number -/
  home : ∀ i key, key ∈ (s.shardAt i).keys → i = key.word 0 &&& (s.shards.size - 1)
  /-- over all shards, no key is stored twice -/
  once : (s.shards.toList.flatMap (·.keys.toList)).Nodup
  /-- a stored key can be taken out, and nothing else goes with it -/
  remove : ∀ i key slot, (s.shardAt i).slot? key = some slot →
    ∃ shard, (s.shardAt i).remove? key = some (slot.entry, shard) ∧ (s.shardAt i).Removes key slot.entry shard

theorem Shaped.nodup_keys (h : s.Shaped) : (s.shards.toList.flatMap (·.keys.toList)).Nodup := by
  have hat : ∀ i (hi : i < s.shards.toList.length), s.shards.toList[i] = s.shardAt i := by
    intro i hi
    have hi' : i < s.shards.size := by simpa using hi
    simp [shardAt, Array.getD, hi']
  rw [List.nodup_flatMap]
  constructor
  · intro shard hshard
    obtain ⟨i, hi, rfl⟩ := List.mem_iff_getElem.1 hshard
    rw [hat]
    exact (h.dense i).nodup_keys
  · rw [List.pairwise_iff_getElem]
    intro i j hi hj hlt
    show List.Disjoint _ _
    rw [hat, hat]
    intro key hki hkj
    obtain ⟨slot, hslot⟩ := ((h.dense i).mem_iff key).1 (Array.mem_toList_iff.1 hki)
    obtain ⟨slot', hslot'⟩ := ((h.dense j).mem_iff key).1 (Array.mem_toList_iff.1 hkj)
    have hhome := h.home i key slot hslot
    rw [h.home j key slot' hslot'] at hhome
    omega

/-- **Every key has one place.** In every state that tasks bring an empty store to, whatever calls they do and however
their steps interleave, the keys of each shard are the keys of its slots, each once and at the place that its slot
knows. A key is in the shard that the first word of its digest chooses, and in no other. And a key that is taken out is
taken from a place where it stands, and it alone. -/
theorem keys_placed (h : s.Arises) : s.Placed := by
  have hs := h.shaped
  obtain ⟨k, hk⟩ : ∃ k, s.shards.size = 2 ^ k := by
    obtain ⟨n, limits, fresh, moves, hnew, rfl⟩ := h
    exact (Pool.run_tidy (Pool.tidy_idle hnew) moves).shards
  refine ⟨fun i => (hs.dense i).nodup_keys, ?_, ?_, ⟨k, hk⟩, ?_, hs.nodup_keys, ?_⟩
  · intro i key
    rw [(hs.dense i).mem_iff, Std.HashMap.mem_iff_isSome_getElem?, Option.isSome_iff_exists]
    rfl
  · intro i place key hkey
    exact Option.map_eq_some_iff.1 (((hs.dense i) place key).1 hkey)
  · intro i key hkey
    obtain ⟨slot, hslot⟩ := ((hs.dense i).mem_iff key).1 hkey
    rw [← hs.home i key slot hslot, shardOf, hk, Nat.and_two_pow_sub_one_eq_mod]
  · intro i key slot hslot
    obtain ⟨shard, hr, -⟩ := takeOut_eq_some hslot
    exact ⟨shard, hr, Shard.removes_of_dense (hs.dense i) hr⟩

/-- calls after those that fill the two places of a small store -/
theorem arises_crowded (calls : List Call) : (ForTwo.crowded.run calls).Arises := by
  refine Reachable.arises ⟨_, _, ForTwo.calls ++ calls, ForTwo.new_holding, ?_⟩
  rw [← ForTwo.run_calls]
  exact List.foldl_append

/-- two keys are in one shard, the first is taken out, and the second moves to its place -/
theorem keys_placed_moved : (ForTwo.crowded.run [.remove ForTwo.rare]).Arises ∧
    (ForTwo.crowded.run [.remove ForTwo.rare]).Placed :=
  ⟨arises_crowded _, keys_placed (arises_crowded _)⟩

end EdgeCache.ResponseStore
