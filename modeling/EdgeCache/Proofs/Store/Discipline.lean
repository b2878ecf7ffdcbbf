/-
What every routine keeps to, whatever other tasks do between its steps: it holds one lock at a time, changes a shard
only while it holds its lock, never gives back more than is on its account, and ends with no lock and an empty account.

- `Routine.Balanced`: this discipline, from a lock and an account to what is left of them at the end. Between two steps
  the store can have become any other, as long as the shard that is locked is still as it was.
- `balanced_bind` and one lemma for each kind of step; from them one for each routine, up to `balanced_routine`.
-/
import EdgeCache.Store.Interleaving
import EdgeCache.Proofs.Store.Layout

namespace EdgeCache.Store

open EdgeCache.Time EdgeCache.Freshness

/-! ## Accounts -/

/-- nothing was given back that was not there -/
def Account.Nonneg (a : Account) : Prop := 0 ≤ a.objects ∧ 0 ≤ a.cost

@[simp] theorem Account.objects_zero : (0 : Account).objects = 0 := rfl

@[simp] theorem Account.cost_zero : (0 : Account).cost = 0 := rfl

@[simp] theorem Account.objects_add (a b : Account) : (a + b).objects = a.objects + b.objects := rfl

@[simp] theorem Account.cost_add (a b : Account) : (a + b).cost = a.cost + b.cost := rfl

theorem Account.eq_of {a b : Account} (ho : a.objects = b.objects) (hc : a.cost = b.cost) : a = b := by
  cases a
  cases b
  simp_all

@[simp] theorem Account.add_zero (a : Account) : a + 0 = a := Account.eq_of (by simp) (by simp)

@[simp] theorem Account.zero_add (a : Account) : 0 + a = a := Account.eq_of (by simp) (by simp)

theorem Account.nonneg_of (objects cost : Nat) : (⟨objects, cost⟩ : Account).Nonneg :=
  ⟨Int.natCast_nonneg objects, Int.natCast_nonneg cost⟩

theorem Account.nonneg_zero : (0 : Account).Nonneg := Account.nonneg_of 0 0

theorem Account.Nonneg.add {a b : Account} (ha : a.Nonneg) (hb : b.Nonneg) : (a + b).Nonneg :=
  ⟨Int.add_nonneg ha.1 hb.1, Int.add_nonneg ha.2 hb.2⟩

theorem Account.nonneg_ofTaken (taken : Option Entry) : (Account.ofTaken taken).Nonneg := by
  cases taken with
  | none => exact Account.nonneg_zero
  | some entry => exact Account.nonneg_of 1 entry.cost

/-! ## The discipline -/

/-- the lock that a task holds, with the shard as it stands -/
abbrev Held : Type := Option (Nat × Shard)

def Held.shard? (held : Held) : Option Nat := held.map (·.1)

/-- the same lock, with the shard as it stands in a store -/
def Held.within (held : Held) (s : ResponseStore) : Held := held.map fun lock => (lock.1, s.shardAt lock.1)

/-- a store is as the holder of a lock knows it -/
def Agrees (held : Held) (s : ResponseStore) : Prop := ∀ i shard, held = some (i, shard) → s.shardAt i = shard

theorem Held.within_eq {held : Held} {s : ResponseStore} (h : Agrees held s) : held.within s = held := by
  cases held with
  | none => rfl
  | some lock => simp [Held.within, h lock.1 lock.2 rfl]

theorem Held.shard?_within (held : Held) (s : ResponseStore) : (held.within s).shard? = held.shard? := by
  cases held <;> rfl

theorem Held.agrees_within (held : Held) (s : ResponseStore) : Agrees (held.within s) s := by
  intro i shard h
  obtain ⟨lock, -, he⟩ := Option.map_eq_some_iff.1 h
  cases he
  rfl

namespace Act

variable {α : Type}

/-- a step keeps to the locks: one is taken only if none is held, and a shard is changed only under its lock -/
def InOrder (shards : Nat) (held : Held) : Act α → Prop
  | .lock _ => held = none
  | .unlock i | .takeOut i _ => held.shard? = some i
  | .put i _ _ _ => held.shard? = some i ∧ i < shards
  | _ => True

/-- the lock after a step that left the store as `s` -/
def heldAfter (s : ResponseStore) (held : Held) : Act α → Held
  | .lock i => some (i, s.shardAt i)
  | .unlock _ => none
  | _ => held.within s

end Act

namespace Routine

variable {α β : Type} {shards : Nat}

/-- every step is in order and leaves the account in the black, and the end is as `post` says -/
def Balanced (shards : Nat) (post : α → Held → Account → Prop) : Routine α → Held → Account → Prop
  | .done a, held, account => post a held account
  | .step act next, held, account =>
    act.InOrder shards held ∧ ∀ s : ResponseStore, s.shards.size = shards → Agrees held s →
      (account + act.booked (act.perform s).1).Nonneg ∧
      (next (act.perform s).1).Balanced shards post (act.heldAfter (act.perform s).2 held)
        (account + act.booked (act.perform s).1)

theorem balanced_pure {post : α → Held → Account → Prop} {a : α} {held : Held} {account : Account}
    (h : post a held account) : (pure a : Routine α).Balanced shards post held account := h

/-- a routine is followed by another from whatever it ends with -/
theorem balanced_bind {post : β → Held → Account → Prop} {r : Routine α} {f : α → Routine β} {held : Held}
    {account : Account} (h : r.Balanced shards (fun a => (f a).Balanced shards post) held account) :
    (r >>= f).Balanced shards post held account := by
  induction r generalizing held account with
  | done a => exact h
  | step act next ih => exact ⟨h.1, fun s hs ha => ⟨(h.2 s hs ha).1, ih _ (h.2 s hs ha).2⟩⟩

/-! ## Single steps -/

section Steps

variable {held : Held} {account : Account} {i : Nat} {shard : Shard} {key : Key}

theorem balanced_act {a : Act α} {post : α → Held → Account → Prop} (horder : a.InOrder shards held)
    (h : ∀ s : ResponseStore, s.shards.size = shards → Agrees held s →
      (account + a.booked (a.perform s).1).Nonneg ∧
      post (a.perform s).1 (a.heldAfter (a.perform s).2 held) (account + a.booked (a.perform s).1)) :
    (act a).Balanced shards post held account := ⟨horder, h⟩

theorem balanced_lock {post : Unit → Held → Account → Prop} (hn : account.Nonneg)
    (h : ∀ shard, post () (some (i, shard)) account) : (act (.lock i)).Balanced shards post none account := by
  refine balanced_act rfl ?_
  intro s _ _
  rw [show (Act.lock i).booked ((Act.lock i).perform s).1 = 0 from rfl, Account.add_zero]
  exact ⟨hn, h _⟩

theorem balanced_unlock {post : Unit → Held → Account → Prop} (hn : account.Nonneg) (h : post () none account) :
    (act (.unlock i)).Balanced shards post (some (i, shard)) account := by
  refine balanced_act rfl ?_
  intro s _ _
  rw [show (Act.unlock i).booked ((Act.unlock i).perform s).1 = 0 from rfl, Account.add_zero]
  exact ⟨hn, h⟩

theorem balanced_aside {a : Act α} {post : α → Held → Account → Prop} (horder : a.InOrder shards held)
    (hheld : ∀ s, a.heldAfter s held = held.within s)
    (hshards : ∀ s, (a.perform s).2.shards = s.shards)
    (h : ∀ answer, (account + a.booked answer).Nonneg ∧ post answer held (account + a.booked answer)) :
    (act a).Balanced shards post held account := by
  refine balanced_act horder ?_
  intro s _ hs
  have hs' : Agrees held (a.perform s).2 := by
    intro i shard hi
    unfold ResponseStore.shardAt
    rw [hshards]; exact hs i shard hi
  rw [hheld, Held.within_eq hs']
  exact h _

theorem balanced_read {a : Act α} {post : α → Held → Account → Prop} (horder : a.InOrder shards held)
    (hheld : ∀ s, a.heldAfter s held = held.within s)
    (hshards : ∀ s, (a.perform s).2.shards = s.shards) (hbooked : ∀ answer, a.booked answer = 0) (hn : account.Nonneg)
    (h : ∀ answer, post answer held account) : (act a).Balanced shards post held account := by
  refine balanced_aside horder hheld hshards ?_
  intro answer
  rw [hbooked, Account.add_zero]
  exact ⟨hn, h answer⟩

theorem balanced_touch {post : Unit → Held → Account → Prop} (hn : account.Nonneg) (h : post () held account) :
    (act (.touch key)).Balanced shards post held account :=
  balanced_read trivial (fun _ => rfl) (fun _ => rfl) (fun _ => rfl) hn fun _ => h

theorem balanced_estimate {post : Nat → Held → Account → Prop} (hn : account.Nonneg) (h : ∀ n, post n held account) :
    (act (.estimate key)).Balanced shards post held account :=
  balanced_read trivial (fun _ => rfl) (fun _ => rfl) (fun _ => rfl) hn h

theorem balanced_slot? {post : Option Slot → Held → Account → Prop} (hn : account.Nonneg)
    (h : ∀ slot, post slot held account) : (act (.slot? i key)).Balanced shards post held account :=
  balanced_read trivial (fun _ => rfl) (fun _ => rfl) (fun _ => rfl) hn h

/-- whoever holds the lock of a shard knows what is in it -/
theorem balanced_slot?_locked {post : Option Slot → Held → Account → Prop} (hn : account.Nonneg)
    (h : post (shard.slot? key) (some (i, shard)) account) :
    (act (.slot? i key)).Balanced shards post (some (i, shard)) account := by
  refine balanced_act trivial ?_
  intro s _ hs
  have hshard : s.shardAt i = shard := hs i shard rfl
  rw [show (Act.slot? i key).booked ((Act.slot? i key).perform s).1 = 0 from rfl, Account.add_zero]
  refine ⟨hn, ?_⟩
  show post ((s.shardAt i).slot? key) (some (i, s.shardAt i)) account
  rw [hshard]; exact h

theorem balanced_sample {position : Nat} {post : List (Key × Slot) → Held → Account → Prop} (hn : account.Nonneg)
    (h : ∀ neighbours, post neighbours held account) : (act (.sample i position)).Balanced shards post held account :=
  balanced_read trivial (fun _ => rfl) (fun _ => rfl) (fun _ => rfl) hn h

theorem balanced_expiredKeys {now : Instant} {post : List Key → Held → Account → Prop} (hn : account.Nonneg)
    (h : ∀ keys, post keys held account) : (act (.expiredKeys i now)).Balanced shards post held account :=
  balanced_read trivial (fun _ => rfl) (fun _ => rfl) (fun _ => rfl) hn h

/-- what is published is taken off the account, and what it replaces is put on it -/
theorem balanced_put {entry : Entry} {expiry : Option Instant} {account' : Account}
    {post : Option Entry → Held → Account → Prop} (hi : i < shards)
    (he : account + (⟨-1, -entry.cost⟩ + .ofTaken ((shard.slot? key).map (·.entry))) = account') (hn : account'.Nonneg)
    (h : ∀ shard', post ((shard.slot? key).map (·.entry)) (some (i, shard')) account') :
    (act (.put i key entry expiry)).Balanced shards post (some (i, shard)) account := by
  refine balanced_act ⟨rfl, hi⟩ ?_
  intro s _ hs
  have hshard : s.shardAt i = shard := hs i shard rfl
  have hanswer : ((Act.put i key entry expiry).perform s).1 = (shard.slot? key).map (·.entry) := by
    rw [← hshard]; rfl
  have hbooked : account + (Act.put i key entry expiry).booked ((Act.put i key entry expiry).perform s).1 = account' := by
    rw [hanswer, ← he]; rfl
  rw [hbooked, hanswer]
  exact ⟨hn, h _⟩

theorem balanced_takeOut {post : Option Entry → Held → Account → Prop} (hn : account.Nonneg)
    (h : ∀ taken shard', post taken (some (i, shard')) (account + .ofTaken taken)) :
    (act (.takeOut i key)).Balanced shards post (some (i, shard)) account :=
  balanced_act rfl fun _ _ _ => ⟨hn.add (Account.nonneg_ofTaken _), h _ _⟩

theorem balanced_reserveObjects {n : Nat} {post : Bool → Held → Account → Prop} (hn : account.Nonneg)
    (ht : post true held (account + ⟨n, 0⟩)) (hf : post false held account) :
    (act (.reserveObjects n)).Balanced shards post held account := by
  refine balanced_aside trivial (fun _ => rfl) (fun _ => rfl) ?_
  intro answer
  cases answer with
  | true => exact ⟨hn.add (Account.nonneg_of n 0), ht⟩
  | false => exact ⟨hn.add Account.nonneg_zero, by rw [← Account.add_zero account] at hf; exact hf⟩

theorem balanced_reserveCost {n : Nat} {post : Bool → Held → Account → Prop} (hn : account.Nonneg)
    (ht : post true held (account + ⟨0, n⟩)) (hf : post false held account) :
    (act (.reserveCost n)).Balanced shards post held account := by
  refine balanced_aside trivial (fun _ => rfl) (fun _ => rfl) ?_
  intro answer
  cases answer with
  | true => exact ⟨hn.add (Account.nonneg_of 0 n), ht⟩
  | false => exact ⟨hn.add Account.nonneg_zero, by rw [← Account.add_zero account] at hf; exact hf⟩

theorem balanced_releaseObjects {n : Nat} {account' : Account} {post : Unit → Held → Account → Prop}
    (he : account + ⟨-n, 0⟩ = account') (hn : account'.Nonneg) (h : post () held account') :
    (act (.releaseObjects n)).Balanced shards post held account := by
  refine balanced_aside trivial (fun _ => rfl) (fun _ => rfl) ?_
  intro _
  show (account + ⟨-n, 0⟩).Nonneg ∧ post () held (account + ⟨-n, 0⟩)
  rw [he]; exact ⟨hn, h⟩

theorem balanced_releaseCost {n : Nat} {account' : Account} {post : Unit → Held → Account → Prop}
    (he : account + ⟨0, -n⟩ = account') (hn : account'.Nonneg) (h : post () held account') :
    (act (.releaseCost n)).Balanced shards post held account := by
  refine balanced_aside trivial (fun _ => rfl) (fun _ => rfl) ?_
  intro _
  show (account + ⟨0, -n⟩).Nonneg ∧ post () held (account + ⟨0, -n⟩)
  rw [he]; exact ⟨hn, h⟩

end Steps

/-! ## Taking out -/

section Calls

variable {held : Held} {i : Nat} {shard : Shard}

theorem balanced_release {cost : Nat} {post : Unit → Held → Account → Prop} (h : post () held 0) :
    (release cost).Balanced shards post held ⟨1, cost⟩ := by
  have hcounted : (⟨1, cost⟩ + ⟨-(1 : Nat), 0⟩ : Account) = ⟨0, cost⟩ := Account.eq_of (by simp) (by simp)
  refine balanced_bind (balanced_releaseObjects hcounted (Account.nonneg_of 0 cost) ?_)
  exact balanced_releaseCost (Account.eq_of (by simp) (by simp)) Account.nonneg_zero h

theorem balanced_releaseTaken {taken : Option Entry} {post : Bool → Held → Account → Prop} (h : ∀ b, post b held 0) :
    (match taken with
      | some entry => do
        release entry.cost
        return true
      | none => return false : Routine Bool).Balanced shards post held (.ofTaken taken) := by
  cases taken with
  | some entry => exact balanced_bind (balanced_release (balanced_pure (h true)))
  | none => exact balanced_pure (h false)

theorem balanced_drop {key : Key} {post : Bool → Held → Account → Prop}
    (h : ∀ b shard', post b (some (i, shard')) 0) : (drop i key).Balanced shards post (some (i, shard)) 0 := by
  refine balanced_bind (balanced_takeOut Account.nonneg_zero ?_)
  intro taken shard'
  rw [Account.zero_add]
  exact balanced_releaseTaken fun b => h b shard'

theorem balanced_get {now : Instant} {key : Key} {post : Option Entry → Held → Account → Prop}
    (h : ∀ entry, post entry none 0) : (get shards now key).Balanced shards post none 0 := by
  refine balanced_bind (balanced_touch Account.nonneg_zero ?_)
  refine balanced_bind (balanced_slot? Account.nonneg_zero ?_)
  intro slot
  cases slot with
  | none => exact balanced_pure (h none)
  | some slot =>
    simp only
    split_ifs
    · refine balanced_bind (balanced_lock Account.nonneg_zero ?_)
      intro shard
      refine balanced_bind (balanced_slot? Account.nonneg_zero ?_)
      intro slot
      have hclose : ∀ shard', (do
          act (.unlock (key.word 0 % shards))
          return none : Routine (Option Entry)).Balanced shards post (some (key.word 0 % shards, shard')) 0 :=
        fun _ => balanced_bind (balanced_unlock Account.nonneg_zero (balanced_pure (h none)))
      split_ifs
      · exact balanced_bind (balanced_drop fun _ shard' => hclose shard')
      · exact hclose shard
    · exact balanced_pure (h _)

theorem balanced_remove {key : Key} {post : Bool → Held → Account → Prop} (h : ∀ b, post b none 0) :
    (remove shards key).Balanced shards post none 0 := by
  refine balanced_bind (balanced_lock Account.nonneg_zero ?_)
  intro shard
  refine balanced_bind (balanced_takeOut Account.nonneg_zero ?_)
  intro taken shard'
  rw [Account.zero_add]
  refine balanced_bind (balanced_unlock (Account.nonneg_ofTaken taken) ?_)
  exact balanced_releaseTaken h

theorem balanced_dropAll {n : Nat} {keys : List Key} {post : Nat → Held → Account → Prop}
    (h : ∀ n shard', post n (some (i, shard')) 0) : (dropAll i n keys).Balanced shards post (some (i, shard)) 0 := by
  induction keys generalizing n shard with
  | nil => exact balanced_pure (h n shard)
  | cons key keys ih => exact balanced_bind (balanced_drop fun found shard' => ih)

theorem balanced_sweep {now : Instant} {n : Nat} {is : List Nat} {post : Nat → Held → Account → Prop}
    (h : ∀ n, post n none 0) : (sweep now n is).Balanced shards post none 0 := by
  induction is generalizing n with
  | nil => exact balanced_pure (h n)
  | cons i is ih =>
    refine balanced_bind (balanced_lock Account.nonneg_zero ?_)
    intro shard
    refine balanced_bind (balanced_expiredKeys Account.nonneg_zero ?_)
    intro keys
    refine balanced_bind (balanced_dropAll ?_)
    intro m shard'
    exact balanced_bind (balanced_unlock Account.nonneg_zero ih)

/-! ## Making room -/

theorem balanced_victim? {now : Instant} {kept : Key} {best : Option (Key × Nat)} {neighbours : List (Key × Slot)}
    {post : Option (Key × Nat) → Held → Account → Prop} (h : ∀ v, post v held 0) :
    (victim? now kept best neighbours).Balanced shards post held 0 := by
  induction neighbours generalizing best with
  | nil => exact balanced_pure (h best)
  | cons pair rest ih =>
    obtain ⟨key, slot⟩ := pair
    unfold victim?
    split_ifs
    · exact ih
    · exact balanced_pure (h _)
    · exact balanced_bind (balanced_estimate Account.nonneg_zero fun n => ih)

theorem balanced_evictFrom {now : Instant} {pick : Pick} {kept : Key} {incoming : Nat} {is : List Nat}
    {post : Eviction → Held → Account → Prop} (h : ∀ e, post e none 0) :
    (evictFrom now pick kept incoming is).Balanced shards post none 0 := by
  induction is with
  | nil => exact balanced_pure (h .nothing)
  | cons i is ih =>
    refine balanced_bind (balanced_lock Account.nonneg_zero ?_)
    intro shard
    refine balanced_bind (balanced_sample Account.nonneg_zero ?_)
    intro neighbours
    refine balanced_bind (balanced_victim? ?_)
    intro v
    cases v with
    | none => exact balanced_bind (balanced_unlock Account.nonneg_zero ih)
    | some v =>
      refine balanced_bind (balanced_slot? Account.nonneg_zero ?_)
      intro slot
      split_ifs
      · exact balanced_bind (balanced_unlock Account.nonneg_zero (balanced_pure (h .refused)))
      · refine balanced_bind (balanced_drop ?_)
        intro _ shard'
        exact balanced_bind (balanced_unlock Account.nonneg_zero (balanced_pure (h .evicted)))

/-- both shares are reserved, or an object that was counted for nothing is given back -/
theorem balanced_tryReserve {objects cost : Nat} {post : Bool → Held → Account → Prop}
    (ht : post true held ⟨objects, cost⟩) (hf : post false held 0) :
    (tryReserve objects cost).Balanced shards post held 0 := by
  have hcost : (do
      if ← act (.reserveCost cost) then return true
      else
        act (.releaseObjects objects)
        return false : Routine Bool).Balanced shards post held ⟨objects, 0⟩ := by
    refine balanced_bind (balanced_reserveCost (Account.nonneg_of objects 0) ?_ ?_)
    · refine balanced_pure ?_
      rw [show (⟨objects, 0⟩ + ⟨0, cost⟩ : Account) = ⟨objects, cost⟩ from Account.eq_of (by simp) (by simp)]
      exact ht
    · refine balanced_bind (balanced_releaseObjects (Account.eq_of (by simp) (by simp)) Account.nonneg_zero ?_)
      exact balanced_pure hf
  refine balanced_bind ?_
  split_ifs with hn
  · subst hn; exact balanced_pure hcost
  · refine balanced_reserveObjects Account.nonneg_zero ?_ (balanced_pure hf)
    rw [Account.zero_add]; exact hcost

theorem balanced_makeRoom {readings : Nat → Instant} {picks : Nat → Pick} {key : Key}
    {objects cost incoming rounds idle : Nat} {post : Bool → Held → Account → Prop}
    (ht : post true none ⟨objects, cost⟩) (hf : post false none 0) :
    (makeRoom shards readings picks key objects cost incoming rounds idle).Balanced shards post none 0 := by
  induction rounds generalizing idle with
  | zero => exact balanced_pure hf
  | succ rounds ih =>
    refine balanced_bind (balanced_tryReserve (balanced_pure ht) ?_)
    refine balanced_bind (balanced_evictFrom ?_)
    intro e
    cases e with
    | evicted => exact ih
    | refused => exact balanced_pure hf
    | nothing =>
      simp only
      split_ifs
      · exact balanced_pure hf
      · exact ih

theorem balanced_reserve {readings : Nat → Instant} {picks : Nat → Pick} {key : Key} {objects cost : Nat}
    {post : Bool → Held → Account → Prop} (ht : post true none ⟨objects, cost⟩) (hf : post false none 0) :
    (reserve shards readings picks key objects cost).Balanced shards post none 0 :=
  balanced_bind (balanced_estimate Account.nonneg_zero fun _ => balanced_makeRoom ht hf)

/-! ## Storing -/

/-- a version that takes the place of another one is paid with the cost of that one and what is on the account -/
theorem account_replaced {shard : Shard} {key : Key} {slot : Slot} (hslot : shard.slot? key = some slot)
    (cost before after : Nat) (h : before + slot.entry.cost = after + cost) :
    (⟨0, before⟩ + (⟨-1, -cost⟩ + .ofTaken ((shard.slot? key).map (·.entry))) : Account) = ⟨0, after⟩ := by
  rw [hslot]
  refine Account.eq_of rfl ?_
  show (before : Int) + (-cost + slot.entry.cost) = after
  omega

theorem balanced_replaceInPlace (hs : 0 < shards) {key : Key} {entry : Entry} {expiry : Option Instant}
    {post : Replacement → Held → Account → Prop} (hdone : post .done none 0) (habsent : post .absent none 0)
    (hroom : ∀ old < entry.cost, post (.needsRoom old) none 0) :
    (replaceInPlace shards key entry expiry).Balanced shards post none 0 := by
  have hi : key.word 0 % shards < shards := Nat.mod_lt _ hs
  refine balanced_bind (balanced_lock Account.nonneg_zero ?_)
  intro shard
  refine balanced_bind (balanced_slot?_locked Account.nonneg_zero ?_)
  cases hslot : shard.slot? key with
  | none => exact balanced_bind (balanced_unlock Account.nonneg_zero (balanced_pure habsent))
  | some slot =>
    simp only
    split_ifs with hlt hlt'
    · refine balanced_bind (balanced_tryReserve ?_ ?_)
      · have hpaid := account_replaced hslot entry.cost (entry.cost - slot.entry.cost) 0 (by omega)
        refine balanced_bind (balanced_put hi hpaid Account.nonneg_zero ?_)
        intro _
        exact balanced_bind (balanced_unlock Account.nonneg_zero (balanced_pure hdone))
      · exact balanced_bind (balanced_unlock Account.nonneg_zero (balanced_pure (hroom _ hlt)))
    · have hpaid := account_replaced hslot entry.cost 0 (slot.entry.cost - entry.cost) (by omega)
      refine balanced_bind (balanced_put hi hpaid (Account.nonneg_of 0 _) ?_)
      intro _
      refine balanced_bind (balanced_releaseCost (Account.eq_of (by simp) (by simp)) Account.nonneg_zero ?_)
      exact balanced_bind (balanced_unlock Account.nonneg_zero (balanced_pure hdone))
    · have hpaid := account_replaced hslot entry.cost 0 0 (by omega)
      refine balanced_bind (balanced_put hi hpaid Account.nonneg_zero ?_)
      intro _
      exact balanced_bind (balanced_unlock Account.nonneg_zero (balanced_pure hdone))

theorem balanced_grow (hs : 0 < shards) {readings : Nat → Instant} {picks : Nat → Pick} {key : Key} {entry : Entry}
    {expiry : Option Instant} {old : Nat} (hold : old < entry.cost) {post : Bool → Held → Account → Prop}
    (h : ∀ b, post b none 0) : (grow shards readings picks key entry expiry old).Balanced shards post none 0 := by
  have hi : key.word 0 % shards < shards := Nat.mod_lt _ hs
  refine balanced_bind (balanced_reserve ?_ (balanced_pure (h false)))
  refine balanced_bind (balanced_lock (Account.nonneg_of 0 _) ?_)
  intro shard
  refine balanced_bind (balanced_slot?_locked (Account.nonneg_of 0 _) ?_)
  split_ifs with hsame
  · obtain ⟨slot, hslot, hcost⟩ := (Option.any_eq_true _ _).1 hsame
    have hcost' : slot.entry.cost = old := of_decide_eq_true hcost
    have hpaid := account_replaced hslot entry.cost (entry.cost - old) 0 (by omega)
    refine balanced_bind (balanced_put hi hpaid Account.nonneg_zero ?_)
    intro _
    exact balanced_bind (balanced_unlock Account.nonneg_zero (balanced_pure (h true)))
  · refine balanced_bind (balanced_unlock (Account.nonneg_of 0 _) ?_)
    refine balanced_bind (balanced_releaseCost (Account.eq_of (by simp) (by simp)) Account.nonneg_zero ?_)
    exact balanced_pure (h false)

theorem balanced_introduce (hs : 0 < shards) {readings : Nat → Instant} {picks : Nat → Pick} {key : Key} {entry : Entry}
    {expiry : Option Instant} {post : Bool → Held → Account → Prop} (h : ∀ b, post b none 0) :
    (introduce shards readings picks key entry expiry).Balanced shards post none 0 := by
  have hi : key.word 0 % shards < shards := Nat.mod_lt _ hs
  refine balanced_bind (balanced_reserve ?_ (balanced_pure (h false)))
  refine balanced_bind (balanced_lock (Account.nonneg_of 1 _) ?_)
  intro shard
  -- the entry is paid for, so that what is left on the account is the version that it replaces, if any
  have hpaid : ∀ replaced : Option Entry, (⟨1, entry.cost⟩ + (⟨-1, -entry.cost⟩ + .ofTaken replaced) : Account) =
      .ofTaken replaced := fun replaced => Account.eq_of (by simp) (by simp)
  refine balanced_bind (balanced_put hi (hpaid _) (Account.nonneg_ofTaken _) ?_)
  intro shard'
  refine balanced_bind (balanced_unlock (Account.nonneg_ofTaken _) ?_)
  generalize (shard.slot? key).map (·.entry) = replaced
  cases replaced with
  | none => exact balanced_pure (h true)
  | some old => exact balanced_bind (balanced_release (balanced_pure (h true)))

theorem balanced_insert (hs : 0 < shards) {maxCost : Nat} {now : Instant} {readings : Nat → Instant}
    {picks : Nat → Pick} {key : Key} {entry : Entry} {lifetime : Option Span} {post : Bool → Held → Account → Prop}
    (h : ∀ b, post b none 0) :
    (insert shards maxCost now readings picks key entry lifetime).Balanced shards post none 0 := by
  refine balanced_bind (balanced_touch Account.nonneg_zero ?_)
  split_ifs
  · exact balanced_pure (h false)
  · refine balanced_bind (balanced_replaceInPlace hs ?_ ?_ ?_)
    · exact balanced_pure (h true)
    · exact balanced_introduce hs h
    · intro old hold
      exact balanced_grow hs hold h

end Calls

/-- **The discipline of the calls.** Every call, done as a routine, keeps to the locks and to its account, and ends with
no lock and an empty account. -/
theorem balanced_routine {s : ResponseStore} (hs : 0 < s.shards.size) (call : Call) :
    (call.routine s).Balanced s.shards.size (fun _ held account => held = none ∧ account = 0) none 0 := by
  cases call with
  | get now key => exact balanced_bind (balanced_get fun _ => balanced_pure ⟨rfl, rfl⟩)
  | set clock readings picks key entry =>
    unfold Call.routine
    simp only
    cases Decision.ofHeader entry.header clock.moment with
    | forbidden => exact balanced_pure ⟨rfl, rfl⟩
    | unspecified => exact balanced_bind (balanced_insert hs fun _ => balanced_pure ⟨rfl, rfl⟩)
    | lifetime span => exact balanced_bind (balanced_insert hs fun _ => balanced_pure ⟨rfl, rfl⟩)
  | setFor now readings picks key entry lifetime =>
    exact balanced_bind (balanced_insert hs fun _ => balanced_pure ⟨rfl, rfl⟩)
  | remove key => exact balanced_bind (balanced_remove fun _ => balanced_pure ⟨rfl, rfl⟩)
  | sweep now => exact balanced_bind (balanced_sweep fun _ => balanced_pure ⟨rfl, rfl⟩)

end Routine

end EdgeCache.Store
