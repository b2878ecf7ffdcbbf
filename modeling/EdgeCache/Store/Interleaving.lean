/-
Calls of the store by several tasks at once. A call is a routine of atomic steps: each access to a shard and each
update of a counter is one, and between the steps of one task there can be steps of others. A task that holds the lock
of a shard keeps the others off that shard.

Every task has an account of what it has reserved and not published, or taken out and not given back. The estimates of
popularity can change at any time: their counters are updated one by one and without a lock.
-/
import Mathlib.Logic.Function.Basic
import EdgeCache.Store.History

namespace EdgeCache.Store

open EdgeCache.Time EdgeCache.Freshness

/-! ## Steps and routines -/

/-- an atomic step, by the type of its answer -/
inductive Act : Type → Type where
  | touch (key : Key) : Act Unit
  | estimate (key : Key) : Act Nat
  /-- take the lock of a shard -/
  | lock (i : Nat) : Act Unit
  | unlock (i : Nat) : Act Unit
  | slot? (i : Nat) (key : Key) : Act (Option Slot)
  | sample (i position : Nat) : Act (List (Key × Slot))
  | expiredKeys (i : Nat) (now : Instant) : Act (List Key)
  /-- put an entry into a shard; the answer is the entry that it replaces -/
  | put (i : Nat) (key : Key) (entry : Entry) (expiry : Option Instant) : Act (Option Entry)
  | takeOut (i : Nat) (key : Key) : Act (Option Entry)
  | reserveObjects (n : Nat) : Act Bool
  | reserveCost (n : Nat) : Act Bool
  | releaseObjects (n : Nat) : Act Unit
  | releaseCost (n : Nat) : Act Unit

/-- steps one after the other, each chosen by the answers of those before -/
inductive Routine (α : Type) : Type 1 where
  | done (a : α)
  | step {β : Type} (act : Act β) (next : β → Routine α)

namespace Routine

def bind {α β : Type} : Routine α → (α → Routine β) → Routine β
  | .done a, f => f a
  | .step act next, f => .step act fun b => (next b).bind f

instance : Monad Routine where
  pure := .done
  bind := bind

def act {β : Type} (a : Act β) : Routine β := .step a .done

/-! ## The calls as routines -/

def release (cost : Nat) : Routine Unit := do
  act (.releaseObjects 1)
  act (.releaseCost cost)

/-- take a key out of a locked shard and give its budget back; whether it was there -/
def drop (i : Nat) (key : Key) : Routine Bool := do
  match ← act (.takeOut i key) with
  | some entry =>
    release entry.cost
    return true
  | none => return false

/-- the shard of a key is read, and locked only if there is an expired entry to take out -/
def get (shards : Nat) (now : Instant) (key : Key) : Routine (Option Entry) := do
  let i := key.word 0 % shards
  act (.touch key)
  match ← act (.slot? i key) with
  | none => return none
  | some slot =>
    if slot.isExpired now then
      act (.lock i)
      if (← act (.slot? i key)).any (·.isExpired now) then
        let _ ← drop i key
      act (.unlock i)
      return none
    else return some slot.entry

/-- take out an entry, and give its budget back when the shard is open again -/
def remove (shards : Nat) (key : Key) : Routine Bool := do
  let i := key.word 0 % shards
  act (.lock i)
  let taken ← act (.takeOut i key)
  act (.unlock i)
  match taken with
  | some entry =>
    release entry.cost
    return true
  | none => return false

/-- take keys out of a locked shard, counting those that were there -/
def dropAll (i n : Nat) : List Key → Routine Nat
  | [] => return n
  | key :: keys => do
    let found ← drop i key
    dropAll i (if found then n + 1 else n) keys

/-- take every expired entry out of the shards, one shard after the other -/
def sweep (now : Instant) (n : Nat) : List Nat → Routine Nat
  | [] => return n
  | i :: rest => do
    act (.lock i)
    let m ← dropAll i 0 (← act (.expiredKeys i now))
    act (.unlock i)
    sweep now (n + m) rest

/-- the victim among neighbours -/
def victim? (now : Instant) (kept : Key) (best : Option (Key × Nat)) :
    List (Key × Slot) → Routine (Option (Key × Nat))
  | [] => return best
  | (key, slot) :: rest =>
    if key = kept then victim? now kept best rest
    else if slot.isExpired now then return some (key, 0)
    else do
      let n ← act (.estimate key)
      victim? now kept (if best.all (n < ·.2) then some (key, n) else best) rest

/-- evict from the first of the shards that has a victim -/
def evictFrom (now : Instant) (pick : Pick) (kept : Key) (incoming : Nat) : List Nat → Routine Eviction
  | [] => return .nothing
  | i :: rest => do
    act (.lock i)
    match ← victim? now kept none (← act (.sample i (pick.position i))) with
    | none =>
      act (.unlock i)
      evictFrom now pick kept incoming rest
    | some (key, n) =>
      let slot ← act (.slot? i key)
      if !slot.any (·.isExpired now) ∧ incoming < n then
        act (.unlock i)
        return .refused
      else
        let _ ← drop i key
        act (.unlock i)
        return .evicted

/-- reserve objects and cost, or neither -/
def tryReserve (objects cost : Nat) : Routine Bool := do
  let counted ← (if objects = 0 then pure true else act (.reserveObjects objects) : Routine Bool)
  if counted then
    if ← act (.reserveCost cost) then return true
    else
      act (.releaseObjects objects)
      return false
  else return false

/-- reserve a share of the budget, evicting while it is used up -/
def makeRoom (shards : Nat) (readings : Nat → Instant) (picks : Nat → Pick) (key : Key)
    (objects cost incoming : Nat) : (rounds idle : Nat) → Routine Bool
  | 0, _ => return false
  | rounds + 1, idle => do
    if ← tryReserve objects cost then return true
    else
      match ← evictFrom (readings rounds) (picks rounds) key incoming
        ((List.range shards).map fun i => ((picks rounds).shard + i) % shards) with
      | .evicted => makeRoom shards readings picks key objects cost incoming rounds idle
      | .refused => return false
      | .nothing =>
        if idle + 1 > shards then return false
        else makeRoom shards readings picks key objects cost incoming rounds (idle + 1)

def reserve (shards : Nat) (readings : Nat → Instant) (picks : Nat → Pick) (key : Key) (objects cost : Nat) :
    Routine Bool := do
  let incoming ← act (.estimate key)
  makeRoom shards readings picks key objects cost incoming maxEvictions 0

/-- put a new version in the place of a stored one, with the shard locked all the while -/
def replaceInPlace (shards : Nat) (key : Key) (entry : Entry) (expiry : Option Instant) : Routine Replacement := do
  let i := key.word 0 % shards
  act (.lock i)
  match ← act (.slot? i key) with
  | none =>
    act (.unlock i)
    return .absent
  | some slot =>
    let old := slot.entry.cost
    if old < entry.cost then
      if ← tryReserve 0 (entry.cost - old) then
        let _ ← act (.put i key entry expiry)
        act (.unlock i)
        return .done
      else
        act (.unlock i)
        return .needsRoom old
    else
      let _ ← act (.put i key entry expiry)
      if entry.cost < old then act (.releaseCost (old - entry.cost))
      act (.unlock i)
      return .done

/-- make room for what a new version costs more, and put it in the place of the stored one if that still costs `old` -/
def grow (shards : Nat) (readings : Nat → Instant) (picks : Nat → Pick) (key : Key) (entry : Entry)
    (expiry : Option Instant) (old : Nat) : Routine Bool := do
  let i := key.word 0 % shards
  if ← reserve shards readings picks key 0 (entry.cost - old) then
    act (.lock i)
    if (← act (.slot? i key)).any (·.entry.cost = old) then
      let _ ← act (.put i key entry expiry)
      act (.unlock i)
      return true
    else
      act (.unlock i)
      act (.releaseCost (entry.cost - old))
      return false
  else return false

/-- make room for an entry, publish it, and give back the budget of a version that came in between -/
def introduce (shards : Nat) (readings : Nat → Instant) (picks : Nat → Pick) (key : Key) (entry : Entry)
    (expiry : Option Instant) : Routine Bool := do
  let i := key.word 0 % shards
  if ← reserve shards readings picks key 1 entry.cost then
    act (.lock i)
    let replaced ← act (.put i key entry expiry)
    act (.unlock i)
    match replaced with
    | some old =>
      release old.cost
      return true
    | none => return true
  else return false

/-- store an entry for a lifetime, or for good without one -/
def insert (shards maxCost : Nat) (now : Instant) (readings : Nat → Instant) (picks : Nat → Pick) (key : Key)
    (entry : Entry) (lifetime : Option Span) : Routine Bool := do
  act (.touch key)
  if maxCost < entry.cost then return false
  else
    let expiry := lifetime.bind now.after?
    match ← replaceInPlace shards key entry expiry with
    | .done => return true
    | .needsRoom old => grow shards readings picks key entry expiry old
    | .absent => introduce shards readings picks key entry expiry

end Routine

/-- a call as a routine, for a store with the number of shards, the limit and the lifetime of this one -/
def Call.routine (s : ResponseStore) : Call → Routine Reply
  | .get now key => do return .found (← Routine.get s.shards.size now key)
  | .set clock readings picks key entry =>
    match Decision.ofHeader entry.header clock.moment with
    | .forbidden => return .done false
    | .unspecified => do
      return .done (← Routine.insert s.shards.size s.budget.maxCost clock.instant readings picks key entry
        s.defaultLifetime)
    | .lifetime span => do
      return .done (← Routine.insert s.shards.size s.budget.maxCost clock.instant readings picks key entry (some span))
  | .setFor now readings picks key entry lifetime => do
    return .done (← Routine.insert s.shards.size s.budget.maxCost now readings picks key entry (some lifetime))
  | .remove key => do return .done (← Routine.remove s.shards.size key)
  | .sweep now => do return .counted (← Routine.sweep now 0 (List.range s.shards.size))

/-! ## What a step does -/

/-- what a step does to the store. Locks do nothing to it. -/
def Act.perform {β : Type} (s : ResponseStore) : Act β → β × ResponseStore
  | .touch key => ((), s.touch key)
  | .estimate key => (s.popularity.estimate key, s)
  | .lock _ => ((), s)
  | .unlock _ => ((), s)
  | .slot? i key => ((s.shardAt i).slot? key, s)
  | .sample i position => ((s.shardAt i).sample position, s)
  | .expiredKeys i now => ((s.shardAt i).expiredKeys now, s)
  | .put i key entry expiry => (((s.shardAt i).slot? key).map (·.entry), s.put i key entry expiry)
  | .takeOut i key => s.takeOut i key
  | .reserveObjects n =>
    ((s.budget.reserveObjects? n).isSome, { s with budget := (s.budget.reserveObjects? n).getD s.budget })
  | .reserveCost n =>
    ((s.budget.reserveCost? n).isSome, { s with budget := (s.budget.reserveCost? n).getD s.budget })
  | .releaseObjects n => ((), { s with budget := s.budget.releaseObjects n })
  | .releaseCost n => ((), { s with budget := s.budget.releaseCost n })

/-- the steps of a routine with no steps of other tasks in between -/
def Routine.solo {α : Type} : Routine α → ResponseStore → α × ResponseStore
  | .done a, s => (a, s)
  | .step act next, s => (next (act.perform s).1).solo (act.perform s).2

/-- objects and cost that a task has reserved and not published, or taken out and not given back -/
structure Account where
  objects : Int
  cost : Int
deriving DecidableEq

instance : Zero Account := ⟨⟨0, 0⟩⟩

instance : Add Account := ⟨fun a b => ⟨a.objects + b.objects, a.cost + b.cost⟩⟩

/-- what entries in shards count for -/
def Account.ofTaken : Option Entry → Account
  | some entry => ⟨1, entry.cost⟩
  | none => 0

/-- what a step that got an answer adds to the account of its task -/
def Act.booked {β : Type} : Act β → β → Account
  | .put _ _ entry _, replaced => ⟨-1, -entry.cost⟩ + .ofTaken replaced
  | .takeOut _ _, taken => .ofTaken taken
  | .reserveObjects n, reserved => if reserved then ⟨n, 0⟩ else 0
  | .reserveCost n, reserved => if reserved then ⟨0, n⟩ else 0
  | .releaseObjects n, _ => ⟨-n, 0⟩
  | .releaseCost n, _ => ⟨0, -n⟩
  | _, _ => 0

/-! ## Tasks -/

/-- a store in use by `n` tasks: who holds the lock of each shard, what every task has still to do (nothing, if no call
is in progress), and the accounts -/
structure Pool (n : Nat) where
  store : ResponseStore
  owner : Nat → Option (Fin n)
  rest : Fin n → Option (Routine Reply)
  account : Fin n → Account

/-- what can happen next -/
inductive Move (n : Nat) where
  /-- a task without a call begins one -/
  | begin (t : Fin n) (call : Call)
  /-- a task does its next step, if no lock keeps it from that -/
  | advance (t : Fin n)
  /-- the estimates of popularity change -/
  | drift (popularity : Popularity)

/-- the shard that a step accesses -/
def Act.shard? {β : Type} : Act β → Option Nat
  | .slot? i _ | .sample i _ | .expiredKeys i _ | .put i _ _ _ | .takeOut i _ => some i
  | _ => none

namespace Pool

variable {n : Nat}

def idle (s : ResponseStore) : Pool n := ⟨s, fun _ => none, fun _ => none, fun _ => 0⟩

/-- the locks allow a task a step: a lock is to be taken only if it is free, and a shard can be accessed unless another
task holds its lock -/
def allows {β : Type} (p : Pool n) (t : Fin n) : Act β → Bool
  | .lock i => (p.owner i).isNone
  | act => act.shard?.all fun i => (p.owner i).all (· = t)

/-- the locks after a step -/
def ownerAfter {β : Type} (p : Pool n) (t : Fin n) : Act β → Nat → Option (Fin n)
  | .lock i => Function.update p.owner i (some t)
  | .unlock i => Function.update p.owner i none
  | _ => p.owner

def step (p : Pool n) : Move n → Pool n
  | .begin t call =>
    match p.rest t with
    | none => { p with rest := Function.update p.rest t (some (call.routine p.store)) }
    | some _ => p
  | .advance t =>
    match p.rest t with
    | none => p
    | some (.done _) => { p with rest := Function.update p.rest t none }
    | some (.step act next) =>
      if p.allows t act then
        let (answer, store) := act.perform p.store
        { store, owner := p.ownerAfter t act
          rest := Function.update p.rest t (some (next answer))
          account := Function.update p.account t (p.account t + act.booked answer) }
      else p
  | .drift popularity => { p with store := { p.store with popularity } }

def run (p : Pool n) (moves : List (Move n)) : Pool n := moves.foldl step p

end Pool

end EdgeCache.Store
