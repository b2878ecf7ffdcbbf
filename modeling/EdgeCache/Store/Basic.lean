/-
The store of responses: a bounded number of entries with a bounded total cost, spread over shards.

A new entry first reserves its share of the budget. While the budget is used up, entries are evicted: a few
neighbours of one shard are looked at, an expired one goes first, else the least popular one, and only if the newcomer
is at least as popular. A new version of a stored entry keeps the budget of the old one, and an old version stays
where a new one is refused.

Two things are not decided here and come in as arguments: the readings of the clocks, and the picks, which say at which
shard an eviction starts and which neighbours it looks at.
-/
import EdgeCache.Store.Budget
import EdgeCache.Store.Popularity
import EdgeCache.Store.Shard
import EdgeCache.Freshness.Decision

namespace EdgeCache.Store

open EdgeCache.Time EdgeCache.Message EdgeCache.Freshness

/-- limits, and the lifetime of entries that bring none; without one they never expire -/
structure Limits where
  maxObjects : Nat
  maxCost : Nat
  defaultLifetime : Option Span
deriving DecidableEq

inductive LimitError where
  | noObjects
  | noCost
deriving DecidableEq

def LimitError.message : LimitError → String
  | .noObjects => "cache max_objects must be greater than zero"
  | .noCost => "cache max_cost must be greater than zero"

/-- readings of the clock that expiry goes by and of the clock that dates go by -/
structure Clock where
  instant : Instant
  moment : Moment
deriving DecidableEq, Inhabited

/-- where an eviction starts, and which position its sample of a shard starts from -/
structure Pick where
  shard : Nat
  position : Nat → Nat

/-- what an attempt to evict led to -/
inductive Eviction where
  | evicted
  /-- the least popular neighbour is more popular than the newcomer -/
  | refused
  /-- nothing was found -/
  | nothing
deriving DecidableEq

/-- what an attempt to replace a stored version led to -/
inductive Replacement where
  | done
  | absent
  /-- the new version costs more than the stored one, whose cost is `old`, and the budget has no room for that -/
  | needsRoom (old : Nat)
deriving DecidableEq

def maxEvictions : Nat := 1024

def maxShards : Nat := 64

end EdgeCache.Store

namespace EdgeCache

open Store Time Message Freshness

structure ResponseStore where
  shards : Array Shard
  popularity : Popularity
  budget : Budget
  defaultLifetime : Option Span

namespace ResponseStore

def new (limits : Limits) : Except LimitError ResponseStore :=
  if limits.maxObjects = 0 then .error .noObjects
  else if limits.maxCost = 0 then .error .noCost
  else .ok {
    shards := Array.replicate (min limits.maxObjects maxShards).nextPowerOfTwo .empty
    popularity := .new limits.maxObjects
    budget := { maxObjects := limits.maxObjects, maxCost := limits.maxCost, objects := 0, cost := 0 }
    defaultLifetime := limits.defaultLifetime }

/-- the number of entries, expired ones included -/
def size (s : ResponseStore) : Nat := s.budget.objects.toNat

def cost (s : ResponseStore) : Nat := s.budget.cost.toNat

def shardOf (s : ResponseStore) (key : Key) : Nat := key.word 0 % s.shards.size

/-- a shard by its number; there is nothing in shards that do not exist -/
def shardAt (s : ResponseStore) (i : Nat) : Shard := s.shards.getD i .empty

/-- change a shard -/
def setShard (s : ResponseStore) (i : Nat) (shard : Shard) : ResponseStore :=
  { s with shards := s.shards.setIfInBounds i shard }

def slot? (s : ResponseStore) (key : Key) : Option Slot := (s.shardAt (s.shardOf key)).slot? key

/-- count one request of a key -/
def touch (s : ResponseStore) (key : Key) : ResponseStore := { s with popularity := s.popularity.increment key }

def put (s : ResponseStore) (i : Nat) (key : Key) (entry : Entry) (expiry : Option Instant) : ResponseStore :=
  s.setShard i ((s.shardAt i).insert key entry expiry)

/-- take a key out of a shard; the entry that was there -/
def takeOut (s : ResponseStore) (i : Nat) (key : Key) : Option Entry × ResponseStore :=
  match (s.shardAt i).remove? key with
  | some (entry, shard) => (some entry, s.setShard i shard)
  | none => (none, s)

/-- take a key out of a shard and give its budget back; whether it was there -/
def drop (s : ResponseStore) (i : Nat) (key : Key) : Bool × ResponseStore :=
  match s.takeOut i key with
  | (some entry, s) => (true, { s with budget := s.budget.release entry.cost })
  | (none, s) => (false, s)

/-! ## Looking up, removing, sweeping -/

/-- look up an entry that is still to be served; an expired one is taken out -/
def get (s : ResponseStore) (now : Instant) (key : Key) : Option Entry × ResponseStore :=
  let s := s.touch key
  match s.slot? key with
  | none => (none, s)
  | some slot => if slot.isExpired now then (none, (s.drop (s.shardOf key) key).2) else (some slot.entry, s)

/-- take out an entry; whether there was one -/
def remove (s : ResponseStore) (key : Key) : Bool × ResponseStore := s.drop (s.shardOf key) key

/-- take keys out of a shard, counting those that were there -/
def dropAll (s : ResponseStore) (i : Nat) (keys : List Key) : Nat × ResponseStore :=
  keys.foldl (fun (n, s) key =>
    let (found, s) := s.drop i key
    (if found then n + 1 else n, s)) (0, s)

/-- take out every expired entry; how many there were -/
def sweep (s : ResponseStore) (now : Instant) : Nat × ResponseStore :=
  (List.range s.shards.size).foldl (fun (n, s) i =>
    let (m, s) := s.dropAll i ((s.shardAt i).expiredKeys now)
    (n + m, s)) (0, s)

/-! ## Evicting -/

/-- the victim among neighbours: the first expired one, else the first of the least popular, never `kept` -/
def victim? (p : Popularity) (now : Instant) (kept : Key) (best : Option (Key × Nat)) :
    List (Key × Slot) → Option (Key × Nat)
  | [] => best
  | (key, slot) :: rest =>
    if key = kept then victim? p now kept best rest
    else if slot.isExpired now then some (key, 0)
    else
      let n := p.estimate key
      victim? p now kept (if best.all (n < ·.2) then some (key, n) else best) rest

/-- all shards, from a given one on, taken as a circle -/
def shardCircle (s : ResponseStore) (start : Nat) : List Nat :=
  (List.range s.shards.size).map fun i => (start + i) % s.shards.size

/-- the victim of the first shard that has one, with the shard and the popularity that counts for it -/
def candidate? (s : ResponseStore) (now : Instant) (pick : Pick) (kept : Key) : Option (Nat × Key × Nat) :=
  (s.shardCircle pick.shard).findSome? fun i =>
    (victim? s.popularity now kept none ((s.shardAt i).sample (pick.position i))).map fun (key, n) => (i, key, n)

/-- evict one entry other than `kept` for a newcomer of popularity `incoming` -/
def evict (s : ResponseStore) (now : Instant) (pick : Pick) (kept : Key) (incoming : Nat) : Eviction × ResponseStore :=
  match s.candidate? now pick kept with
  | none => (.nothing, s)
  | some (i, key, n) =>
    if !((s.shardAt i).slot? key).any (·.isExpired now) ∧ incoming < n then (.refused, s)
    else (.evicted, (s.drop i key).2)

/-- reserve a share of the budget, evicting while it is used up. `rounds` attempts are left, and `idle` of those made
found nothing. Every round reads the clock anew. -/
def makeRoom (s : ResponseStore) (readings : Nat → Instant) (picks : Nat → Pick) (key : Key)
    (objects cost incoming : Nat) : (rounds idle : Nat) → Bool × ResponseStore
  | 0, _ => (false, s)
  | rounds + 1, idle =>
    match s.budget.reserve objects cost with
    | (true, budget) => (true, { s with budget })
    | (false, budget) =>
      match { s with budget }.evict (readings rounds) (picks rounds) key incoming with
      | (.evicted, s) => s.makeRoom readings picks key objects cost incoming rounds idle
      | (.refused, s) => (false, s)
      | (.nothing, s) =>
        if idle + 1 > s.shards.size then (false, s)
        else s.makeRoom readings picks key objects cost incoming rounds (idle + 1)

def reserve (s : ResponseStore) (readings : Nat → Instant) (picks : Nat → Pick) (key : Key) (objects cost : Nat) :
    Bool × ResponseStore :=
  s.makeRoom readings picks key objects cost (s.popularity.estimate key) maxEvictions 0

/-! ## Storing -/

/-- put an entry under its key, whose budget is reserved -/
def publish (s : ResponseStore) (key : Key) (entry : Entry) (expiry : Option Instant) : ResponseStore :=
  s.put (s.shardOf key) key entry expiry

/-- put a new version in the place of a stored one, if the budget allows it without an eviction -/
def replaceInPlace (s : ResponseStore) (key : Key) (entry : Entry) (expiry : Option Instant) :
    Replacement × ResponseStore :=
  match s.slot? key with
  | none => (.absent, s)
  | some slot =>
    let old := slot.entry.cost
    if old < entry.cost then
      match s.budget.reserve 0 (entry.cost - old) with
      | (true, budget) => (.done, { s with budget }.publish key entry expiry)
      | (false, budget) => (.needsRoom old, { s with budget })
    else
      let s := s.publish key entry expiry
      (.done, if entry.cost < old then { s with budget := s.budget.releaseCost (old - entry.cost) } else s)

/-- make room for what a new version costs more than the stored one of cost `old`. If that one is no longer there, the
room is given back. -/
def grow (s : ResponseStore) (readings : Nat → Instant) (picks : Nat → Pick) (key : Key) (entry : Entry)
    (expiry : Option Instant) (old : Nat) : Bool × ResponseStore :=
  match s.reserve readings picks key 0 (entry.cost - old) with
  | (false, s) => (false, s)
  | (true, s) =>
    if (s.slot? key).any (·.entry.cost = old) then (true, s.publish key entry expiry)
    else (false, { s with budget := s.budget.releaseCost (entry.cost - old) })

/-- make room for an entry whose key is not stored. A version that came in between is replaced. -/
def introduce (s : ResponseStore) (readings : Nat → Instant) (picks : Nat → Pick) (key : Key) (entry : Entry)
    (expiry : Option Instant) : Bool × ResponseStore :=
  match s.reserve readings picks key 1 entry.cost with
  | (false, s) => (false, s)
  | (true, s) =>
    let published := s.publish key entry expiry
    match s.slot? key with
    | some old => (true, { published with budget := published.budget.release old.entry.cost })
    | none => (true, published)

/-- store an entry for a lifetime, or for good without one; whether it was admitted. The lifetime starts at `now`;
evictions go by `readings` of the clock. -/
def insert (s : ResponseStore) (now : Instant) (picks : Nat → Pick) (key : Key) (entry : Entry)
    (lifetime : Option Span) (readings : Nat → Instant := fun _ => now) : Bool × ResponseStore :=
  let s := s.touch key
  if s.budget.maxCost < entry.cost then (false, s)
  else
    let expiry := lifetime.bind now.after?
    match s.replaceInPlace key entry expiry with
    | (.done, s) => (true, s)
    | (.needsRoom old, s) => s.grow readings picks key entry expiry old
    | (.absent, s) => s.introduce readings picks key entry expiry

/-- store an entry for as long as its header says, or for the default lifetime -/
def set (s : ResponseStore) (clock : Clock) (picks : Nat → Pick) (key : Key) (entry : Entry)
    (readings : Nat → Instant := fun _ => clock.instant) : Bool × ResponseStore :=
  match Decision.ofHeader entry.header clock.moment with
  | .forbidden => (false, s)
  | .unspecified => s.insert clock.instant picks key entry s.defaultLifetime readings
  | .lifetime span => s.insert clock.instant picks key entry (some span) readings

end ResponseStore

end EdgeCache
