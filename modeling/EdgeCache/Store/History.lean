/-
Histories of the store: calls as data, with what they read from outside, what a store holds after them, and the rounds
in which an entry looked for room.
-/
import Mathlib.Algebra.GroupWithZero.Nat
import EdgeCache.Store.Basic

namespace EdgeCache.Store

open EdgeCache.Time EdgeCache.Message EdgeCache.Freshness

/-- a call of the store, with its readings of the clocks and its picks -/
inductive Call where
  | get (now : Instant) (key : Key)
  | set (clock : Clock) (readings : Nat → Instant) (picks : Nat → Pick) (key : Key) (entry : Entry)
  /-- store for a given lifetime, whatever the header says -/
  | setFor (now : Instant) (readings : Nat → Instant) (picks : Nat → Pick) (key : Key) (entry : Entry) (lifetime : Span)
  | remove (key : Key)
  | sweep (now : Instant)

/-- the key that a call is about; a sweep is about all -/
def Call.key? : Call → Option Key
  | .get _ key | .set _ _ _ key _ | .setFor _ _ _ key _ _ | .remove key => some key
  | .sweep _ => none

/-- the key and the entry of a call that is to store one: a header that forbids it is obeyed, unless the call gives a
lifetime of its own -/
def Call.stores? : Call → Option (Key × Entry)
  | .set clock _ _ key entry =>
    if Decision.ofHeader entry.header clock.moment = .forbidden then none else some (key, entry)
  | .setFor _ _ _ key entry _ => some (key, entry)
  | _ => none

inductive Reply where
  | found (entry : Option Entry)
  | done (yes : Bool)
  | counted (n : Nat)

def Reply.isYes : Reply → Bool
  | .done yes => yes
  | _ => false

def Call.perform (s : ResponseStore) : Call → Reply × ResponseStore
  | .get now key => (.found (s.get now key).1, (s.get now key).2)
  | .set clock readings picks key entry =>
    (.done (s.set clock picks key entry readings).1, (s.set clock picks key entry readings).2)
  | .setFor now readings picks key entry lifetime =>
    (.done (s.insert now picks key entry (some lifetime) readings).1,
      (s.insert now picks key entry (some lifetime) readings).2)
  | .remove key => (.done (s.remove key).1, (s.remove key).2)
  | .sweep now => (.counted (s.sweep now).1, (s.sweep now).2)

/-- a round of a reservation that found no room: the store that it found, and what its eviction goes by -/
structure Round where
  store : ResponseStore
  reading : Instant
  pick : Pick

/-- an entry that a round evicts, and the reading of the clock that the round goes by -/
structure Victim where
  key : Key
  slot : Slot
  reading : Instant

/-- what a round evicts for an entry of key `kept` and popularity `incoming` -/
def Round.victim? (r : Round) (kept : Key) (incoming : Nat) : Option Victim :=
  match (r.store.evict r.reading r.pick kept incoming).1 with
  | .evicted =>
    (r.store.candidate? r.reading r.pick kept).bind fun (i, key, _) =>
      ((r.store.shardAt i).slot? key).map fun slot => ⟨key, slot, r.reading⟩
  | _ => none

/-- what rounds evict, in their order -/
def victims (kept : Key) (incoming : Nat) (rounds : List Round) : List Victim :=
  rounds.filterMap (·.victim? kept incoming)

/-- what a slot holds, wherever its key stands -/
def Slot.content (s : Slot) : Entry × Option Instant := (s.entry, s.expiry)

/-- a stored entry is no longer to be served -/
def isExpired (now : Instant) (stored : Entry × Option Instant) : Bool := stored.2.any (· ≤ now)

/-- what is expired stays expired -/
theorem isExpired_later {t now : Instant} (ht : t.nanos ≤ now.nanos) {stored : Entry × Option Instant}
    (h : isExpired t stored = true) : isExpired now stored = true := by
  obtain ⟨entry, expiry⟩ := stored
  cases expiry with
  | none => cases h
  | some e =>
    have he : e ≤ t := of_decide_eq_true h
    exact decide_eq_true (Nat.le_trans he ht)

def Shard.cost (s : Shard) : Nat := (s.slots.toList.map (·.2.entry.cost)).sum

end EdgeCache.Store

namespace EdgeCache.ResponseStore

open EdgeCache.Store EdgeCache.Time

def run (s : ResponseStore) (calls : List Call) : ResponseStore := calls.foldl (fun s c => (c.perform s).2) s

/-- calls one after the other, with their answers -/
def transcript (s : ResponseStore) : List Call → List (Call × Reply)
  | [] => []
  | call :: calls => (call, (call.perform s).1) :: (call.perform s).2.transcript calls

/-- some calls lead from an empty store to this one -/
def Reachable (s : ResponseStore) : Prop := ∃ limits fresh calls, new limits = .ok fresh ∧ fresh.run calls = s

def slotCount (s : ResponseStore) : Nat := (s.shards.toList.map (·.slots.size)).sum

def slotCost (s : ResponseStore) : Nat := (s.shards.toList.map (·.cost)).sum

/-- the store as one flat map: what is stored under a key, and when it expires -/
def contents (s : ResponseStore) (key : Key) : Option (Entry × Option Instant) := (s.slot? key).map (·.content)

/-- the rounds of `makeRoom` that found no room, in their order -/
def rounds (s : ResponseStore) (readings : Nat → Instant) (picks : Nat → Pick) (key : Key)
    (objects cost incoming : Nat) : (left idle : Nat) → List Round
  | 0, _ => []
  | left + 1, idle =>
    match s.budget.reserve objects cost with
    | (true, _) => []
    | (false, budget) =>
      let s := { s with budget }
      ⟨s, readings left, picks left⟩ ::
        match s.evict (readings left) (picks left) key incoming with
        | (.evicted, s) => s.rounds readings picks key objects cost incoming left idle
        | (.refused, _) => []
        | (.nothing, s) =>
          if idle + 1 > s.shards.size then []
          else s.rounds readings picks key objects cost incoming left (idle + 1)

/-- the rounds of `insert` -/
def insertRounds (s : ResponseStore) (now : Instant) (readings : Nat → Instant) (picks : Nat → Pick) (key : Key)
    (entry : Entry) (lifetime : Option Span) : List Round :=
  let s := s.touch key
  if s.budget.maxCost < entry.cost then []
  else
    match s.replaceInPlace key entry (lifetime.bind now.after?) with
    | (.done, _) => []
    | (.needsRoom old, s) =>
      s.rounds readings picks key 0 (entry.cost - old) (s.popularity.estimate key) maxEvictions 0
    | (.absent, s) => s.rounds readings picks key 1 entry.cost (s.popularity.estimate key) maxEvictions 0

end EdgeCache.ResponseStore

namespace EdgeCache.Store

open EdgeCache.Freshness

/-- the rounds of a call; only one that stores an entry has any -/
def Call.rounds (s : ResponseStore) : Call → List Round
  | .set clock readings picks key entry =>
    match Decision.ofHeader entry.header clock.moment with
    | .forbidden => []
    | .unspecified => s.insertRounds clock.instant readings picks key entry s.defaultLifetime
    | .lifetime span => s.insertRounds clock.instant readings picks key entry (some span)
  | .setFor now readings picks key entry lifetime => s.insertRounds now readings picks key entry (some lifetime)
  | _ => []

/-- what a call for a key evicts, in order; the request is counted before -/
def Call.victims (s : ResponseStore) (key : Key) (call : Call) : List Victim :=
  Store.victims key ((s.touch key).popularity.estimate key) (call.rounds s)

end EdgeCache.Store
