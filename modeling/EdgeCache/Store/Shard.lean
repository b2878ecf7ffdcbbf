/-
One shard of the store: a map from keys to slots, and the same keys in a dense list, so that a few of them can be
looked at without walking the map. A slot knows its place in the list. A key is taken out of the list by moving the
last key into its place.
-/
import Std.Data.HashMap
import EdgeCache.Store.Entry
import EdgeCache.Store.Key
import EdgeCache.Time.Span

namespace EdgeCache.Store

open EdgeCache.Time

/-- an entry with its expiry; none means that it never expires -/
structure Slot where
  entry : Entry
  expiry : Option Instant
  /-- where the key stands in the list of keys -/
  place : Nat

/-- the entry is no longer to be served -/
def Slot.isExpired (s : Slot) (now : Instant) : Bool := s.expiry.any (· ≤ now)

/-- slots by key, and the keys -/
structure Shard where
  slots : Std.HashMap Key Slot
  keys : Array Key

namespace Shard

def empty : Shard := ⟨∅, #[]⟩

def slot? (s : Shard) (key : Key) : Option Slot := s.slots[key]?

/-- put an entry under a key, in place of the one that is there -/
def insert (s : Shard) (key : Key) (entry : Entry) (expiry : Option Instant) : Shard :=
  match s.slot? key with
  | some old => { s with slots := s.slots.insert key ⟨entry, expiry, old.place⟩ }
  | none => ⟨s.slots.insert key ⟨entry, expiry, s.keys.size⟩, s.keys.push key⟩

/-- the keys with the one at a place replaced by the last -/
def withoutPlace (keys : Array Key) (place : Nat) : Array Key :=
  match keys.back? with
  | some last => (keys.setIfInBounds place last).pop
  | none => keys

/-- tell the slot of the key at a place where it stands -/
def replace (slots : Std.HashMap Key Slot) (keys : Array Key) (place : Nat) : Std.HashMap Key Slot :=
  match keys[place]? with
  | some moved => slots.modify moved fun slot => { slot with place }
  | none => slots

def remove? (s : Shard) (key : Key) : Option (Entry × Shard) :=
  match s.slot? key with
  | none => none
  | some slot =>
    let keys := withoutPlace s.keys slot.place
    some (slot.entry, ⟨replace (s.slots.erase key) keys slot.place, keys⟩)

/-- how many neighbours a sample holds -/
def sampleSize : Nat := 5

/-- up to five neighbouring keys with their slots, from a position on, the list taken as a circle -/
def sample (s : Shard) (position : Nat) : List (Key × Slot) :=
  let n := s.keys.size
  (List.range (min sampleSize n)).filterMap fun i =>
    (s.keys[(position + i) % n]?).bind fun key => (s.slot? key).map fun slot => (key, slot)

/-- the keys whose entries are no longer to be served -/
def expiredKeys (s : Shard) (now : Instant) : List Key :=
  s.keys.toList.filter fun key => (s.slot? key).any (·.isExpired now)

end Shard

end EdgeCache.Store
