/-
How often keys were asked for, estimated in little space. Four rows of counters, each indexed by its own word of the
key, count up to 15; the estimate is the least of the four. After ten times as many increments as a row has counters,
all counters are halved, so that old popularity fades. A counter that was never touched is zero and takes no space.
-/
import Std.Data.HashMap
import EdgeCache.Store.Key

namespace EdgeCache.Store

/-- the counters of all rows and the increments since the last halving -/
structure Popularity where
  width : Nat
  counters : Std.HashMap (Nat × Nat) Nat
  additions : Nat

namespace Popularity

def rows : List Nat := [0, 1, 2, 3]

/-- counters stop here -/
def countLimit : Nat := 15

/-- the least and the greatest number of counters in a row -/
def widthRange : Nat × Nat := (64, 0x400000)

/-- an empty estimate for about `capacity` keys -/
def new (capacity : Nat) : Popularity :=
  ⟨(max widthRange.1 (min capacity widthRange.2)).nextPowerOfTwo, ∅, 0⟩

def halvingPeriod (p : Popularity) : Nat := 10 * p.width

def place (p : Popularity) (key : Key) (row : Nat) : Nat := key.word row % p.width

def count (p : Popularity) (row place : Nat) : Nat := p.counters.getD (row, place) 0

def bump (p : Popularity) (key : Key) (row : Nat) : Popularity :=
  let i := p.place key row
  { p with counters := p.counters.insert (row, i) (min (p.count row i + 1) countLimit) }

/-- half of every counter, rounded down -/
def halve (p : Popularity) : Popularity := { p with counters := p.counters.map fun _ n => n / 2, additions := 0 }

def increment (p : Popularity) (key : Key) : Popularity :=
  let p := rows.foldl (fun p row => p.bump key row) p
  let p := { p with additions := p.additions + 1 }
  if p.additions = p.halvingPeriod then p.halve else p

/-- the least of a key's counters -/
def estimate (p : Popularity) (key : Key) : Nat :=
  (rows.map fun row => p.count row (p.place key row)).min?.getD 0

end Popularity

end EdgeCache.Store
