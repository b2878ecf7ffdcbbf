/-
The limits of the store and what is used of them. The counters are integers: one that went below zero would show, and
that it once did is remembered.
-/
namespace EdgeCache.Store

/-- limits, and what is reserved of them -/
structure Budget where
  maxObjects : Nat
  maxCost : Nat
  objects : Int
  cost : Int
  /-- something was given back that had not been reserved -/
  overdrawn : Bool := false
deriving DecidableEq

namespace Budget

/-- count more objects, if the limit allows them -/
def reserveObjects? (b : Budget) (n : Nat) : Option Budget :=
  if n = 0 then some b
  else if b.objects + n ≤ b.maxObjects then some { b with objects := b.objects + n }
  else none

/-- count more cost, if the limit allows it -/
def reserveCost? (b : Budget) (n : Nat) : Option Budget :=
  if b.cost + n ≤ b.maxCost then some { b with cost := b.cost + n } else none

def releaseObjects (b : Budget) (n : Nat) : Budget :=
  { b with objects := b.objects - n, overdrawn := b.overdrawn || b.objects < n }

def releaseCost (b : Budget) (n : Nat) : Budget :=
  { b with cost := b.cost - n, overdrawn := b.overdrawn || b.cost < n }

/-- reserve objects and cost, or neither: objects whose cost finds no room are given back -/
def reserve (b : Budget) (objects cost : Nat) : Bool × Budget :=
  match b.reserveObjects? objects with
  | none => (false, b)
  | some b =>
    match b.reserveCost? cost with
    | some b => (true, b)
    | none => (false, b.releaseObjects objects)

/-- give back one object and its cost -/
def release (b : Budget) (cost : Nat) : Budget := (b.releaseObjects 1).releaseCost cost

end Budget

end EdgeCache.Store
