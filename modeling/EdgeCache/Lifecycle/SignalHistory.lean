/-
Histories of a stop signal: what is done with it, in the order in which it is done, what the receivers find, and which of
them are still subscribed. Receivers are numbered in the order in which they subscribed.
-/
import EdgeCache.Lifecycle.StopSignal

namespace EdgeCache.Lifecycle

/-- something that is done with a stop signal -/
inductive SignalUse where
  | subscribe
  | trigger
  | drop (number : Nat)
  | receive (number : Nat)
deriving DecidableEq

namespace StopSignal

/-- do it -/
def step (s : StopSignal) : SignalUse → StopSignal
  | .subscribe => s.subscribe
  | .trigger => s.trigger
  | .drop number => s.drop number
  | .receive number => (s.receive number).2

def run (s : StopSignal) (uses : List SignalUse) : StopSignal := uses.foldl step s

def after (uses : List SignalUse) : StopSignal := run {} uses

/-- what a receiver finds while a signal is used, each time that it looks -/
def findings (s : StopSignal) (number : Nat) : List SignalUse → List Receipt
  | [] => []
  | u :: uses =>
    (if u = .receive number then [(s.receive number).1] else []) ++ (s.step u).findings number uses

/-- what a receiver of a new signal finds while it is used -/
def receipts (number : Nat) (uses : List SignalUse) : List Receipt := findings {} number uses

/-- a receiver subscribes before the first trigger -/
def IsEarly (number : Nat) (uses : List SignalUse) : Prop :=
  number < (uses.takeWhile (· ≠ .trigger)).count .subscribe

instance (number : Nat) (uses : List SignalUse) : Decidable (IsEarly number uses) :=
  inferInstanceAs (Decidable (_ < _))

/-- what is done with a signal once a receiver has subscribed -/
def lifetime : Nat → List SignalUse → List SignalUse
  | _, [] => []
  | 0, .subscribe :: uses => uses
  | number + 1, .subscribe :: uses => lifetime number uses
  | number, _ :: uses => lifetime number uses

/-- a receiver has been dropped; drops of its number from before it subscribed do not count -/
def IsDropped (number : Nat) (uses : List SignalUse) : Prop := .drop number ∈ lifetime number uses

instance (number : Nat) (uses : List SignalUse) : Decidable (IsDropped number uses) :=
  inferInstanceAs (Decidable (_ ∈ _))

/-- a receiver has subscribed and has not been dropped -/
def IsSubscribed (number : Nat) (uses : List SignalUse) : Prop :=
  number < uses.count .subscribe ∧ ¬IsDropped number uses

instance (number : Nat) (uses : List SignalUse) : Decidable (IsSubscribed number uses) :=
  inferInstanceAs (Decidable (_ ∧ _))

/-- how many of the receivers that subscribed have been dropped -/
def droppedCount (uses : List SignalUse) : Nat :=
  (List.range (uses.count .subscribe)).countP fun number => IsDropped number uses

end StopSignal

end EdgeCache.Lifecycle
