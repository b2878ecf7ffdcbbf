/-
The signal that stops every task. Tasks subscribe; the first trigger sends one message to all who are subscribed then,
and later triggers send nothing. The channel holds one message: a receiver for which a second one came is behind, and
is told so before it gets the newer one.
-/
namespace EdgeCache.Lifecycle

/-- a receiver: how many messages wait for it, until it is dropped -/
inductive Receiver where
  | live (pending : Nat)
  | dropped
deriving DecidableEq

/-- what a receiver finds -/
inductive Receipt where
  | signal
  | empty
  /-- messages were lost -/
  | behind
  /-- there is no such receiver -/
  | absent
deriving DecidableEq

namespace Receiver

def isLive : Receiver → Bool
  | live _ => true
  | dropped => false

def deliver : Receiver → Receiver
  | live n => live (n + 1)
  | dropped => dropped

def take : Receiver → Receipt × Receiver
  | live 0 => (.empty, live 0)
  | live 1 => (.signal, live 0)
  | live (_ + 2) => (.behind, live 1)
  | dropped => (.absent, dropped)

end Receiver

/-- the sending side, and all who ever subscribed -/
structure StopSignal where
  triggered : Bool := false
  receivers : List Receiver := []

namespace StopSignal

/-- one more receiver, for which nothing waits -/
def subscribe (s : StopSignal) : StopSignal := { s with receivers := s.receivers ++ [.live 0] }

/-- send one message, unless that was done before -/
def trigger (s : StopSignal) : StopSignal :=
  if s.triggered then s else ⟨true, s.receivers.map Receiver.deliver⟩

/-- a receiver goes away -/
def drop (s : StopSignal) (i : Nat) : StopSignal :=
  { s with receivers := s.receivers.modify i fun _ => .dropped }

/-- a receiver looks for a message -/
def receive (s : StopSignal) (i : Nat) : Receipt × StopSignal :=
  match s.receivers[i]? with
  | none => (.absent, s)
  | some r => (r.take.1, { s with receivers := s.receivers.set i r.take.2 })

def receiverCount (s : StopSignal) : Nat := s.receivers.countP Receiver.isLive

end StopSignal

end EdgeCache.Lifecycle
