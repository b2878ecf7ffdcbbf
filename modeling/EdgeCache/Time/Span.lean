/-
Lengths of time and the clock that measures them. A span counts nanoseconds; an instant is a reading of a clock that
only moves forward, and an instant too late for the clock's range does not exist.
-/
namespace EdgeCache.Time

def nanosPerSecond : Nat := 1000000000

/-- a length of time -/
structure Span where
  nanos : Nat
deriving DecidableEq, Inhabited

namespace Span

def ofSeconds (n : Nat) : Span := ⟨n * nanosPerSecond⟩

def ofParts (seconds nanos : Nat) : Span := ⟨seconds * nanosPerSecond + nanos⟩

def seconds (d : Span) : Nat := d.nanos / nanosPerSecond

/-- the nanoseconds beyond the whole seconds -/
def subsecond (d : Span) : Nat := d.nanos % nanosPerSecond

end Span

/-- a reading of the clock, in nanoseconds since it started -/
structure Instant where
  nanos : Nat
deriving DecidableEq, Inhabited

namespace Instant

/-- nanoseconds that a reading can count: whole seconds have 63 bits -/
def limit : Nat := 0x8000000000000000 * nanosPerSecond

/-- the instant a span later, if a reading can show it -/
def after? (t : Instant) (d : Span) : Option Instant :=
  if t.nanos + d.nanos < limit then some ⟨t.nanos + d.nanos⟩ else none

instance : LE Instant := ⟨fun a b => a.nanos ≤ b.nanos⟩

instance : LT Instant := ⟨fun a b => a.nanos < b.nanos⟩

instance (a b : Instant) : Decidable (a ≤ b) := inferInstanceAs (Decidable (a.nanos ≤ b.nanos))

instance (a b : Instant) : Decidable (a < b) := inferInstanceAs (Decidable (a.nanos < b.nanos))

end Instant

end EdgeCache.Time
