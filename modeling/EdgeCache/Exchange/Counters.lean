/-
Totals since the start: answers from the store, requests that the store could not answer, and failures of backends.
-/
namespace EdgeCache.Exchange

/-- totals -/
structure Counters where
  hits : Nat := 0
  misses : Nat := 0
  errors : Nat := 0
deriving DecidableEq

namespace Counters

def hit (c : Counters) : Counters := { c with hits := c.hits + 1 }

def miss (c : Counters) : Counters := { c with misses := c.misses + 1 }

def failure (c : Counters) : Counters := { c with errors := c.errors + 1 }

def failureIf (c : Counters) (failed : Bool) : Counters := if failed then c.failure else c

end Counters

end EdgeCache.Exchange
