/-
How often a key was asked for lately, counted for that key alone. This is the count that the estimate of its popularity
stands for: it goes up by one with each request of the key, as far as a counter goes, and is halved whenever a period of
requests, of whatever keys, is over.
-/
import EdgeCache.Store.Popularity

namespace EdgeCache.Store

/-- a count after so many requests: halved if a period is over with the last one -/
def decayed (period total n : Nat) : Nat := if total % period = 0 then n / 2 else n

/-- the count of one key, and the number of requests of any key -/
structure Tally where
  count : Nat
  total : Nat
deriving DecidableEq

/-- count one request for a key that has its counter to itself -/
def Tally.next (period : Nat) (key : Key) (t : Tally) (request : Key) : Tally where
  count := decayed period (t.total + 1) (if request = key then min (t.count + 1) Popularity.countLimit else t.count)
  total := t.total + 1

def tally (period : Nat) (key : Key) (requests : List Key) : Tally := requests.foldl (Tally.next period key) ⟨0, 0⟩

/-- the estimates for about `capacity` keys after requests -/
def Popularity.after (capacity : Nat) (requests : List Key) : Popularity := requests.foldl increment (new capacity)

end EdgeCache.Store
