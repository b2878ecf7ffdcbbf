/-
The store seen as one flat map from keys to entries with their expiry: what each call may answer, and what may be in the
map afterwards. Which entries are evicted, and whether a new one finds room, is left open.
-/
import Mathlib.Logic.Function.Basic
import EdgeCache.Store.History

namespace EdgeCache.Store

open EdgeCache.Time EdgeCache.Freshness

/-- entries with their expiry, by key -/
abbrev FlatMap : Type := Key → Option (Entry × Option Instant)

namespace FlatMap

def empty : FlatMap := fun _ => none

/-- the entry of a key, unless it is expired -/
def served (m : FlatMap) (now : Instant) (key : Key) : Option Entry :=
  (m key).bind fun stored => if isExpired now stored then none else some stored.1

/-- `m'` is `m` without some keys other than `key` -/
def Thinned (key : Key) (m m' : FlatMap) : Prop := m' key = m key ∧ ∀ k, m' k = m k ∨ m' k = none

/-- storing an entry: some other keys are lost, and then it is refused or written. One that costs more than the store
can hold is refused, and nothing is lost. -/
def Stores (limits : Limits) (m : FlatMap) (now : Instant) (key : Key) (entry : Entry) (lifetime : Option Span)
    (reply : Reply) (m' : FlatMap) : Prop :=
  if limits.maxCost < entry.cost then reply = .done false ∧ m' = m
  else ∃ thinned, Thinned key m thinned ∧
    (reply = .done false ∧ m' = thinned ∨
      reply = .done true ∧ m' = Function.update thinned key (some (entry, lifetime.bind now.after?)))

/-- a call may answer this and leave that -/
def Allows (limits : Limits) (m : FlatMap) : Call → Reply → FlatMap → Prop
  | .get now key, reply, m' =>
    reply = .found (m.served now key) ∧
    m' = if (m key).any (isExpired now) then Function.update m key none else m
  | .set clock _ _ key entry, reply, m' =>
    match Decision.ofHeader entry.header clock.moment with
    | .forbidden => reply = .done false ∧ m' = m
    | .unspecified => m.Stores limits clock.instant key entry limits.defaultLifetime reply m'
    | .lifetime span => m.Stores limits clock.instant key entry (some span) reply m'
  | .setFor now _ _ key entry lifetime, reply, m' => m.Stores limits now key entry (some lifetime) reply m'
  | .remove key, reply, m' => reply = .done (m key).isSome ∧ m' = Function.update m key none
  | .sweep now, reply, m' =>
    (∃ n, reply = .counted n) ∧ m' = fun key => if (m key).any (isExpired now) then none else m key

/-- a call with its answer, between what was stored before and what is stored after it -/
structure Follows (limits : Limits) (m : FlatMap) (call : Call) (reply : Reply) (m' : FlatMap) : Prop where
  allowed : m.Allows limits call reply m'
  /-- nothing changes under another key, other than by being lost -/
  others : ∀ k, call.key? ≠ some k → m' k = m k ∨ m' k = none
  /-- a version stays where a new one is refused -/
  refused : ∀ k, call.key? = some k → reply = .done false → m' k = m k

/-- calls in a row may get these answers and leave that -/
inductive Runs (limits : Limits) : FlatMap → List (Call × Reply) → FlatMap → Prop where
  | nil (m : FlatMap) : Runs limits m [] m
  | cons {m m' m'' : FlatMap} {call : Call} {reply : Reply} {rest : List (Call × Reply)}
      (first : Follows limits m call reply m') (rest_runs : Runs limits m' rest m'') :
      Runs limits m ((call, reply) :: rest) m''

end FlatMap

end EdgeCache.Store
