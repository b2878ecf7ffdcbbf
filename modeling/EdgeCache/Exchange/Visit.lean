/-
Exchanges one after the other. A visit is one exchange from its request to its response, with nothing else going on but
sweeps of the store; a session is a list of visits. What the clock showed on the way is part of a visit.
-/
import Mathlib.Data.Finset.Dedup
import EdgeCache.Exchange.Journal

namespace EdgeCache.Exchange

open EdgeCache.Message EdgeCache.Store EdgeCache.Time

variable {Backend : Type}

def Effect.isQuestion : Effect Backend → Bool
  | .question .. => true
  | _ => false

/-- the size of a document that was read to its end -/
def Fetch.size (f : Fetch) : Nat :=
  if Proxy.isForDocument f.request then (f.answer.response.body.read?.map (·.size)).getD 0 else 0

/-- an exchange with nothing in between but sweeps -/
structure Visit where
  request : Request
  /-- sweeps before the request arrives -/
  before : List Instant
  clock : Clock
  elapsed : Span
  /-- what the backend answers if it is asked -/
  answer : Answer
  /-- sweeps until the answer has come -/
  meanwhile : List Instant
  later : Clock
  picks : Nat → Pick
  taken : Span
  readings : Nat → Instant

namespace Visit

def lookup (v : Visit) : Step := .lookup 0 v.clock v.elapsed v.request

def store (v : Visit) : Step := .store 0 v.later v.picks v.taken v.readings

def steps (v : Visit) : List Step :=
  v.before.map .sweep ++ v.lookup :: (v.meanwhile.map .sweep ++ [.fetch 0 v.answer, v.store])

/-- what the clock shows at each of them -/
def instants (v : Visit) : List Instant := v.before ++ v.clock.instant :: (v.meanwhile ++ [v.later.instant])

/-- what the backend answers to the request, if it is asked -/
def fetch (v : Visit) : Fetch := ⟨v.request, v.answer⟩

end Visit

/-- the clock never goes back from one step to the next, and its readings are ones that it can show -/
structure Timely (visits : List Visit) : Prop where
  forward : (visits.flatMap Visit.instants).Pairwise fun t u => t.nanos ≤ u.nanos
  shown : ∀ t ∈ visits.flatMap Visit.instants, t.nanos < Instant.limit

def documentKeys (p : Proxy Backend) (visits : List Visit) : Finset Key :=
  ((visits.filter (Proxy.isForDocument ·.request)).map (p.keyOf ·.request)).toFinset

namespace Journal

/-- the request is about to arrive -/
def entered (j : Journal Backend) (v : Visit) : Journal Backend := j.run (v.before.map .sweep)

/-- the store has been looked into -/
def looked (j : Journal Backend) (v : Visit) : Journal Backend := ((j.entered v).step v.lookup).2

/-- the answer is about to come, if the backend was asked -/
def waited (j : Journal Backend) (v : Visit) : Journal Backend := (j.looked v).run (v.meanwhile.map .sweep)

/-- the answer is about to be taken -/
def answered (j : Journal Backend) (v : Visit) : Journal Backend := ((j.waited v).step (.fetch 0 v.answer)).2

def serve (j : Journal Backend) (v : Visit) : Journal Backend := ((j.answered v).step v.store).2

def session (j : Journal Backend) (visits : List Visit) : Journal Backend := visits.foldl serve j

def asks (j : Journal Backend) (v : Visit) : Bool := ((j.entered v).step v.lookup).1.isQuestion

/-- the visits in which the backend is asked, in their order -/
def fetching (j : Journal Backend) : List Visit → List Visit
  | [] => []
  | v :: visits => if j.asks v then v :: (j.serve v).fetching visits else (j.serve v).fetching visits

/-- the call of the store that a visit makes with the answer -/
def call? (j : Journal Backend) (v : Visit) : Option Call :=
  ((j.answered v).arrived 0).bind fun f =>
    (j.answered v).traffic.proxy.settleCall? v.later v.picks f.request f.answer v.readings

/-- the size of the largest document that is fetched for a key in visits -/
def largest (j : Journal Backend) (visits : List Visit) (key : Key) : Nat :=
  (((j.fetching visits).filter (j.keyOf ·.request = key)).map (·.fetch.size)).max?.getD 0

end Journal

end EdgeCache.Exchange
