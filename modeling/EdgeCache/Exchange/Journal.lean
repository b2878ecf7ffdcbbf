/-
What a proxy does over time, with a record of it. Exchanges go on at the same time, each in steps of its own: it looks
into the store, its backend answers, and the answer is stored if it may be and handed on. A journal holds the exchanges
under way, what the backends answered so far and which of that was stored.
-/
import Mathlib.Logic.Function.Basic
import EdgeCache.Exchange.Traffic
import EdgeCache.Store.History

namespace EdgeCache

open EdgeCache.Exchange EdgeCache.Freshness EdgeCache.Message EdgeCache.Store EdgeCache.Time

/-- how long a decision lets an entry live when entries that say nothing live for `default`; none for good -/
def Freshness.Decision.lifetimeOr (default : Option Span) : Decision → Option Span
  | .lifetime d => some d
  | _ => default

def Store.Entry.lifetime? (e : Entry) (now : Moment) (default : Option Span) : Option Span :=
  (Decision.ofHeader e.header now).lifetimeOr default

namespace Proxy

variable {Backend : Type}

/-- the call that stores an entry for the lifetime that its header gives it, unless that forbids it -/
def keepCall? (clock : Clock) (picks : Nat → Pick) (key : Key) (entry : Entry) (readings : Nat → Instant) :
    Option Call :=
  match Decision.ofHeader entry.header clock.moment with
  | .forbidden => none
  | .lifetime d => some (.setFor clock.instant readings picks key entry d)
  | .unspecified => some (.set clock readings picks key entry)

/-- the call of the store that the last step of an exchange makes -/
def settleCall? (p : Proxy Backend) (clock : Clock) (picks : Nat → Pick) (r : Request) (a : Answer)
    (readings : Nat → Instant) : Option Call :=
  if isForDocument r && a.reached then
    match a.response.body.read? with
    | none => none
    | some body =>
      if storableStatuses.contains a.response.status then
        keepCall? clock picks (p.keyOf r) (document a body) readings
      else none
  else none

end Proxy

namespace Exchange

/-- a request, and what a backend answered to it -/
structure Fetch where
  request : Request
  answer : Answer

/-- an answer that was stored: under which key, and what the clocks showed -/
structure Deposit where
  key : Key
  fetch : Fetch
  clock : Clock

/-- an answer leads to an entry: a document was asked for, the backend was reached, the body was read to its end, the
status may be stored, and the header that goes on to the client does not forbid it -/
structure Fetch.Yields (f : Fetch) (now : Moment) (entry : Entry) : Prop where
  forDocument : Proxy.isForDocument f.request = true
  reached : f.answer.reached = true
  whole : ∃ body, f.answer.response.body.read? = some body ∧ entry = Proxy.document f.answer body
  status : f.answer.response.status ∈ storableStatuses
  allowed : Decision.ofHeader f.answer.response.header.endToEnd now ≠ .forbidden

/-- a step of an exchange of a given number, or of the store alone -/
inductive Step where
  /-- a request arrives, and the store is looked into -/
  | lookup (number : Nat) (clock : Clock) (elapsed : Span) (request : Request)
  /-- the backend answers -/
  | fetch (number : Nat) (answer : Answer)
  /-- the answer is stored if it may be, and handed on -/
  | store (number : Nat) (clock : Clock) (picks : Nat → Pick) (elapsed : Span) (readings : Nat → Instant)
  /-- nobody waits for the response any more -/
  | abandon (number : Nat)
  /-- what is expired is taken out of the store -/
  | sweep (now : Instant)

/-- the steps that an event of an interleaving stands for -/
def Step.ofEvent : Event → List Step
  | .arrival number clock elapsed request => [.lookup number clock elapsed request]
  | .answer number clock picks elapsed answer readings =>
    [.fetch number answer, .store number clock picks elapsed readings]
  | .abandonment number => [.abandon number]

/-- exchanges under way, and what happened so far -/
structure Journal (Backend : Type) where
  traffic : Traffic Backend
  /-- by number, the answers that have come and are not yet handed on -/
  arrived : Nat → Option Fetch := fun _ => none
  /-- all that backends answered -/
  fetches : List Fetch := []
  /-- all that was stored, the latest first -/
  deposits : List Deposit := []

namespace Journal

variable {Backend : Type}

def start (p : Proxy Backend) : Journal Backend := { traffic := { proxy := p } }

def store (j : Journal Backend) : ResponseStore := j.traffic.proxy.store

def keyOf (j : Journal Backend) (r : Request) : Key := j.traffic.proxy.keyOf r

/-- what was last stored under a key -/
def latest? (j : Journal Backend) (key : Key) : Option Deposit := j.deposits.find? (·.key = key)

/-- an answer comes for a request that waits for one -/
def receive (j : Journal Backend) (number : Nat) (answer : Answer) : Journal Backend :=
  match j.traffic.pending.lookup number, j.arrived number with
  | some request, none =>
    { j with
      arrived := Function.update j.arrived number (some ⟨request, answer⟩)
      fetches := ⟨request, answer⟩ :: j.fetches }
  | _, _ => j

/-- what is stored when an answer is handed on now -/
def deposit? (j : Journal Backend) (f : Fetch) (clock : Clock) (picks : Nat → Pick) (readings : Nat → Instant) :
    Option Deposit :=
  (j.traffic.proxy.settleCall? clock picks f.request f.answer readings).bind fun call =>
    if (call.perform j.store).1.isYes then some ⟨j.keyOf f.request, f, clock⟩ else none

def step (j : Journal Backend) : Step → Effect Backend × Journal Backend
  | .lookup number clock elapsed request =>
    let (effect, traffic) := j.traffic.step (.arrival number clock elapsed request)
    (effect, { j with traffic })
  | .fetch number answer => (.nothing, j.receive number answer)
  | .store number clock picks elapsed readings =>
    match j.arrived number with
    | none => (.nothing, j)
    | some f =>
      let (effect, traffic) := j.traffic.step (.answer number clock picks elapsed f.answer readings)
      (effect,
        { traffic
          arrived := Function.update j.arrived number none
          fetches := j.fetches
          deposits := (j.deposit? f clock picks readings).toList ++ j.deposits })
  | .abandon number =>
    let (effect, traffic) := j.traffic.step (.abandonment number)
    (effect, { j with traffic, arrived := Function.update j.arrived number none })
  | .sweep now =>
    (.nothing, { j with traffic.proxy.store := (j.store.sweep now).2 })

def run (j : Journal Backend) (steps : List Step) : Journal Backend := steps.foldl (fun j s => (j.step s).2) j

/-- the steps of an exchange with nothing in between -/
def exchange (number : Nat) (clock : Clock) (elapsed : Span) (request : Request) (answer : Answer) (later : Clock)
    (picks : Nat → Pick) (taken : Span) (readings : Nat → Instant) : List Step :=
  [.lookup number clock elapsed request, .fetch number answer, .store number later picks taken readings]

/-- some steps lead from a proxy with an empty store to this journal -/
def Reachable (limits : Limits) (j : Journal Backend) : Prop :=
  ∃ p : Proxy Backend, ∃ steps, ResponseStore.new limits = .ok p.store ∧ (start p).run steps = j

def request? (j : Journal Backend) : Step → Option Request
  | .lookup _ _ _ request => some request
  | .store number .. => (j.arrived number).map (·.request)
  | _ => none

/-- a step answers a request for a document and tells the client that the response was in the store -/
structure Hits (j : Journal Backend) (s : Step) (request : Request) (response : Response) : Prop where
  about : j.request? s = some request
  document : Proxy.isForDocument request = true
  answered : ∃ number, (j.step s).1 = .response number response
  said : Outcome.hit.text ∈ response.header.values "x-cache"

end Journal

end Exchange

end EdgeCache
