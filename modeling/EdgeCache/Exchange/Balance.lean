/-
What exchanges amount to: the requests that arrive, the questions to backends and the responses from the store while steps
are done, and the failures among the answers.
-/
import EdgeCache.Exchange.Journal

namespace EdgeCache.Exchange

open EdgeCache.Message

variable {Backend : Type}

/-- the request that arrives at a step, with the number of its exchange -/
def Step.arrival? : Step → Option (Nat × Request)
  | .lookup number _ _ request => some (number, request)
  | _ => none

/-- the exchange that a step begins -/
def Step.begun? (s : Step) : Option Nat := s.arrival?.map (·.1)

def Step.isForDocument (s : Step) : Bool := s.arrival?.any (Proxy.isForDocument ·.2)

/-- another request arrives, and its body can be read -/
def Step.isPassed (s : Step) : Bool :=
  s.arrival?.any fun (_, request) => !Proxy.isForDocument request && request.body.read?.isSome

def Effect.asked? : Effect Backend → Option Nat
  | .question number _ _ => some number
  | _ => none

namespace Fetch

def isUnreached (f : Fetch) : Bool := !f.answer.reached

/-- a document breaks off -/
def isBroken (f : Fetch) : Bool := Proxy.isForDocument f.request && f.answer.response.body.read?.isNone

end Fetch

namespace Journal

/-- the exchange whose client is told at a step that its document was in the store -/
def served? (j : Journal Backend) (s : Step) : Option Nat :=
  match j.request? s, (j.step s).1 with
  | some request, .response number response =>
    if Proxy.isForDocument request ∧ Outcome.hit.text ∈ response.header.values "x-cache" then some number else none
  | _, _ => none

/-- the exchanges for which a backend is asked while steps are done, once for each question -/
def asking (j : Journal Backend) : List Step → List Nat
  | [] => []
  | s :: steps => (j.step s).1.asked?.toList ++ (j.step s).2.asking steps

/-- the exchanges that are served from the store while steps are done, once for each response -/
def served (j : Journal Backend) : List Step → List Nat
  | [] => []
  | s :: steps => (j.served? s).toList ++ (j.step s).2.served steps

/-- every exchange has a number of its own and comes to its end -/
structure Completed (j : Journal Backend) (steps : List Step) : Prop where
  numbers : (steps.filterMap Step.begun?).Nodup
  /-- nobody goes away -/
  patient : ∀ number, .abandon number ∉ steps
  ended : (j.run steps).traffic.pending = []

end Journal

end EdgeCache.Exchange
