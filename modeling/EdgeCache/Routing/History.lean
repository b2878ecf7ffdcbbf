/-
Histories of a table of hosts: registrations and removals in the order in which they were made. A lookup between two of
them meets the table that the earlier ones led to.
-/
import EdgeCache.Routing.HostTable

namespace EdgeCache.Routing.HostTable

open EdgeCache.Text

variable {Backend : Type}

/-- the host that a change is about, in small letters -/
def Change.about : Change Backend → String
  | .remove host => lower host
  | .add host _ => lower host

/-- what its host is bound to after a change -/
def Change.binding? : Change Backend → Option Backend
  | .remove _ => none
  | .add _ backend => some backend

def after (t : HostTable Backend) (changes : List (Change Backend)) : HostTable Backend := changes.foldl Change.apply t

/-- the table that a history leads to, from one without hosts -/
def reached (default : Backend) (history : List (Change Backend)) : HostTable Backend := after { default } history

/-- a registration of a host, under any spelling of its name, that no later change of the host followed -/
def InForce (history : List (Change Backend)) (host : String) (backend : Backend) : Prop :=
  ∃ earlier name later, history = earlier ++ .add name backend :: later ∧ lower name = host ∧
    ∀ c ∈ later, c.about ≠ host

/-- a host has a registration in force -/
def Bound (history : List (Change Backend)) (host : String) : Prop := ∃ backend, InForce history host backend

end EdgeCache.Routing.HostTable
