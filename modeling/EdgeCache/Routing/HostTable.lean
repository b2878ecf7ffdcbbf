/-
Which backend serves which host. Names are kept in small ASCII letters; a host is looked up as it is, then without its
port, and a host that no name matches goes to the default backend. An update of the hosts is a list of single changes,
so that every table a lookup can meet on the way is the result of some of them.
-/
import EdgeCache.Directory
import EdgeCache.Text.Blank
import EdgeCache.Text.Decimal

namespace EdgeCache.Routing

open EdgeCache.Text

/-- the backends of virtual hosts, and the one of all other hosts -/
structure HostTable (Backend : Type) where
  default : Backend
  hosts : Directory Backend := ∅

/-- a host without its port, if it has one. An IPv6 address in brackets keeps its colons. -/
def withoutPort? (host : List Char) : Option (List Char) := do
  let (name, port) ← cutLast ':' host
  if port = [] ∨ !port.all Char.isDigit then none
  else if name.head? = some '[' ∧ name.getLast? ≠ some ']' then none
  else return name

namespace HostTable

variable {Backend : Type}

def register (t : HostTable Backend) (host : String) (backend : Backend) : HostTable Backend :=
  { t with hosts := t.hosts.put (lower host) backend }

/-- take a host out, and tell whether it was registered -/
def unregister (t : HostTable Backend) (host : String) : Bool × HostTable Backend :=
  (t.hosts.contains (lower host), { t with hosts := t.hosts.erase (lower host) })

def names (t : HostTable Backend) : List String := t.hosts.names

/-- the backend registered for a host as it is, or for the host without its port -/
def registered? (t : HostTable Backend) (host : String) : Option Backend :=
  let host := lower (trimmed host)
  t.hosts.get? host <|> (withoutPort? host.toList).bind fun name => t.hosts.get? (String.ofList name)

def lookup (t : HostTable Backend) (host : String) : Backend := (t.registered? host).getD t.default

/-- one step of an update -/
inductive Change (Backend : Type) where
  | remove (host : String)
  | add (host : String) (backend : Backend)

def Change.apply (t : HostTable Backend) : Change Backend → HostTable Backend
  | .remove host => (t.unregister host).2
  | .add host backend => t.register host backend

/-- the steps that lead from a table to given hosts: what is not among them goes first, then they come in order -/
def changes (t : HostTable Backend) (hosts : List (String × Backend)) : List (Change Backend) :=
  (t.names.filter fun name => !hosts.any fun h => lower h.1 == name).map .remove ++
    hosts.map fun (host, backend) => .add host backend

def update (t : HostTable Backend) (hosts : List (String × Backend)) : HostTable Backend :=
  (t.changes hosts).foldl Change.apply t

end HostTable

end EdgeCache.Routing
