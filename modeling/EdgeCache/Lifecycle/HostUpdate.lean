/-
Updates of the hosts, one after the other: the single changes that one makes, and which updates a task follows.
-/
import EdgeCache.Lifecycle.Reload
import EdgeCache.Routing.History

namespace EdgeCache.Lifecycle

open EdgeCache.Address EdgeCache.Routing EdgeCache.Settings EdgeCache.Text

/-- the changes that an update of the hosts makes, in their order; none if an origin is bad -/
def hostChanges {α : Type} (connect : Origin → α) (hosts : Directory Backend) (t : HostTable α) :
    List (HostTable.Change α) :=
  match hostOrigins hosts with
  | .ok origins => t.changes (origins.map fun (host, o) => (host, connect o))
  | .error _ => []

/-- the table after an update, whether or not it succeeds -/
def updated {α : Type} (connect : Origin → α) (hosts : Directory Backend) (t : HostTable α) : HostTable α :=
  (applyHosts connect hosts t).toOption.getD t

/-- every host has an origin -/
def resolvable (hosts : Directory Backend) : Bool := (hostOrigins hosts).isOk

/-- the hosts of the updates that come before the first stop or close -/
def heard : List ReloadEvent → List (Directory Backend)
  | .update s :: events => s.virtualHosts :: heard events
  | _ => []

/-- the hosts of the last update that is heard and has origins for all of them -/
def lastResolvable? (events : List ReloadEvent) : Option (Directory Backend) := ((heard events).filter resolvable).getLast?

namespace Reloader

def run (r : Reloader) (events : List ReloadEvent) : Reloader := events.foldl step r

end Reloader

end EdgeCache.Lifecycle
