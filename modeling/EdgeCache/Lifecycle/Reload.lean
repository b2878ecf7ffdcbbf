/-
The task that follows changes of the settings: it brings the virtual hosts up to date until it is stopped or no more
settings can come. Settings that name a bad origin are passed over.
-/
import EdgeCache.Lifecycle.Startup

namespace EdgeCache.Lifecycle

open EdgeCache.Address EdgeCache.Routing

inductive ReloadEvent where
  | update (settings : Settings)
  /-- the stop signal -/
  | stop
  /-- nobody is left who could send settings -/
  | close

/-- the hosts, and whether the task still runs -/
structure Reloader where
  hosts : HostTable Origin
  running : Bool := true

namespace Reloader

def step (r : Reloader) : ReloadEvent → Reloader
  | .update s =>
    if r.running then { r with hosts := (applyHosts id s.virtualHosts r.hosts).toOption.getD r.hosts } else r
  | .stop => { r with running := false }
  | .close => { r with running := false }

end Reloader

end EdgeCache.Lifecycle
