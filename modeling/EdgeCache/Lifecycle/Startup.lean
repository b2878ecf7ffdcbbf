/-
From settings to a running proxy. Every origin is read before anything changes, so settings that name a bad one leave
the hosts as they were.
-/
import EdgeCache.Exchange.Proxy
import EdgeCache.Settings.Load

namespace EdgeCache.Lifecycle

open EdgeCache.Address EdgeCache.Routing EdgeCache.Settings EdgeCache.Store EdgeCache.Text

inductive StartupError where
  | settings (cause : LoadError)
  | size (cause : SizeError)
  | limits (cause : LimitError)
  | backend (name : BackendName) (cause : OriginError)
deriving DecidableEq

def StartupError.message : StartupError → String
  | .settings cause => "loading config: " ++ cause.message
  | .size cause => "cache limits: " ++ cause.message
  | .limits cause => "creating cache: " ++ cause.message
  | .backend name cause => name.text ++ ": " ++ cause.message

def originOf (name : BackendName) (b : Backend) : Except StartupError Origin :=
  b.origin.mapError (.backend name)

/-- the origins of virtual hosts, in rising order of their names -/
def hostOrigins (hosts : Directory Backend) : Except StartupError (List (String × Origin)) :=
  hosts.entries.mapM fun (host, b) => do return (host, ← originOf (.virtualHost host) b)

/-- make the hosts of a table those of the settings -/
def applyHosts {α : Type} (connect : Origin → α) (hosts : Directory Backend) (t : HostTable α) :
    Except StartupError (HostTable α) := do
  let origins ← hostOrigins hosts
  return t.update (origins.map fun (host, o) => (host, connect o))

def build (s : Settings) : Except StartupError (Proxy Origin) := do
  let limits ← s.cache.limits.mapError .size
  let store ← (ResponseStore.new limits).mapError .limits
  let default ← originOf .default s.defaultBackend
  let hosts ← applyHosts id s.virtualHosts { default }
  return { store, hosts, ignoreHost := s.cache.ignoreHost }

def start (file : Option ByteArray) : Except StartupError (Settings × Proxy Origin) := do
  let s ← (Settings.ofFile file).mapError .settings
  return (s, ← build s)

end EdgeCache.Lifecycle
