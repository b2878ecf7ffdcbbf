/-
The settings of the cache, with the values they have when a configuration leaves them out, and what follows from
them: the origins that are named, the limits of the store, the spans of time.
-/
import EdgeCache.Address.Origin
import EdgeCache.Directory
import EdgeCache.Settings.Size
import EdgeCache.Store.Basic

namespace EdgeCache

open EdgeCache.Address EdgeCache.Store EdgeCache.Text EdgeCache.Time

namespace Settings

/-- an origin, and how long its answer may take -/
structure Backend where
  target : String := "http://127.0.0.1:8000"
  timeoutSeconds : Nat := 30
deriving DecidableEq, Inhabited

/-- where and how clients are served -/
structure Frontend where
  listenAddress : String := "127.0.0.1:8080"
  metricsPort : Nat := 9091
  requestTimeoutSeconds : Nat := 60
  maxBodySize : Nat := 2000000

/-- how much is stored, and for how long -/
structure Cache where
  maxObjects : SizeValue := .text "1M"
  maxCost : SizeValue := .text "1G"
  ignoreHost : Bool := false
  defaultLifetimeSeconds : Nat := 300
  sweepIntervalSeconds : Nat := 1

/-- what is written to the log -/
structure Logging where
  level : String := "info"
  format : String := "text"

end Settings

structure Settings where
  defaultBackend : Settings.Backend := {}
  virtualHosts : Directory Settings.Backend := ∅
  frontend : Settings.Frontend := {}
  cache : Settings.Cache := {}
  logging : Settings.Logging := {}

namespace Settings

def Backend.origin (b : Backend) : Except OriginError Origin := Origin.read b.target (.ofSeconds b.timeoutSeconds)

def Frontend.requestTimeout (f : Frontend) : Span := .ofSeconds f.requestTimeoutSeconds

/-- a number of seconds, of which zero means none -/
def positiveSeconds (n : Nat) : Option Span := if 0 < n then some (.ofSeconds n) else none

def Cache.limits (c : Cache) : Except SizeError Limits := do
  return {
    maxObjects := ← c.maxObjects.resolve
    maxCost := ← c.maxCost.resolve
    defaultLifetime := positiveSeconds c.defaultLifetimeSeconds }

def Cache.sweepInterval (c : Cache) : Option Span := positiveSeconds c.sweepIntervalSeconds

def Logging.isJson (l : Logging) : Bool := sameWord l.format "json"

end Settings

end EdgeCache
