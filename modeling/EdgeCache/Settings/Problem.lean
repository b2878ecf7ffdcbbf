/-
What is wrong with settings whose types are right. All problems are listed, in the order of the sections; no problem
hides another, but a virtual host without a name is not looked at any further.
-/
import EdgeCache.Address.SocketAddress
import EdgeCache.Settings.Basic

namespace EdgeCache.Settings

open EdgeCache.Address EdgeCache.Text

inductive BackendName where
  | default
  | virtualHost (host : String)
deriving DecidableEq

def BackendName.text : BackendName → String
  | .default => "default_backend"
  | .virtualHost host => "virtual_hosts." ++ host

inductive LimitName where
  | objects
  | cost
deriving DecidableEq

def LimitName.text : LimitName → String
  | .objects => "cache.max_objects"
  | .cost => "cache.max_cost"

inductive Problem where
  | origin (backend : BackendName) (cause : OriginError)
  | zeroTimeout (backend : BackendName)
  | emptyHost
  | size (limit : LimitName) (cause : SizeError)
  | zeroLimit (limit : LimitName)
  | listenAddress (text : String)
  | zeroRequestTimeout
  | logLevel (text : String)
  | logFormat (text : String)
deriving DecidableEq

def Problem.message : Problem → String
  | .origin backend cause => backend.text ++ ": " ++ cause.message
  | .zeroTimeout backend => backend.text ++ ": timeout_secs must be greater than 0"
  | .emptyHost => "virtual_hosts: host name must not be empty"
  | .size limit cause => limit.text ++ ": " ++ cause.message
  | .zeroLimit limit => limit.text ++ " must be greater than 0"
  | .listenAddress text => "frontend.listen_address " ++ quoted text ++ " is not a valid socket address"
  | .zeroRequestTimeout => "frontend.request_timeout_secs must be greater than 0"
  | .logLevel text => "logging.level " ++ quoted text ++ " is not one of trace, debug, info, warn, error"
  | .logFormat text => "logging.format " ++ quoted text ++ " is not one of text, json"

def problemIf (condition : Bool) (p : Problem) : List Problem := if condition then [p] else []

def Backend.problems (name : BackendName) (b : Backend) : List Problem :=
  (match b.origin with
    | .ok _ => []
    | .error cause => [.origin name cause]) ++ problemIf (b.timeoutSeconds == 0) (.zeroTimeout name)

/-- a text without anything but blanks -/
def isBlankText (s : String) : Bool := (trim s.toList).isEmpty

def hostProblems (host : String) (b : Backend) : List Problem :=
  if isBlankText host then [.emptyHost] else b.problems (.virtualHost host)

def SizeValue.problems (name : LimitName) (v : SizeValue) : List Problem :=
  match v.resolve with
  | .ok n => problemIf (n == 0) (.zeroLimit name)
  | .error cause => [.size name cause]

def logLevels : List String := ["trace", "debug", "info", "warn", "warning", "error"]

def logFormats : List String := ["text", "json"]

def Frontend.problems (f : Frontend) : List Problem :=
  problemIf (SocketAddress.read? f.listenAddress).isNone (.listenAddress f.listenAddress) ++
    problemIf (f.requestTimeoutSeconds == 0) .zeroRequestTimeout

def Logging.problems (l : Logging) : List Problem :=
  problemIf (!logLevels.contains (lower l.level)) (.logLevel l.level) ++
    problemIf (!logFormats.contains (lower l.format)) (.logFormat l.format)

def problems (s : Settings) : List Problem :=
  s.defaultBackend.problems .default ++
    s.virtualHosts.entries.flatMap (fun (host, b) => hostProblems host b) ++
    s.cache.maxObjects.problems .objects ++
    s.cache.maxCost.problems .cost ++
    s.frontend.problems ++
    s.logging.problems

end EdgeCache.Settings
