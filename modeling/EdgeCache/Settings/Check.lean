/-
What is looked at in settings, one thing at a time, and the changes that put one thing right.

A check looks at one value only. What it finds does not depend on any other value, but for the backend of a virtual host
without a name: that one is not looked at, and its checks are missing.
-/
import EdgeCache.Settings.Problem

namespace EdgeCache.Settings

open EdgeCache.Address EdgeCache.Text

/-! ## Checks -/

/-- one thing that is looked at -/
inductive Check where
  | target (backend : BackendName)
  | timeout (backend : BackendName)
  | hostName (host : String)
  | limit (limit : LimitName)
  | listenAddress
  | requestTimeout
  | logLevel
  | logFormat
deriving DecidableEq

def BackendName.checks (name : BackendName) : List Check := [.target name, .timeout name]

/-- the checks of a virtual host: of its name, or of its backend if it has one -/
def hostChecks (host : String) : List Check :=
  if isBlankText host then [.hostName host] else (BackendName.virtualHost host).checks

def sectionChecks : List Check :=
  [.limit .objects, .limit .cost, .listenAddress, .requestTimeout, .logLevel, .logFormat]

/-- all checks, in the order in which they are made -/
def checks (s : Settings) : List Check :=
  BackendName.checks .default ++ s.virtualHosts.names.flatMap hostChecks ++ sectionChecks

/-- the backend of a name, unless it is not looked at -/
def examined? (s : Settings) : BackendName → Option Backend
  | .default => some s.defaultBackend
  | .virtualHost host => if isBlankText host then none else s.virtualHosts.get? host

def Backend.targetFault? (name : BackendName) (b : Backend) : Option Problem :=
  match b.origin with
  | .ok _ => none
  | .error cause => some (.origin name cause)

def Backend.timeoutFault? (name : BackendName) (b : Backend) : Option Problem :=
  if b.timeoutSeconds = 0 then some (.zeroTimeout name) else none

def SizeValue.fault? (name : LimitName) (v : SizeValue) : Option Problem :=
  match v.resolve with
  | .ok n => if n = 0 then some (.zeroLimit name) else none
  | .error cause => some (.size name cause)

def fault? (s : Settings) : Check → Option Problem
  | .target name => (s.examined? name).bind (·.targetFault? name)
  | .timeout name => (s.examined? name).bind (·.timeoutFault? name)
  | .hostName host => if s.virtualHosts.contains host ∧ isBlankText host then some .emptyHost else none
  | .limit name =>
    match name with
    | .objects => s.cache.maxObjects.fault? name
    | .cost => s.cache.maxCost.fault? name
  | .listenAddress =>
    if (SocketAddress.read? s.frontend.listenAddress).isNone then some (.listenAddress s.frontend.listenAddress)
    else none
  | .requestTimeout => if s.frontend.requestTimeoutSeconds = 0 then some .zeroRequestTimeout else none
  | .logLevel => if lower s.logging.level ∈ logLevels then none else some (.logLevel s.logging.level)
  | .logFormat => if lower s.logging.format ∈ logFormats then none else some (.logFormat s.logging.format)

def found (s : Settings) : List (Check × Problem) := s.checks.filterMap fun c => (s.fault? c).map (c, ·)

/-! ## Changes -/

def withBackend (s : Settings) (change : Backend → Backend) : BackendName → Settings
  | .default => { s with defaultBackend := change s.defaultBackend }
  | .virtualHost host =>
    match s.virtualHosts.get? host with
    | some b => { s with virtualHosts := s.virtualHosts.put host (change b) }
    | none => s

/-- a change of one value, or a virtual host without a name taken out -/
inductive Edit where
  | target (backend : BackendName) (text : String)
  | timeout (backend : BackendName) (seconds : Nat)
  | hostTakenOut (host : String)
  | limit (limit : LimitName) (value : SizeValue)
  | listenAddress (text : String)
  | requestTimeout (seconds : Nat)
  | logLevel (text : String)
  | logFormat (text : String)

def Edit.apply (s : Settings) : Edit → Settings
  | .target name text => s.withBackend (fun b => { b with target := text }) name
  | .timeout name seconds => s.withBackend (fun b => { b with timeoutSeconds := seconds }) name
  | .hostTakenOut host => { s with virtualHosts := s.virtualHosts.erase host }
  | .limit name value =>
    match name with
    | .objects => { s with cache := { s.cache with maxObjects := value } }
    | .cost => { s with cache := { s.cache with maxCost := value } }
  | .listenAddress text => { s with frontend := { s.frontend with listenAddress := text } }
  | .requestTimeout seconds => { s with frontend := { s.frontend with requestTimeoutSeconds := seconds } }
  | .logLevel text => { s with logging := { s.logging with level := text } }
  | .logFormat text => { s with logging := { s.logging with format := text } }

/-- the check that looks at what it changes -/
def Edit.check : Edit → Check
  | .target name _ => .target name
  | .timeout name _ => .timeout name
  | .hostTakenOut host => .hostName host
  | .limit name _ => .limit name
  | .listenAddress _ => .listenAddress
  | .requestTimeout _ => .requestTimeout
  | .logLevel _ => .logLevel
  | .logFormat _ => .logFormat

/-- it puts right what its check looks at, whether that was wrong or not; a host that is taken out had no name -/
def Edit.Mends (s : Settings) (e : Edit) : Prop :=
  (e.apply s).fault? e.check = none ∧ ∀ host, e = .hostTakenOut host → isBlankText host = true

/-- a virtual host gets another name -/
def renameHost (s : Settings) (host name : String) : Settings :=
  match s.virtualHosts.get? host with
  | some b => { s with virtualHosts := (s.virtualHosts.erase host).put name b }
  | none => s

end EdgeCache.Settings
