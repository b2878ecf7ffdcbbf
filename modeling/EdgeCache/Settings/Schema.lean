/-
Settings read from a document. A section is a table, whose unknown names are passed over, or a list that gives the
fields in order; what is left out has its default value, and what has another type is refused.
-/
import EdgeCache.Document
import EdgeCache.Settings.Basic

namespace EdgeCache.Settings

open EdgeCache.Text

/-- what a list may hold beyond the fields of its section -/
inductive Surplus where
  | ignored
  | refused
deriving DecidableEq

/-- what a document gives for each field of a section, some of which may be left out -/
def fields? (surplus : Surplus) (names : List String) : Document → Option (String → Option Document)
  | .table entries => some fun name => entries.lookup name
  | .list items =>
    if surplus = .refused ∧ names.length < items.length then none
    else some fun name => items[names.idxOf name]?
  | .date _ => some fun _ => none
  | _ => none

/-- a field that is read if it is there, and has a default value else -/
def fieldOr {α : Type} (read : Document → Option α) (default : α) : Option Document → Option α
  | none => some default
  | some d => read d

def text? : Document → Option String
  | .text s => some s
  | _ => none

def flag? : Document → Option Bool
  | .flag b => some b
  | _ => none

def number? (limit : Nat) : Document → Option Nat
  | .integer n => if 0 ≤ n ∧ n < limit then some n.toNat else none
  | _ => none

/-- a count of 64 bits -/
def word? : Document → Option Nat := number? countLimit

/-- a size, as a number or as text -/
def size? : Document → Option SizeValue
  | .text s => some (.text s)
  | d => (word? d).map .count

def Backend.ofDocument? (surplus : Surplus) (d : Document) : Option Backend := do
  let field ← fields? surplus ["target", "timeout_secs"] d
  let default : Backend := {}
  return {
    target := ← fieldOr text? default.target (field "target")
    timeoutSeconds := ← fieldOr word? default.timeoutSeconds (field "timeout_secs") }

def hosts? (surplus : Surplus) : Document → Option (Directory Backend)
  | .table entries => do
    return .ofList (← entries.mapM fun (host, d) => do return (host, ← Backend.ofDocument? surplus d))
  | _ => none

def Frontend.ofDocument? (surplus : Surplus) (d : Document) : Option Frontend := do
  let field ← fields? surplus ["listen_address", "metrics_port", "request_timeout_secs", "max_body_bytes"] d
  let default : Frontend := {}
  return {
    listenAddress := ← fieldOr text? default.listenAddress (field "listen_address")
    metricsPort := ← fieldOr (number? 65536) default.metricsPort (field "metrics_port")
    requestTimeoutSeconds := ← fieldOr word? default.requestTimeoutSeconds (field "request_timeout_secs")
    maxBodySize := ← fieldOr word? default.maxBodySize (field "max_body_bytes") }

def Cache.ofDocument? (surplus : Surplus) (d : Document) : Option Cache := do
  let field ←
    fields? surplus ["max_objects", "max_cost", "ignore_host", "default_ttl_secs", "sweep_interval_secs"] d
  let default : Cache := {}
  return {
    maxObjects := ← fieldOr size? default.maxObjects (field "max_objects")
    maxCost := ← fieldOr size? default.maxCost (field "max_cost")
    ignoreHost := ← fieldOr flag? default.ignoreHost (field "ignore_host")
    defaultLifetimeSeconds := ← fieldOr word? default.defaultLifetimeSeconds (field "default_ttl_secs")
    sweepIntervalSeconds := ← fieldOr word? default.sweepIntervalSeconds (field "sweep_interval_secs") }

def Logging.ofDocument? (surplus : Surplus) (d : Document) : Option Logging := do
  let field ← fields? surplus ["level", "format"] d
  let default : Logging := {}
  return {
    level := ← fieldOr text? default.level (field "level")
    format := ← fieldOr text? default.format (field "format") }

def ofDocument? (surplus : Surplus) (d : Document) : Option Settings := do
  let field ← fields? surplus ["default_backend", "virtual_hosts", "frontend", "cache", "logging"] d
  return {
    defaultBackend := ← fieldOr (Backend.ofDocument? surplus) {} (field "default_backend")
    virtualHosts := ← fieldOr (hosts? surplus) ∅ (field "virtual_hosts")
    frontend := ← fieldOr (Frontend.ofDocument? surplus) {} (field "frontend")
    cache := ← fieldOr (Cache.ofDocument? surplus) {} (field "cache")
    logging := ← fieldOr (Logging.ofDocument? surplus) {} (field "logging") }

end EdgeCache.Settings
