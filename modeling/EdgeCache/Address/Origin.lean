/-
Origins: where the cache fetches from. An origin is read from a URL of scheme http or https, of which scheme, host
and port are kept; the port is always known.
-/
import EdgeCache.Address.Url
import EdgeCache.Text.Quoted
import EdgeCache.Time.Span

namespace EdgeCache.Address

open EdgeCache.Text EdgeCache.Time

/-- where a client connects, and how long it waits -/
structure Origin where
  scheme : String
  host : String
  port : Nat
  timeout : Span
deriving DecidableEq

inductive OriginError where
  | url (text : String) (cause : UrlError)
  | scheme (text scheme : String)
  | missingHost (text : String)
deriving DecidableEq

def OriginError.message : OriginError → String
  | .url text cause => "invalid backend url " ++ quoted text ++ ": " ++ cause.message
  | .scheme text found =>
    "unsupported scheme " ++ quoted found ++ " in " ++ quoted text ++ " (expected http or https)"
  | .missingHost text => "backend url " ++ quoted text ++ " has no host"

namespace Origin

def defaultPort (scheme : String) : Nat := if scheme = "https" then 443 else 80

def ofUrl (text : String) (timeout : Span) (url : Url) : Except OriginError Origin :=
  if url.scheme ≠ "http" ∧ url.scheme ≠ "https" then .error (.scheme text url.scheme)
  else
    match url.host with
    | none => .error (.missingHost text)
    | some host =>
      if host.text = "" then .error (.missingHost text)
      else .ok { scheme := url.scheme, host := host.text, port := url.port.getD (defaultPort url.scheme), timeout }

def read (text : String) (timeout : Span) : Except OriginError Origin :=
  match Url.read text with
  | .error cause => .error (.url text cause)
  | .ok url => ofUrl text timeout url

/-- `scheme://host:port` -/
def prefixText (o : Origin) : String := o.scheme ++ "://" ++ o.host ++ ":" ++ toString o.port

/-- the URL that is asked for at an origin, for a path and a query -/
def urlText (o : Origin) (path : String) : String := o.prefixText ++ path

/-- a URL leads to an origin: over its scheme, to its host and port, and in nobody's name -/
structure Leads (url : Url) (o : Origin) : Prop where
  scheme : url.scheme = o.scheme
  host : url.host.map Host.text = some o.host
  port : url.port.getD (defaultPort url.scheme) = o.port
  userInfo : url.userInfo = none

def text (o : Origin) : String := o.host ++ ":" ++ toString o.port

end Origin

end EdgeCache.Address
