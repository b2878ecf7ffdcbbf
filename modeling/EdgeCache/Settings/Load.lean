/-
Settings from a configuration file: its octets must be UTF-8, its text well formed, and the settings in it free of
problems.
-/
import EdgeCache.Settings.Problem
import EdgeCache.Settings.Schema
import EdgeCache.Toml.Read

namespace EdgeCache.Settings

inductive FileError where
  | missing
  | notUtf8
deriving DecidableEq

def FileError.message : FileError → String
  | .missing => "No such file or directory (os error 2)"
  | .notUtf8 => "stream did not contain valid UTF-8"

inductive LoadError where
  | file (cause : FileError)
  | malformed
  | invalid (problems : List Problem)
deriving DecidableEq

def LoadError.message : LoadError → String
  | .file cause => "IO error: " ++ cause.message
  | .malformed => "Parse error: no configuration in TOML"
  | .invalid problems => "Validation failed: " ++ String.intercalate ", " (problems.map Problem.message)

def checked (s : Settings) : Except LoadError Settings :=
  if s.problems.isEmpty then .ok s else .error (.invalid s.problems)

def ofText (text : String) : Except LoadError Settings :=
  match (Toml.read? text).bind (ofDocument? .ignored) with
  | some s => s.checked
  | none => .error .malformed

/-- the settings in a file, of which there are no octets if it is missing -/
def ofFile : Option ByteArray → Except LoadError Settings
  | none => .error (.file .missing)
  | some octets =>
    match String.fromUTF8? octets with
    | some text => ofText text
    | none => .error (.file .notUtf8)

end EdgeCache.Settings
