/-
Arguments of the command line: which file holds the configuration, and whether to follow its changes.
-/
namespace EdgeCache.Lifecycle

structure Arguments where
  config : String := "config.toml"
  watch : Bool := false
deriving DecidableEq

inductive ArgumentError where
  | missingPath
  | unknown (argument : String)
deriving DecidableEq

def ArgumentError.message : ArgumentError → String
  | .missingPath => "a path must follow --config"
  | .unknown argument => "unexpected argument " ++ argument

namespace Arguments

def readFrom (a : Arguments) : List String → Except ArgumentError Arguments
  | [] => .ok a
  | "-w" :: rest => readFrom { a with watch := true } rest
  | "--watch" :: rest => readFrom { a with watch := true } rest
  | "-c" :: path :: rest => readFrom { a with config := path } rest
  | "--config" :: path :: rest => readFrom { a with config := path } rest
  | ["-c"] => .error .missingPath
  | ["--config"] => .error .missingPath
  | argument :: _ => .error (.unknown argument)

def read (args : List String) : Except ArgumentError Arguments := readFrom {} args

end Arguments

end EdgeCache.Lifecycle
