/-
The command line. It reads the configuration, says why the proxy cannot start or what it serves, and, if told to watch
the file, says so again whenever a change of it takes effect.
-/
import EdgeCache.Lifecycle.Arguments
import EdgeCache.Lifecycle.Reload

namespace EdgeCache.Lifecycle

open EdgeCache.Address EdgeCache.Routing

/-- the octets of a file, unless it is missing -/
def readFile (path : String) : IO (Option ByteArray) :=
  try
    some <$> IO.FS.readBinFile path
  catch
    | .noFileOrDirectory .. => return none
    | e => throw e

/-- one line for each backend -/
def printHosts (t : HostTable Origin) : IO Unit := do
  for (host, origin) in t.hosts.entries do
    IO.println (host ++ " -> " ++ origin.prefixText)
  IO.println ("any other host -> " ++ t.default.prefixText)

/-- follow the changes of a file, looking once a second -/
partial def watch (path : String) (seen : Option ByteArray) (r : Reloader) : IO Unit := do
  IO.sleep 1000
  let file ← readFile path
  if file == seen then watch path seen r
  else
    match Settings.ofFile file with
    | .ok s =>
      let r := r.step (.update s)
      printHosts r.hosts
      watch path file r
    | .error _ => watch path file r

def complain (message : String) : IO UInt32 := do
  IO.eprintln ("caching-proxy: " ++ message)
  return 1

def runWith (a : Arguments) : IO UInt32 := do
  let file ← readFile a.config
  match start file with
  | .error e => complain e.message
  | .ok (settings, proxy) =>
    IO.println ("serving at " ++ settings.frontend.listenAddress)
    printHosts proxy.hosts
    if a.watch then watch a.config file { hosts := proxy.hosts }
    return 0

end EdgeCache.Lifecycle

open EdgeCache.Lifecycle in
def main (args : List String) : IO UInt32 :=
  match Arguments.read args with
  | .ok a => runWith a
  | .error e => complain e.message
