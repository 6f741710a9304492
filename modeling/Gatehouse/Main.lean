import Gatehouse.CommandLine
import Gatehouse.Startup

/-!
# Starting the proxy

The program reads its configuration, checks it, and builds the proxy. It tells where the
proxy is to listen and which mounts it has, or why it cannot start.
-/

namespace Gatehouse

/-- The content of a file, if it can be read. -/
def fileContent? (path : String) : IO (Option Bytes) := do
  try
    let content ← IO.FS.readBinFile path
    return some content.toList
  catch _ =>
    return none

/-- The configuration of a file, or the usual one if no file is named. -/
def loadConfig (path : Option String) : IO (Except Config.LoadError Config) := do
  match path with
  | none => return .ok {}
  | some path =>
      match ← fileContent? path with
      | some content => return Config.ofBytes content
      | none => return .error .unreadable

/-- What a configuration names, with the password file read. A directory server counts
as out of reach until it is asked. -/
def suppliesFor (config : Config) : IO Supplies := do
  let content ← match nonEmpty config.htpasswd.path with
    | some path => fileContent? path
    | none => pure none
  return {
    file := fun path =>
      if config.htpasswd.path = some path then content.bind Text.Utf8.decode? else none
    server := fun _ _ _ => .unreachable (.connect "no connection")
    directory := none
    refresher := neverRefresh
    validator := alwaysValid }

/-- One line of the report about a mount. -/
def mountLine (route : Route) : String :=
  match route.target with
  | .proxy proxy => route.pattern.text ++ " -> " ++ proxy.host
  | .files server => route.pattern.text ++ " -> " ++ server.root

/-- Do what is asked for. The answer is the exit status. -/
def start (invocation : Invocation) : IO UInt32 := do
  match ← loadConfig invocation.config with
  | .error cause =>
      IO.eprintln cause.message
      return 1
  | .ok loaded =>
      match Config.validated (invocation.override loaded) with
      | .error cause =>
          IO.eprintln cause.message
          return 1
      | .ok config =>
          match Startup.build (← suppliesFor config) config with
          | .error cause =>
              IO.eprintln cause.message
              return 1
          | .ok gateway =>
              IO.println ("ready to listen on " ++ config.listener.bindAddress)
              for route in gateway.router.routes do
                IO.println (mountLine route)
              return 0

end Gatehouse

/-- Start the proxy as the command line asks. -/
def main (words : List String) : IO UInt32 := do
  match Gatehouse.Invocation.ofWords words with
  | .error cause =>
      IO.eprintln cause.message
      return 2
  | .ok invocation =>
      let named ← match invocation.config with
        | some path => pure (some path)
        | none => IO.getEnv "LAP_CONFIG"
      Gatehouse.start { invocation with config := named }
