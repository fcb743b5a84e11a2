/-
  THE COMMAND LINE: loads a configuration and tells what a server would serve.

  The argument names the configuration file without its ending, `config` if there is none.  The
  fields of the sections may be set by variables of the environment as well.
-/
import StaticSite.Config.Layers
import StaticSite.Log.Startup

namespace StaticSite

/-- The configuration file with a name, in the first format that there is one in. -/
def findFile (name : String) : List String → IO (Option (Config.Format × String))
  | [] => pure none
  | ending :: others => do
    let text ← try some <$> IO.FS.readFile (name ++ "." ++ ending) catch _ => pure none
    match text, Config.Format.ofExtension? ending with
    | some text, some format => return some (format, text)
    | _, _ => findFile name others

/-- The variables that are set, with their values. -/
def setVariables : IO (List (String × String)) :=
  Config.variableNames.filterMapM fun name => do
    return (← IO.getEnv name).map fun value => (name, value)

/-- Tells why nothing can be served. -/
def refuse (message : String) : IO UInt32 := do
  IO.eprintln ("Error: " ++ message)
  return 1

end StaticSite

open StaticSite in
def main (args : List String) : IO UInt32 := do
  let file ← findFile (args.headD "config") Config.Format.endings
  match Config.load file (← setVariables) with
  | .error e => refuse e.message
  | .ok config =>
    match Log.listenAddress config.server with
    | .error e => refuse e.message
    | .ok address =>
      let site := Site.ofConfig config
      for n in Log.startNotes site do IO.eprintln n.text
      for line in Log.linesOf (Log.startMessages address site) do IO.println line
      return 0
