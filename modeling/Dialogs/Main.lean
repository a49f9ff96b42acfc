import Dialogs.Cli.Program

/-!
# The command line program

The outermost layer: it gathers what surrounds the run, and prints what comes of it. Of the files those
are gathered that the arguments and the variables name; a renderer is a script among them.
-/

namespace Dialogs.Cli

/-- The variables of the environment that concern the program. -/
def variableNames : List String :=
  ["PATH", "RUST_LOG", "TANTO_EXECUTABLE", "TANTO_ARGS", "TANTO_BACKEND", "TANTO_TIMEOUT_SECS",
   "TANTO_DEBUG", "TANTO_CLI_CONFIG_PATH", "TANTO_CLI__RENDERER__EXECUTABLE",
   "TANTO_CLI__RENDERER__BACKEND", "TANTO_CLI__RENDERER__TIMEOUT_SECS",
   "TANTO_CLI__RENDERER__DEBUG", "TANTO_CLI__LOGGING__DIR", "TANTO_CLI__LOGGING__FILTER"]

/-- The files that a run may look for. -/
def fileNames (arguments : List String) (environment : List (String × String)) : List String :=
  let settings :=
    (VariableFile.valueOf? environment "TANTO_CLI_CONFIG_PATH").getD Surroundings.defaultSettingsPath
  let words := Text.words ((VariableFile.valueOf? environment "TANTO_ARGS").getD "")
  [Surroundings.variableFile] ++ (Surroundings.settingsPaths settings).map Prod.fst ++ words ++ arguments

/-- The text of a file, if it can be read. -/
def readText? (path : String) : IO (Option String) :=
  try
    return some (← IO.FS.readFile path)
  catch _ =>
    return none

/-- Everything up to the end of a stream. -/
partial def readToEnd (stream : IO.FS.Stream) (read : String) : IO String := do
  let line ← stream.getLine
  if line.isEmpty then return read
  readToEnd stream (read ++ line)

/-- The names on a way without its detours. -/
def straight (way : List String) : List String :=
  way.foldl (fun reached name => if name == ".." then reached.dropLast else reached ++ [name]) []

/-- What surrounds a run. The standard input is read only if the run wants it. -/
def gather (arguments : List String) : IO Surroundings := do
  let environment ← variableNames.filterMapM fun name => do
    return (← IO.getEnv name).map fun value => (name, value)
  let found ← (fileNames arguments environment).eraseDups.filterMapM fun path => do
    return (← readText? path).map fun text => (Path.way path, text)
  let files := found.map fun (way, text) => (Path.ofWay (straight way), text)
  let directories := found.flatMap fun (way, _) =>
    (List.range way.length).map fun count => Path.ofWay (straight (way.take count))
  let input ← if readsInput arguments then readToEnd (← IO.getStdin) "" else pure ""
  return { setting := { files, directories, environment }, input, clock := ← IO.monoNanosNow }

end Dialogs.Cli

/-- Runs the program, and gives its exit status. -/
def main (arguments : List String) : IO UInt32 := do
  match Dialogs.Cli.run arguments (← Dialogs.Cli.gather arguments) with
  | none => return 1
  | some outcome =>
    IO.print outcome.stdout
    IO.eprint outcome.errorText
    return UInt32.ofNat outcome.status
