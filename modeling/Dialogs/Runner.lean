import Dialogs.Client
import Dialogs.Renderer

/-!
# Running a renderer once

A runner knows which program to start, with which arguments in front, and how long it may take. It
hands over the document, waits for the end, and passes judgement on the exit code. Whether the
renderer is in time is decided by when the last of three things happens: the document is written,
the output is closed, and the program has ended.
-/

namespace Dialogs

/-- How renderers are started. -/
structure Runner where
  executable : String
  /-- The arguments in front of the renderer's command. -/
  prefixArgs : List String
  /-- The nanoseconds that a renderer may take, if they are limited. -/
  limit : Option Nat
  deriving DecidableEq, Repr

/-- What starts programs: the renderer that a list of arguments names, the executable first. -/
abbrev Launcher := String → List String → Except SystemError Renderer

namespace Runner

/-- The runner of a configuration. -/
def ofConfig (config : Config) : Except Failure Runner :=
  match config.requireExecutable with
  | .ok executable => .ok ⟨executable, config.args, config.timeoutNanos⟩
  | .error error => .error (.config error)

/-- Starts a renderer. -/
def start (runner : Runner) (launcher : Launcher) (args : List String) :
    Except Failure Renderer :=
  match launcher runner.executable (runner.prefixArgs ++ args) with
  | .ok renderer => .ok renderer
  | .error cause => .error (.spawn runner.executable cause)

end Runner

/-- The later of two times, if both come. -/
def latest (first second : Option Nat) : Option Nat := do
  return max (← first) (← second)

namespace Behaviour

/-- When the document is written, the output is closed and the program has ended. -/
def finish (behaviour : Behaviour) : Option Nat :=
  latest behaviour.uptake.time? (latest behaviour.closes (behaviour.ending.map Ending.time))

/-- Everything that was printed, if the document could be written and the program succeeded. -/
def output (behaviour : Behaviour) : Except Failure Output := do
  behaviour.uptake.result
  let stdout := textOf behaviour.stdout
  let stderr := textOf behaviour.stderr
  verdict (behaviour.ending.bind Ending.code) [stderr, stdout]
  return ⟨stdout, stderr⟩

/-- The result of a run under a limit. There is none if the program goes on for ever and nothing
limits it. -/
def conclude (behaviour : Behaviour) (limit : Option Nat) : Option (Except Failure Output) :=
  match behaviour.finish, limit with
  | some time, some limit =>
    some (if time < limit then behaviour.output else .error (.timeout limit))
  | some _, none => some behaviour.output
  | none, some limit => some (.error (.timeout limit))
  | none, none => none

end Behaviour

/-- What a renderer is fed by a run: the document at the start, or nothing. -/
def Feed.ofInput : Option String → Feed
  | some document => .handed 0 document
  | none => .absent

/-- Runs a renderer once. -/
def Runner.run (runner : Runner) (launcher : Launcher) (invocation : Invocation) :
    Option (Except Failure Output) :=
  match runner.start launcher invocation.args with
  | .error failure => some (.error failure)
  | .ok renderer => (renderer (Feed.ofInput invocation.input)).conclude runner.limit

/-- Makes a call with a renderer. -/
def Runner.perform {α : Type} (runner : Runner) (launcher : Launcher) (call : Call α) :
    Option (Except Failure α) :=
  match call with
  | .refuse failure => some (.error failure)
  | .exchange invocation conclude => do
    let result ← runner.run launcher invocation
    return result.bind fun output => conclude output.stdout

end Dialogs
