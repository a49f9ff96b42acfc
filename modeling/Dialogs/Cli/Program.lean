import Dialogs.Cli.Surroundings
import Dialogs.Session

/-!
# The program

A run of the program reads its command line, its settings and its configuration, asks the renderer, and
prints what comes of it. A run fails with a report, or it is refused because of its command line; a
configuration that cannot be read at all aborts it.
-/

namespace Dialogs.Cli

/-- How a run ends. -/
inductive Finish where
  | success
  | failure (report : Report)
  | refused (reason : Rejection)
  | aborted
  deriving DecidableEq, Repr

/-- What a run prints, and how it ends. -/
structure Outcome where
  stdout : String := ""
  stderr : String := ""
  finish : Finish := .success
  deriving DecidableEq, Repr

namespace Outcome

/-- The exit status of a run. -/
def status (outcome : Outcome) : Nat :=
  match outcome.finish with
  | .success | .refused .help | .refused .version => 0
  | .failure _ => 1
  | .refused _ => 2
  | .aborted => 101

/-- All that a run prints to its standard error, its report included. -/
def errorText (outcome : Outcome) : String :=
  match outcome.finish with
  | .failure report => outcome.stderr ++ report.text
  | _ => outcome.stderr

/-- A run that prints a line. -/
def line (text : String) : Outcome := { stdout := text ++ "\n" }

/-- A run that fails before it prints anything. -/
def failed (report : Report) : Outcome := { finish := .failure report }

/-- The outcome of a result. -/
def ofResult {α : Type} (conclude : α → Outcome) : Except Failure α → Outcome
  | .ok value => conclude value
  | .error failure => failed (.ofFailure failure)

/-- The line that is printed when there was no event. -/
def withoutEvent : String := "Window closed without an event"

/-- How an event is printed. -/
def eventText (json : Bool) (event : Event) : String :=
  if json then event.toJson.compact else event.message

/-- A run that prints the last event, if there was one. -/
def ofLastEvent (json : Bool) : Option Event → Outcome
  | some event => line (eventText json event)
  | none => { stderr := withoutEvent ++ "\n" }

/-- A run that prints a reply. -/
def ofReply (reply : Reply) : Outcome := line reply.message

/-- A run that lists backends. There has to be one. -/
def ofBackends (backends : List Backend) : Outcome :=
  if backends.isEmpty then failed ⟨"the renderer reported no backends", []⟩
  else { stdout := String.join (backends.map fun backend => backend.line ++ "\n") }

end Outcome

/-- A renderer that is ready to be asked. -/
structure Connection where
  runner : Runner
  options : GlobalOptions
  launcher : Launcher

namespace Connection

/-- The connection of a configuration. -/
def ofConfig (config : Config) (launcher : Launcher) : Except Failure Connection := do
  return { runner := ← Runner.ofConfig config, options := config.options, launcher }

/-- Makes a call, and concludes the run. -/
def conclude {α : Type} (connection : Connection) (call : Call α) (conclude : α → Outcome) :
    Option Outcome :=
  (connection.runner.perform connection.launcher call).map (Outcome.ofResult conclude)

/-- What a renderer in a session has printed to the standard error up to a time, which the run passes
on. -/
def overheard (session : Session) (time : Option Nat) : String :=
  Behaviour.textOf (session.behaviour.stderr.filter fun arrival =>
    time.all fun time => arrival.time ≤ time)

/-- Prints the events of a session as they come, and then waits for its end. -/
def follow (json : Bool) (fuel : Nat) (printed : String) (session : Session) : Option Outcome :=
  match fuel with
  | 0 => none
  | fuel + 1 => do
    let (result, session) ← session.next
    match result with
    | .error failure =>
      return { stdout := printed, stderr := overheard session (some session.clock)
               finish := .failure (.ofFailure failure) }
    | .ok (some event) =>
      follow json fuel (printed ++ Outcome.eventText json event ++ "\n") session
    | .ok none =>
      match ← session.wait with
      | .ok () => return { stdout := printed, stderr := overheard session none }
      | .error (.timeout limit) =>
        return { stdout := printed, stderr := overheard session (some limit)
                 finish := .failure (.ofFailure (.timeout limit)) }
      | .error failure =>
        return { stdout := printed, stderr := overheard session none
                 finish := .failure (.ofFailure failure) }

/-- Shows a window in a session that starts `now`, and prints every event as it comes. A limit beyond the
range of the clock aborts the run. -/
def showFollowingFrom (connection : Connection) (now : Nat) (window : Window) (json : Bool) :
    Option Outcome :=
  let arguments := Command.stdin.args connection.options
  match connection.runner.start connection.launcher arguments with
  | .error failure => some (.failed (.ofFailure failure))
  | .ok renderer =>
    if !Session.fits now connection.runner.limit then some { finish := .aborted }
    else do
      let (result, session) ← (Session.start renderer connection.runner.limit true).send window
      match result with
      | .error failure =>
        return { stderr := overheard session (some session.clock)
                 finish := .failure (.ofFailure failure) }
      | .ok () => follow json (session.unread.length + 2) "" session

/-- Shows the dialog that a document describes. A session that follows it starts `now`. -/
def showDocument (connection : Connection) (now : Nat) (document : Json)
    (following json unchecked : Bool) : Option Outcome :=
  if unchecked then
    connection.conclude (connection.options.showJson document) (Outcome.ofLastEvent json)
  else match Window.ofRequest document with
    | .error error =>
      some (.failed ((Report.ofDialogError error).within "invalid dialog document"))
    | .ok none => some (.failed ⟨"the dialog document is null", []⟩)
    | .ok (some window) =>
      if following then connection.showFollowingFrom now window json
      else connection.conclude (connection.options.showDialog window) (Outcome.ofLastEvent json)

/-- Fulfils a request. -/
def fulfil (connection : Connection) (surroundings : Surroundings) (request : Request) :
    Option Outcome :=
  let ask (command : Command) : Option Outcome :=
    connection.conclude (connection.options.ask command) Outcome.ofReply
  let filters (filter : Option String) : List Filter := (filter.map Filter.parse).getD []
  match request with
  | .show file following json unchecked =>
    match surroundings.document file with
    | .error report => some (.failed report)
    | .ok document =>
      connection.showDocument surroundings.clock document.json following json unchecked
  | .load file json =>
    connection.conclude (connection.options.showFile file) (Outcome.ofLastEvent json)
  | .message title text icon => ask (.message title text icon)
  | .confirm title text icon => ask (.confirm title text icon)
  | .input title text value => ask (.input title text value)
  | .password title text => ask (.password title text)
  | .selectDir title dir => ask (.selectDir title dir)
  | .loadFile title filter dir => ask (.loadFile title (filters filter) dir)
  | .saveFile title filter dir => ask (.saveFile title (filters filter) dir)
  | .backends => connection.conclude connection.options.listBackends Outcome.ofBackends

end Connection

/-- The name and the version of the program. -/
def versionText : String := "tanto-cli 0.1.0"

/-- The outcome of a command line that is refused. -/
def Outcome.ofRejection (reason : Rejection) : Outcome :=
  { stdout := if reason = .version then versionText ++ "\n" else "", finish := .refused reason }

/-- Prepares a run: its settings, its log and its configuration. What cannot be dealt with in any way aborts
it. -/
def prepare (flags : Flags) (surroundings : Surroundings) :
    Except Finish (Connection × Surroundings) := do
  let settings ← match surroundings.settings with
    | .ok settings => pure settings
    | .error .malformed => throw (.failure ⟨"failed to load tanto-cli configuration", []⟩)
    | .error .unusableKey | .error .unusablePlace => throw .aborted
  match surroundings.checkLogFilter settings with
  | .ok () => pure ()
  | .error .splitCharacter => throw .aborted
  | .error fault => throw (.failure ⟨"invalid log filter", fault.causes⟩)
  let logged ← (surroundings.openLog (flags.logDir.or settings.logDir)).mapError .failure
  let some complete := logged.withVariableFile? | throw .aborted
  let base ← complete.config.mapError fun _ => .aborted
  let connection ← (Connection.ofConfig (flags.resolve settings base)
    complete.setting.launcher).mapError fun failure => .failure (.ofFailure failure)
  return (connection, complete)

/-- Whether a run reads its standard input. -/
def readsInput (arguments : List String) : Bool :=
  match CommandLine.parse arguments with
  | .ok ⟨_, .show file _ _ _⟩ => file.all Surroundings.isInputFile
  | _ => false

/-- Runs the program. A run that waits for ever has no outcome. -/
def run (arguments : List String) (surroundings : Surroundings) : Option Outcome :=
  match CommandLine.parse arguments with
  | .error reason => some (.ofRejection reason)
  | .ok line =>
    match prepare line.flags surroundings with
    | .error finish => some { finish }
    | .ok (connection, complete) => connection.fulfil complete line.request

end Dialogs.Cli
