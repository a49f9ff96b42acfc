import Dialogs.Command
import Dialogs.Transcript
import Dialogs.Window.Codec

/-!
# The client

Each way of asking the renderer is a call: it is refused before anything is sent, or it runs the
renderer exactly once and draws its conclusion from what was printed. What runs the renderer is
left open; a script of prepared answers does, as well as a real process.
-/

namespace Dialogs

/-- One run of the renderer: its arguments, and what is written to its standard input, if that is
connected. -/
structure Invocation where
  args : List String
  input : Option String
  deriving DecidableEq, Repr

/-- Everything that a successful run printed. -/
structure Output where
  stdout : String
  stderr : String
  deriving DecidableEq, Repr

/-- A call of the client that results in an `α`. -/
inductive Call (α : Type) where
  /-- The call is refused, and the renderer is not run. -/
  | refuse (failure : Failure)
  /-- The renderer is run, and what it printed is interpreted. -/
  | exchange (invocation : Invocation) (conclude : String → Except Failure α)

namespace Call

/-- The result of a call, given what runs the renderer. -/
def run {α : Type} (call : Call α) (renderer : Invocation → Except Failure Output) :
    Except Failure α :=
  match call with
  | .refuse failure => .error failure
  | .exchange invocation conclude => do conclude (← renderer invocation).stdout

/-- The answer of a script that has run out: success, and nothing printed. -/
def silence : Except Failure Output := .ok ⟨"", ""⟩

/-- Makes a call against a script of prepared answers: the result, what was sent, and the rest of
the script. -/
def play {α : Type} (call : Call α) (script : List (Except Failure Output)) :
    Except Failure α × List Invocation × List (Except Failure Output) :=
  match call with
  | .refuse failure => (.error failure, [], script)
  | .exchange invocation conclude =>
    ((script.head?.getD silence).bind fun output => conclude output.stdout, [invocation],
      script.tail)

end Call

namespace GlobalOptions

variable (options : GlobalOptions)

/-- The call that runs a mode without input. -/
def invoke {α : Type} (command : Command) (conclude : String → Except Failure α) : Call α :=
  .exchange ⟨command.args options, none⟩ conclude

/-- The call that sends a document to the renderer. -/
def send {α : Type} (document : Json) (conclude : String → Except Failure α) : Call α :=
  .exchange ⟨Command.stdin.args options, some document.compact⟩ conclude

/-- Shows a window, and results in every event that was reported. -/
def showDialogEvents (window : Window) : Call (List Event) :=
  match window.validate with
  | .error error => .refuse (.invalidDialog error)
  | .ok () => options.send window.toJson eventsOf

/-- Shows a window, and results in the last event that was reported. -/
def showDialog (window : Window) : Call (Option Event) :=
  match window.validate with
  | .error error => .refuse (.invalidDialog error)
  | .ok () => options.send window.toJson lastEventOf

/-- Shows a document without looking into it, and results in the last event. -/
def showJson (document : Json) : Call (Option Event) :=
  if document.isObject then options.send document lastEventOf
  else .refuse (.invalidDialog (.notAnObject document.typeName))

/-- Lets the renderer load a dialog from a file, and results in the last event. -/
def showFile (path : String) : Call (Option Event) := options.invoke (.load path) lastEventOf

/-- Runs a mode that takes no document. -/
def ask (command : Command) : Call Reply := options.invoke command Reply.ofTranscript

/-- Lists the backends of the renderer. -/
def listBackends : Call (List Backend) :=
  options.invoke .list fun transcript => .ok (Backend.ofTranscript transcript)

end GlobalOptions

/-- The options of a configuration. -/
def Config.options (config : Config) : GlobalOptions :=
  { backend := config.backend, debug := config.debug }

end Dialogs
