import Dialogs.Event
import Dialogs.Failure
import Dialogs.Text.Pieces

/-!
# Transcripts

What a renderer has printed when it is done: lines that are meant as events, and others, which are
noise or the answer of a mode without events. The events of a transcript are those of its event
lines, in order; one that cannot be decoded spoils them all.
-/

namespace Dialogs

/-- The events on lines of output, in order, up to the first that cannot be decoded. -/
def eventsOfLines : List String → Except Failure (List Event)
  | [] => .ok []
  | line :: rest =>
    match Event.ofLine? line with
    | none => eventsOfLines rest
    | some (.error cause) => .error (.undecodable (Text.trim line) cause)
    | some (.ok event) => do return event :: (← eventsOfLines rest)

/-- The events of a transcript. -/
def eventsOf (transcript : String) : Except Failure (List Event) :=
  eventsOfLines (Text.lines transcript)

/-- The last event of a transcript. -/
def lastEventOf (transcript : String) : Except Failure (Option Event) :=
  (eventsOf transcript).map List.getLast?

/-- What a mode without a dialog document answers. -/
inductive Reply where
  | event (event : Event)
  | text (text : String)
  /-- Nothing was printed: the window was closed. -/
  | closed

namespace Reply

/-- The reply in a transcript: its last event, or else its text. -/
def ofTranscript (transcript : String) : Except Failure Reply := do
  match ← lastEventOf transcript with
  | some last => return .event last
  | none =>
    let printed := Text.trim transcript
    return if printed.isEmpty then .closed else .text printed

/-- The event of a reply. -/
def event? : Reply → Option Event
  | .event last => some last
  | _ => none

/-- The text of a reply. -/
def text? : Reply → Option String
  | .text printed => some printed
  | _ => none

/-- Whether the window was closed. -/
def isClosed : Reply → Bool
  | .closed => true
  | _ => false

/-- The reply as a message. -/
def message : Reply → String
  | .event last => last.message
  | .text printed => printed
  | .closed => "Window closed"

end Reply

/-- A backend of the renderer. -/
structure Backend where
  name : String
  version : String
  deriving DecidableEq, Repr

namespace Backend

/-- The backend on a line: its name up to the first colon, and its version behind it. -/
def ofLine? (line : String) : Option Backend :=
  (Text.splitOnceChars ':' line.toList).map fun (name, version) =>
    ⟨String.ofList (Text.trimChars name), String.ofList (Text.trimChars version)⟩

/-- The message about a line that names no backend. -/
def notABackendMessage (line : String) : String := "not a backend line: " ++ line

/-- The line of a backend. -/
def line (backend : Backend) : String := backend.name ++ ": " ++ backend.version

/-- The backends of a transcript: those of the lines that name one. Blank lines are passed over. -/
def ofTranscript (transcript : String) : List Backend :=
  ((Text.lines transcript).filter fun line => !Text.isAllBlank line).filterMap ofLine?

end Backend

end Dialogs
