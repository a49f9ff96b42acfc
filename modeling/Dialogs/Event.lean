import Dialogs.Text.Blank
import Dialogs.Json.Record

/-!
# Events

The renderer reports each interaction with a dialog as one line of JSON: what happened, to which
widget, and possibly a detail. The detail of a picked list row or tab is its index and id; in model
mode it holds the values of all widgets with an id. A kind of event that this library does not know
is kept as it is.
-/

namespace Dialogs

/-- What happened to a widget. -/
inductive EventKind where
  | clicked
  | selected
  | changed
  | doubleClicked
  | other (name : String)
  deriving DecidableEq, Repr

namespace EventKind

/-- The name of a kind of event. -/
def name : EventKind → String
  | .clicked => "clicked"
  | .selected => "selected"
  | .changed => "changed"
  | .doubleClicked => "doubleclicked"
  | .other name => name

/-- The kind of event with a name. -/
def ofName (name : String) : EventKind :=
  if name = "clicked" then .clicked
  else if name = "selected" then .selected
  else if name = "changed" then .changed
  else if name = "doubleclicked" then .doubleClicked
  else .other name

/-- The kind with a name has that name. -/
theorem name_ofName (name : String) : (ofName name).name = name := by
  unfold ofName
  split
  · simp_all [EventKind.name]
  · split
    · simp_all [EventKind.name]
    · split
      · simp_all [EventKind.name]
      · split <;> simp_all [EventKind.name]

end EventKind

/-- The entry that was picked in a list or a tab strip. -/
structure Selection where
  index : Int64
  id : String
  deriving DecidableEq, Repr

namespace Selection

/-- How a selection is read from JSON. It has no other members. -/
def record : Json.Record Selection :=
  { name := "Selection"
    fields :=
      [.plain "index" true Json.Draft.toInt64 fun index selection => { selection with index },
       .plain "id" true Json.Draft.toText fun id selection => { selection with id }]
    initial := ⟨0, ""⟩
    strict := true }

/-- The JSON value of a selection. -/
def toJson (selection : Selection) : Json :=
  .object [("index", .ofInt64 selection.index), ("id", .string selection.id)]

end Selection

/-- An interaction that the renderer has reported. -/
structure Event where
  kind : EventKind
  source : String
  detail : Option Json.Document

namespace Event

/-- How an event is read from JSON. A null for a detail is no detail. -/
def record : Json.Record Event :=
  { name := "Event"
    fields :=
      [.plain "type" true Json.Draft.toText fun name event =>
        { event with kind := EventKind.ofName name },
       .plain "from" true Json.Draft.toText fun source event => { event with source },
       { key := "detail", required := false
         decode := fun origin held => do
          let detail ← held.toOption (Json.Draft.toDocument origin)
          return fun event => { event with detail } }]
    initial := ⟨.other "", "", none⟩
    strict := false }

/-- The JSON value of an event. -/
def toJson (event : Event) : Json :=
  .object <|
    [("type", .string event.kind.name), ("from", .string event.source)] ++
    match event.detail with
    | none => []
    | some detail => [("detail", detail.json)]

/-- Decodes a JSON value as an event. -/
def ofJson (value : Json) : Except Json.Error Event := Json.decodeValue record.decode value

/-- Whether a line of output is meant as an event: its first character that is not a blank opens an
object. -/
def isEventLine (line : String) : Bool := (Text.trim line).toList.head? == some '\x7b'

/-- The event on a line of output, if the line is meant as one. -/
def ofLine? (line : String) : Option (Except Json.Error Event) :=
  if isEventLine line then some (Json.decodeText record.decode (Text.trim line)) else none

/-- The selection that the detail describes. -/
def selection? (event : Event) : Option Selection :=
  event.detail.bind fun detail => (Json.decodeValue Selection.record.decode detail.json).toOption

/-- The values of the widgets, by their ids, that the detail holds in model mode. -/
def model? (event : Event) : Option Json.Document :=
  event.detail.filter (·.json.isObject)

/-- Whether the window closes with the event: after a click, and after the selection of a row. -/
def isTerminal (event : Event) : Bool :=
  match event.kind with
  | .clicked | .doubleClicked => true
  | .selected => event.selection?.isNone
  | _ => false

/-- The event as a message. -/
def message (event : Event) : String :=
  "Event '" ++ event.kind.name ++ "' received from '" ++ event.source ++ "'"

end Event

end Dialogs
