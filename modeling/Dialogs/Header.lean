import Dialogs.Widget.Basic
import Dialogs.DialogError
import Dialogs.Json.Record

/-!
# List headers and display texts

The columns of a `list` or `tree` widget are in its property `header`. A column is an id with a
text, written as an object or as an array of both; a bare string is both at once.
-/

namespace Dialogs

/-- A column of a list or a tree. -/
structure Column where
  id : String
  text : String
  deriving DecidableEq, Repr

namespace Column

/-- How a column is read from JSON. -/
def record : Json.Record Column :=
  { name := "HeaderItem"
    fields :=
      [.plain "id" true Json.Draft.toText fun id column => { column with id },
       .plain "text" true Json.Draft.toText fun text column => { column with text }]
    initial := ⟨"", ""⟩
    strict := false }

/-- The JSON value of a column. -/
def toJson (column : Column) : Json :=
  .object [("id", .string column.id), ("text", .string column.text)]

/-- Reads an entry of a header. -/
def ofEntry : Json → Except Json.Error Column
  | .string text => .ok ⟨text, text⟩
  | entry => Json.decodeValue record.decode entry

end Column

namespace Widget

/-- The columns in the header of a widget: all of them, or the first problem. Without a header, or
with a null for one, there are none. -/
def header (widget : Widget) : Except DialogError (List Column) :=
  match (widget.property? "header").map Json.Document.json with
  | none => .ok []
  | some .null => .ok []
  | some (.array entries) =>
    (entries.mapM Column.ofEntry).mapError fun cause => .invalidHeader (.entry cause)
  | some other => .error (.invalidHeader (.notAnArray other.typeName))

end Widget

/-- The display text of a primitive value: a string itself, nothing for a null, and the JSON text
of a number or a truth value. -/
def Json.displayText : Json → Except DialogError String
  | .string text => .ok text
  | .null => .ok ""
  | .bool value => .ok (Json.bool value).compact
  | .number value => .ok (Json.number value).compact
  | other => .error (.notPrimitive other.typeName)

end Dialogs
