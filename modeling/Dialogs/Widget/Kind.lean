/-!
# Kinds of widgets

The widgets that the renderer knows, by the names that they have in a dialog document.

Main statements: a kind is found under its own name, and under no other.
-/

namespace Dialogs

/-- A kind of widget. -/
inductive WidgetKind where
  | space
  | text
  | input
  | number
  | image
  | button
  | check
  | list
  | tree
  | tabs
  | row
  | column
  | grid
  | form
  deriving DecidableEq, Repr

namespace WidgetKind

/-- Every kind, in the order of the documentation. -/
def all : List WidgetKind :=
  [.space, .text, .input, .number, .image, .button, .check, .list, .tree, .tabs, .row, .column,
   .grid, .form]

/-- The name of a kind in a dialog document. -/
def name : WidgetKind → String
  | .space => "space"
  | .text => "text"
  | .input => "input"
  | .number => "number"
  | .image => "image"
  | .button => "button"
  | .check => "check"
  | .list => "list"
  | .tree => "tree"
  | .tabs => "tabs"
  | .row => "row"
  | .column => "column"
  | .grid => "grid"
  | .form => "form"

/-- The kind with a name. -/
def ofName? (name : String) : Option WidgetKind := all.find? (·.name == name)

/-- Whether the items of such a widget are laid out as its children. -/
def isContainer : WidgetKind → Bool
  | .tabs | .row | .column | .grid | .form => true
  | _ => false

/-- Whether the renderer reports events of such a widget, as long as it has an id. -/
def emitsEvents : WidgetKind → Bool
  | .button | .check | .input | .number | .list | .tree => true
  | _ => false

/-- A kind is found under its name. -/
theorem ofName?_name (kind : WidgetKind) : ofName? kind.name = some kind := by
  cases kind <;> decide

/-- What is found under a name has that name. -/
theorem name_of_ofName? {name : String} {kind : WidgetKind} (found : ofName? name = some kind) :
    kind.name = name := by
  simpa using List.find?_some found

end WidgetKind

end Dialogs
