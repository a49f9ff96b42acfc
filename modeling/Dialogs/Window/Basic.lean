import Dialogs.Widget.Basic
import Dialogs.Font
import Dialogs.DialogError

/-!
# Windows

A window frames one widget, its body. Before a window is shown it is validated: its type has to be
`window`, its font has to be a font description, and the widgets that the renderer looks at have to
be of known kinds. The renderer does not look below a widget without a kind.
-/

namespace Dialogs

/-- The type that a window has in a dialog document. -/
def windowType : String := "window"

/-- A window of a dialog. -/
structure Window where
  kind : String
  title : String
  font : String
  x : Int64
  y : Int64
  width : Int64
  height : Int64
  fixed : Bool
  /-- Whether every event carries the values of all widgets with an id. -/
  model : Bool
  body : Widget

namespace Widget

/-- The kind of a widget, if it has one: known, or not. -/
def kind? (widget : Widget) : Option (Except DialogError WidgetKind) :=
  if widget.kind.isEmpty then none
  else some <| match WidgetKind.ofName? widget.kind with
    | some kind => .ok kind
    | none => .error (.unknownWidget widget.kind)

mutual

/-- Fails with the first unknown kind of a widget tree: of the widget, then of its items in order.
A widget without a kind is not looked at. -/
def validate : Widget → Except DialogError Unit
  | ⟨_, kind, _, _, _, _, _, _, _, _, items, _⟩ =>
    if kind.isEmpty then .ok ()
    else match WidgetKind.ofName? kind with
      | none => .error (.unknownWidget kind)
      | some _ => validateItems items

/-- Fails with the first unknown kind among items. -/
def validateItems : List (Item Widget) → Except DialogError Unit
  | [] => .ok ()
  | item :: rest => do
    validateItem item
    validateItems rest

/-- Fails with the first unknown kind of an item. A bare text has none. -/
def validateItem : Item Widget → Except DialogError Unit
  | .widget child => child.validate
  | .text _ => .ok ()

end

end Widget

namespace Window

/-- A window of which nothing else is said. -/
def empty : Window :=
  { kind := windowType, title := "", font := "", x := 0, y := 0, width := 0, height := 0
    fixed := false, model := false, body := .blank }

/-- The window with a title. -/
def withTitle (window : Window) (title : String) : Window := { window with title }

/-- The window with a size. -/
def withSize (window : Window) (width height : Int64) : Window := { window with width, height }

/-- The window at a position. -/
def withPosition (window : Window) (x y : Int64) : Window := { window with x, y }

/-- The window, of fixed size or not. -/
def withFixed (window : Window) (fixed : Bool) : Window := { window with fixed }

/-- The window, with the values of its widgets in every event or not. -/
def withModel (window : Window) (model : Bool) : Window := { window with model }

/-- The window with a font. -/
def withFont (window : Window) (font : Font) : Window := { window with font := font.text }

/-- The window with a body. -/
def withBody (window : Window) (body : Widget) : Window := { window with body }

/-- The font of the window, if it names one: described well, or not. -/
def font? (window : Window) : Option (Except DialogError Font) :=
  if window.font.isEmpty then none
  else some <| match Font.parse? window.font with
    | some font => .ok font
    | none => .error (.invalidFont window.font)

/-- Fails with the first reason for which the renderer would refuse the window: its type, its font,
or the first widget of an unknown kind. -/
def validate (window : Window) : Except DialogError Unit :=
  if window.kind ≠ windowType then .error (.invalidWindowType window.kind)
  else match window.font? with
    | some (.error error) => .error error
    | _ => window.body.validate

end Window

end Dialogs
