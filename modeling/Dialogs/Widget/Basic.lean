import Dialogs.Widget.Kind
import Dialogs.Widget.Properties

/-!
# Widgets

A widget is a tree: the items of a widget are widgets or bare texts, which the renderer shows as
`text` widgets. A widget is built from the blank one by naming its kind and setting its fields. The
kind is kept as a text, because a document may name a kind that this library does not know.
-/

namespace Dialogs

/-- A child of a widget: a widget, or a bare text. -/
inductive Item (Child : Type) where
  | widget (child : Child)
  | text (text : String)

/-- A widget of a dialog. The text, the value and the items mean different things to different
kinds of widgets. -/
structure Widget where
  id : String
  /-- The name of the kind; an empty one is skipped by the renderer. -/
  kind : String
  /-- A caption above the widget. -/
  title : String
  /-- The label of a box around a layout. -/
  group : String
  text : String
  value : Int64
  width : Int64
  height : Int64
  enabled : Bool
  fill : Bool
  items : List (Item Widget)
  properties : PropertyBag

namespace Widget

/-- The widget of which nothing is said. -/
def blank : Widget :=
  { id := "", kind := "", title := "", group := "", text := "", value := 0, width := 0, height := 0
    enabled := true, fill := false, items := [], properties := .empty }

/-- Whether nothing is said of the widget. -/
def isBlank (widget : Widget) : Bool :=
  widget.id.isEmpty && widget.kind.isEmpty && widget.title.isEmpty && widget.group.isEmpty &&
    widget.text.isEmpty && widget.value == 0 && widget.width == 0 && widget.height == 0 &&
    widget.enabled && !widget.fill && widget.items.isEmpty && widget.properties.isEmpty

/-- The widget of a kind, with nothing else said of it. -/
def ofKind (kind : WidgetKind) : Widget := { blank with kind := kind.name }

/-! ### Setting the fields -/

/-- The widget with an id. -/
def withId (widget : Widget) (id : String) : Widget := { widget with id }

/-- The widget with a text. -/
def withText (widget : Widget) (text : String) : Widget := { widget with text }

/-- The widget with a caption. -/
def withTitle (widget : Widget) (title : String) : Widget := { widget with title }

/-- The widget in a labelled box. -/
def withGroup (widget : Widget) (group : String) : Widget := { widget with group }

/-- The widget with a number. -/
def withValue (widget : Widget) (value : Int64) : Widget := { widget with value }

/-- The widget with a size. -/
def withSize (widget : Widget) (width height : Int64) : Widget := { widget with width, height }

/-- The widget, filling its space or not. -/
def withFill (widget : Widget) (fill : Bool) : Widget := { widget with fill }

/-- The widget, enabled or not. -/
def withEnabled (widget : Widget) (enabled : Bool) : Widget := { widget with enabled }

/-- The widget with one more item. -/
def withItem (widget : Widget) (item : Item Widget) : Widget :=
  { widget with items := widget.items ++ [item] }

/-- The widget with more items. -/
def withItems (widget : Widget) (items : List (Item Widget)) : Widget :=
  { widget with items := widget.items ++ items }

/-- The widget with a property set. A reserved key changes nothing. -/
def withProperty (widget : Widget) (key : String) (value : Json.Document) : Widget :=
  { widget with properties := widget.properties.set key value }

/-- Sets a property: whether the key is free, and the widget afterwards. -/
def setProperty (widget : Widget) (key : String) (value : Json.Document) : Bool × Widget :=
  match widget.properties.set? key value with
  | none => (false, widget)
  | some properties => (true, { widget with properties })

/-- The value of a property. -/
def property? (widget : Widget) (key : String) : Option Json.Document :=
  widget.properties.get? key

/-! ### Widgets of each kind -/

/-- Empty space. -/
def space : Widget := ofKind .space

/-- A text. -/
def textLabel (text : String) : Widget := (ofKind .text).withText text

/-- A button with its label. -/
def button (id text : String) : Widget := ((ofKind .button).withId id).withText text

/-- A check box with its label. -/
def check (id text : String) : Widget := ((ofKind .check).withId id).withText text

/-- A line to be filled in. -/
def input (id : String) : Widget := (ofKind .input).withId id

/-- A number with its initial value. -/
def number (id : String) (value : Int64) : Widget := ((ofKind .number).withId id).withValue value

/-- A picture. -/
def image (source : String) : Widget := (ofKind .image).withText source

/-- A list of items. -/
def list (id : String) (items : List (Item Widget)) : Widget :=
  ((ofKind .list).withId id).withItems items

/-- A tree of items. -/
def tree (id : String) (items : List (Item Widget)) : Widget :=
  ((ofKind .tree).withId id).withItems items

/-- Items on tabs. -/
def tabs (items : List (Item Widget)) : Widget := (ofKind .tabs).withItems items

/-- Items side by side. -/
def row (items : List (Item Widget)) : Widget := (ofKind .row).withItems items

/-- Items one below the other. -/
def column (items : List (Item Widget)) : Widget := (ofKind .column).withItems items

/-- Items in a grid. -/
def grid (items : List (Item Widget)) : Widget := (ofKind .grid).withItems items

/-- Items in a form. -/
def form (items : List (Item Widget)) : Widget := (ofKind .form).withItems items

/-! ### Asking a widget -/

/-- Whether the widget has an id. -/
def hasId (widget : Widget) : Bool := !widget.id.isEmpty

/-- Whether the widget has a labelled box. -/
def hasGroup (widget : Widget) : Bool := !widget.group.isEmpty

/-- The name under which events of the widget are reported: its id, or its text without one. -/
def idOrText (widget : Widget) : String := if widget.id.isEmpty then widget.text else widget.id

end Widget

end Dialogs
