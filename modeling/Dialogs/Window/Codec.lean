import Dialogs.Window.Basic
import Dialogs.Widget.Codec

/-!
# Windows in JSON

A window is an object; its type is always written, and of the other fields those that do not have
their default value. A request document is a window that passes validation, or a null for no window
at all.
-/

namespace Dialogs

namespace Window

/-- The JSON value of a window, with the fields in the order of declaration. -/
def toJson (window : Window) : Json :=
  .object <|
    [("type", .string window.kind)] ++ Widget.textMember "title" window.title ++
    Widget.textMember "font" window.font ++ Widget.numberMember "x" window.x ++
    Widget.numberMember "y" window.y ++ Widget.numberMember "width" window.width ++
    Widget.numberMember "height" window.height ++ Widget.boolMember "fixed" false window.fixed ++
    Widget.boolMember "model" false window.model ++
    if window.body.isBlank then [] else [("body", window.body.toJson)]

/-- The document of a window. -/
def toDocument (window : Window) : Json.Document := window.toJson.document

/-- How a window is read from JSON. -/
def record : Json.Record Window :=
  { name := "Window"
    fields :=
      [.plain "type" false Json.Draft.toText fun kind window => { window with kind },
       .plain "title" false Json.Draft.toText fun title window => { window with title },
       .plain "font" false Json.Draft.toText fun font window => { window with font },
       .plain "x" false Json.Draft.toInt64 fun x window => { window with x },
       .plain "y" false Json.Draft.toInt64 fun y window => { window with y },
       .plain "width" false Json.Draft.toInt64 fun width window => { window with width },
       .plain "height" false Json.Draft.toInt64 fun height window => { window with height },
       .plain "fixed" false Json.Draft.toBool fun fixed window => { window with fixed },
       .plain "model" false Json.Draft.toBool fun model window => { window with model },
       { key := "body", required := false
         decode := fun origin held => do
          let body ← Widget.ofDraft origin held
          return fun window => { window with body } }]
    initial := { empty with kind := "" }
    strict := false }

/-- Decodes a JSON value as a window, without validating it. -/
def ofJson (value : Json) : Except Json.Error Window := Json.decodeValue record.decode value

/-- Decodes a request document. A null stands for no window; anything else has to be an object that
is a valid window. -/
def ofRequest (value : Json) : Except DialogError (Option Window) :=
  match value with
  | .null => .ok none
  | .object members =>
    match ofJson (.object members) with
    | .error cause => .error (.undecodable cause)
    | .ok window => window.validate.map fun _ => some window
  | other => .error (.notAnObject other.typeName)

end Window

end Dialogs
