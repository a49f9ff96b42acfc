import Dialogs.Widget.Basic
import Dialogs.Json.Record

/-!
# Widgets in JSON

A widget is an object. A field is left out when it has its default value, so the blank widget is
the empty object; the properties are members beside the fields. In an object that is decoded, every
key that is not reserved becomes a property, and a literal `properties` is dropped. An item is an
object or a string; whatever is wrong with an item, it is reported as no item at all.
-/

namespace Dialogs

namespace Widget

/-- A member for a text that is not empty. -/
def textMember (key value : String) : List (String × Json) :=
  if value.isEmpty then [] else [(key, .string value)]

/-- A member for a number that is not zero. -/
def numberMember (key : String) (value : Int64) : List (String × Json) :=
  if value == 0 then [] else [(key, .ofInt64 value)]

/-- A member for a truth value that is not the default. -/
def boolMember (key : String) (default value : Bool) : List (String × Json) :=
  if value == default then [] else [(key, .bool value)]

/-- A member for a list that is not empty. -/
def arrayMember (key : String) (elements : List Json) : List (String × Json) :=
  if elements.isEmpty then [] else [(key, .array elements)]

mutual

/-- The JSON value of a widget, with the fields in the order of declaration and the properties
behind them. -/
def toJson : Widget → Json
  | ⟨id, kind, title, group, text, value, width, height, enabled, fill, items, properties⟩ =>
    .object <|
      textMember "id" id ++ textMember "type" kind ++ textMember "title" title ++
      textMember "group" group ++ textMember "text" text ++ numberMember "value" value ++
      numberMember "width" width ++ numberMember "height" height ++
      boolMember "enabled" true enabled ++ boolMember "fill" false fill ++
      arrayMember "items" (itemsToJson items) ++ properties.toMembers

/-- The JSON values of items. -/
def itemsToJson : List (Item Widget) → List Json
  | [] => []
  | item :: rest => itemToJson item :: itemsToJson rest

/-- The JSON value of an item. -/
def itemToJson : Item Widget → Json
  | .widget child => child.toJson
  | .text text => .string text

end

/-- The document of a widget. -/
def toDocument (widget : Widget) : Json.Document := widget.toJson.document

/-- The fields of a widget that hold a single value: their key, and what reading the value does to
the widget. -/
def scalarField? (key : String) (held : Json.Draft) :
    Option (Except Json.Error (Widget → Widget)) :=
  match key with
  | "id" => some (held.toText.map fun id widget => { widget with id })
  | "type" => some (held.toText.map fun kind widget => { widget with kind })
  | "title" => some (held.toText.map fun title widget => { widget with title })
  | "group" => some (held.toText.map fun group widget => { widget with group })
  | "text" => some (held.toText.map fun text widget => { widget with text })
  | "value" => some (held.toInt64.map fun value widget => { widget with value })
  | "width" => some (held.toInt64.map fun width widget => { widget with width })
  | "height" => some (held.toInt64.map fun height widget => { widget with height })
  | "enabled" => some (held.toBool.map fun enabled widget => { widget with enabled })
  | "fill" => some (held.toBool.map fun fill widget => { widget with fill })
  | _ => none

/-- The keys of the fields of a widget. The reserved key `properties` is not among them. -/
def fieldKeys : List String :=
  ["id", "type", "title", "group", "text", "value", "width", "height", "enabled", "fill", "items"]

mutual

/-- Decodes a widget. -/
def ofDraft (origin : Json.Origin) : Json.Draft → Except Json.Error Widget
  | .object members ending => do
    let inner ← origin.enter
    let effects ← effectsOfMembers inner [] members
    Json.Draft.checkEnd ending
    return effects.foldl (fun widget effect => effect widget) blank
  | found => .error (found.mismatch "struct Widget")

/-- What the members of an object do to a widget, in order. `seen` are the keys before them. -/
def effectsOfMembers (origin : Json.Origin) (seen : List String) :
    List (Except Json.SyntaxError String × Json.Draft) → Except Json.Error (List (Widget → Widget))
  | [] => .ok []
  | member :: rest => do
    let (key, effect) ← effectOfMember origin seen member
    let effects ← effectsOfMembers origin (key :: seen) rest
    return effect :: effects

/-- The key of a member, and what the member does to a widget. -/
def effectOfMember (origin : Json.Origin) (seen : List String) :
    Except Json.SyntaxError String × Json.Draft → Except Json.Error (String × (Widget → Widget))
  | (.error cause, _) => .error (.malformed cause)
  | (.ok key, held) =>
    if fieldKeys.contains key && seen.contains key then .error (.duplicateField key)
    else if key = "items" then do
      let items ← itemsOfDraft origin held
      return (key, fun widget => { widget with items })
    else match scalarField? key held with
      | some read => do return (key, ← read)
      | none => do
        let value ← held.toJson origin
        return (key, fun widget => widget.withProperty key value.document)

/-- Decodes the items of a widget. -/
def itemsOfDraft (origin : Json.Origin) : Json.Draft → Except Json.Error (List (Item Widget))
  | .array elements ending => do
    let inner ← origin.enter
    let items ← itemsOfDrafts inner elements
    Json.Draft.checkEnd ending
    return items
  | found => .error (found.mismatch "a sequence")

/-- Decodes items, in order. -/
def itemsOfDrafts (origin : Json.Origin) :
    List Json.Draft → Except Json.Error (List (Item Widget))
  | [] => .ok []
  | element :: rest => do
    let item ← itemOfDraft origin element
    let items ← itemsOfDrafts origin rest
    return item :: items

/-- Decodes an item. It is read to its end before its shape is looked at. -/
def itemOfDraft (origin : Json.Origin) : Json.Draft → Except Json.Error (Item Widget)
  | .string text => .ok (.text text)
  | .object members ending => do
    discard ((Json.Draft.object members ending).toJson origin)
    match effectsOfMembers .value [] members with
    | .ok effects => return .widget (effects.foldl (fun widget effect => effect widget) blank)
    | .error _ => .error (.noVariant "Item")
  | found => do
    discard (found.toJson origin)
    .error (.noVariant "Item")

end

/-- Decodes a JSON value as a widget. -/
def ofJson (value : Json) : Except Json.Error Widget := Json.decodeValue ofDraft value

end Widget

namespace Item

/-- The JSON value of an item. -/
def toJson (item : Item Widget) : Json := Widget.itemToJson item

/-- The document of an item. -/
def toDocument (item : Item Widget) : Json.Document := item.toJson.document

/-- Decodes a JSON value as an item. -/
def ofJson (value : Json) : Except Json.Error (Item Widget) :=
  Json.decodeValue Widget.itemOfDraft value

end Item

end Dialogs
