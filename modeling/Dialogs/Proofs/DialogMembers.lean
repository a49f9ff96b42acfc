import Dialogs.Proofs.WindowFields

/-!
# What the document of a dialog holds

The members that a widget or a window is written as, by their keys. A field is held at its key
unless it has its default value, and a property at its own key. All keys are distinct, because the
keys of the fields are reserved, so the document, in which the members are sorted, holds the same.
-/

namespace Dialogs

open Json (Distinct member?)

namespace Widget

/-- What is held for a text. -/
def textHeld (value : String) : Option Json := if value.isEmpty then none else some (.string value)

/-- What is held for a number. -/
def numberHeld (value : Int64) : Option Json := if value == 0 then none else some (.ofInt64 value)

/-- What is held for a truth value. -/
def boolHeld (default value : Bool) : Option Json :=
  if value == default then none else some (.bool value)

/-- What is held for a list. -/
def arrayHeld (elements : List Json) : Option Json :=
  if elements.isEmpty then none else some (.array elements)

@[simp] theorem member?_textMember (sought key value : String) :
    member? sought (textMember key value) = if sought = key then textHeld value else none := by
  simp only [textMember, textHeld]
  split <;> simp

@[simp] theorem member?_numberMember (sought key : String) (value : Int64) :
    member? sought (numberMember key value) = if sought = key then numberHeld value else none := by
  simp only [numberMember, numberHeld]
  split <;> simp

@[simp] theorem member?_boolMember (sought key : String) (default value : Bool) :
    member? sought (boolMember key default value) =
      if sought = key then boolHeld default value else none := by
  simp only [boolMember, boolHeld]
  split <;> simp

@[simp] theorem member?_arrayMember (sought key : String) (elements : List Json) :
    member? sought (arrayMember key elements) =
      if sought = key then arrayHeld elements else none := by
  simp only [arrayMember, arrayHeld]
  split <;> simp

theorem keys_textMember (key value : String) :
    ((textMember key value).map (·.1)).Sublist [key] := by
  simp only [textMember]
  split <;> simp

theorem keys_numberMember (key : String) (value : Int64) :
    ((numberMember key value).map (·.1)).Sublist [key] := by
  simp only [numberMember]
  split <;> simp

theorem keys_boolMember (key : String) (default value : Bool) :
    ((boolMember key default value).map (·.1)).Sublist [key] := by
  simp only [boolMember]
  split <;> simp

theorem keys_arrayMember (key : String) (elements : List Json) :
    ((arrayMember key elements).map (·.1)).Sublist [key] := by
  simp only [arrayMember]
  split <;> simp

/-- A text is what is held for it, also when sorted. -/
theorem holds_textHeld (value : String) :
    Json.Holds Json.Draft.toText "" ((textHeld value).map Json.sorted) value := by
  simp only [textHeld]
  split
  · rename_i empty
    simpa using empty
  · exact Json.toText_draft.mpr rfl

/-- A number is what is held for it, also when sorted. -/
theorem holds_numberHeld (value : Int64) :
    Json.Holds Json.Draft.toInt64 0 ((numberHeld value).map Json.sorted) value := by
  simp only [numberHeld]
  split
  · rename_i zero
    simpa using zero
  · exact Json.toInt64_draft.mpr rfl

/-- A truth value is what is held for it, also when sorted. -/
theorem holds_boolHeld (default value : Bool) :
    Json.Holds Json.Draft.toBool default ((boolHeld default value).map Json.sorted) value := by
  simp only [boolHeld]
  split
  · rename_i same
    simpa using same
  · exact Json.toBool_draft.mpr rfl

/-- The members that a widget is written as. -/
def members (widget : Widget) : List (String × Json) :=
  textMember "id" widget.id ++ textMember "type" widget.kind ++ textMember "title" widget.title ++
  textMember "group" widget.group ++ textMember "text" widget.text ++
  numberMember "value" widget.value ++ numberMember "width" widget.width ++
  numberMember "height" widget.height ++ boolMember "enabled" true widget.enabled ++
  boolMember "fill" false widget.fill ++ arrayMember "items" (itemsToJson widget.items) ++
  widget.properties.toMembers

theorem toJson_eq (widget : Widget) : widget.toJson = .object widget.members := by
  cases widget
  rfl

/-- What a widget holds at a key when it is written. -/
def held (widget : Widget) (key : String) : Option Json :=
  match key with
  | "id" => textHeld widget.id
  | "type" => textHeld widget.kind
  | "title" => textHeld widget.title
  | "group" => textHeld widget.group
  | "text" => textHeld widget.text
  | "value" => numberHeld widget.value
  | "width" => numberHeld widget.width
  | "height" => numberHeld widget.height
  | "enabled" => boolHeld true widget.enabled
  | "fill" => boolHeld false widget.fill
  | "items" => arrayHeld (itemsToJson widget.items)
  | key => (widget.property? key).map (·.json)

/-- What the properties hold is what they are written as. -/
theorem member?_toMembers (widget : Widget) (key : String) :
    member? key widget.properties.toMembers = (widget.property? key).map (·.json) :=
  Json.member?_map (fun value : Json.Document => value.json) key widget.properties.entries

/-- The members of a widget hold at each key what the widget holds there. -/
theorem member?_members (widget : Widget) (key : String) :
    member? key widget.members = widget.held key := by
  have unset : ∀ reserved ∈ reservedKeys, widget.property? reserved = none :=
    fun _ reserved => widget.property?_of_reserved reserved
  simp only [reservedKeys, List.forall_mem_cons] at unset
  unfold held
  split
  case h_12 => simp_all [members, member?_toMembers]
  all_goals simp [members, member?_toMembers, unset]

/-- The members that the fields of a widget are written as. -/
def fieldMembers (widget : Widget) : List (String × Json) :=
  textMember "id" widget.id ++ textMember "type" widget.kind ++ textMember "title" widget.title ++
  textMember "group" widget.group ++ textMember "text" widget.text ++
  numberMember "value" widget.value ++ numberMember "width" widget.width ++
  numberMember "height" widget.height ++ boolMember "enabled" true widget.enabled ++
  boolMember "fill" false widget.fill ++ arrayMember "items" (itemsToJson widget.items)

theorem members_eq (widget : Widget) :
    widget.members = widget.fieldMembers ++ widget.properties.toMembers := rfl

/-- The fields of a widget are written in the order of their declaration. -/
theorem keys_fieldMembers (widget : Widget) :
    (widget.fieldMembers.map (·.1)).Sublist fieldKeys := by
  have spelled : fieldKeys =
      ["id"] ++ ["type"] ++ ["title"] ++ ["group"] ++ ["text"] ++ ["value"] ++ ["width"] ++
        ["height"] ++ ["enabled"] ++ ["fill"] ++ ["items"] := rfl
  rw [spelled]
  simp only [fieldMembers, List.map_append]
  repeat' apply List.Sublist.append
  all_goals
    first
      | exact keys_textMember _ _
      | exact keys_numberMember _ _
      | exact keys_boolMember _ _ _
      | exact keys_arrayMember _ _

/-- The properties of a widget are written under their own keys. -/
theorem keys_toMembers (bag : PropertyBag) :
    bag.toMembers.map (·.1) = bag.entries.map (·.1) := by
  simp [PropertyBag.toMembers]

/-- The keys of the members of a widget are distinct: each field has its own key, and none of them
is free for a property. -/
theorem distinct_members (widget : Widget) : Distinct widget.members := by
  have keys : (widget.members.map (·.1)).Sublist
      (fieldKeys ++ widget.properties.entries.map (·.1)) := by
    rw [members_eq, List.map_append, keys_toMembers]
    exact List.Sublist.append widget.keys_fieldMembers (List.Sublist.refl _)
  refine List.Nodup.sublist keys ?_
  refine List.Nodup.append (by decide) widget.properties.increasing.distinct ?_
  intro key field property
  obtain ⟨entry, inside, rfl⟩ := List.mem_map.mp property
  have reserved : ∀ key ∈ fieldKeys, key ∈ reservedKeys := by decide
  exact widget.properties.free entry inside (reserved _ field)

/-- The members of the document of a widget. -/
def documentMembers (widget : Widget) : List (String × Json) :=
  Json.sortMembers (Json.sortedMembers widget.members)

theorem sorted_toJson (widget : Widget) :
    widget.toJson.sorted = .object widget.documentMembers := by
  rw [toJson_eq, Json.sorted, documentMembers]

/-- The document of a widget holds at each key what the widget holds there, sorted. -/
theorem member?_documentMembers (widget : Widget) (key : String) :
    member? key widget.documentMembers = (widget.held key).map Json.sorted := by
  rw [documentMembers, Json.member?_sorted key widget.distinct_members, member?_members]

end Widget

namespace Window

/-- The members that a window is written as. -/
def members (window : Window) : List (String × Json) :=
  [("type", .string window.kind)] ++ Widget.textMember "title" window.title ++
  Widget.textMember "font" window.font ++ Widget.numberMember "x" window.x ++
  Widget.numberMember "y" window.y ++ Widget.numberMember "width" window.width ++
  Widget.numberMember "height" window.height ++ Widget.boolMember "fixed" false window.fixed ++
  Widget.boolMember "model" false window.model ++
  if window.body.isBlank then [] else [("body", window.body.toJson)]

theorem toJson_eq (window : Window) : window.toJson = .object window.members := rfl

/-- What a window holds at a key when it is written. -/
def held (window : Window) (key : String) : Option Json :=
  match key with
  | "type" => some (.string window.kind)
  | "title" => Widget.textHeld window.title
  | "font" => Widget.textHeld window.font
  | "x" => Widget.numberHeld window.x
  | "y" => Widget.numberHeld window.y
  | "width" => Widget.numberHeld window.width
  | "height" => Widget.numberHeld window.height
  | "fixed" => Widget.boolHeld false window.fixed
  | "model" => Widget.boolHeld false window.model
  | "body" => if window.body.isBlank then none else some window.body.toJson
  | _ => none

/-- The members of a window hold at each key what the window holds there. -/
theorem member?_members (window : Window) (key : String) :
    member? key window.members = window.held key := by
  have body : ∀ sought, member? sought
      (if window.body.isBlank then [] else [("body", window.body.toJson)]) =
      if sought = "body" then (if window.body.isBlank then none else some window.body.toJson)
      else none := by
    intro sought
    split <;> simp
  unfold held
  split
  all_goals
    simp only [members, Json.member?_append, Json.member?_singleton, Widget.member?_textMember,
      Widget.member?_numberMember, Widget.member?_boolMember, body]
    simp_all

/-- The keys of the fields of a window, in the order of their declaration. -/
def fieldKeys : List String :=
  ["type", "title", "font", "x", "y", "width", "height", "fixed", "model", "body"]

/-- The fields of a window are written in the order of their declaration. -/
theorem keys_members (window : Window) : (window.members.map (·.1)).Sublist fieldKeys := by
  have spelled : fieldKeys =
      ["type"] ++ ["title"] ++ ["font"] ++ ["x"] ++ ["y"] ++ ["width"] ++ ["height"] ++
        ["fixed"] ++ ["model"] ++ ["body"] := rfl
  rw [spelled]
  simp only [members, List.map_append]
  repeat' apply List.Sublist.append
  all_goals
    first
      | exact Widget.keys_textMember _ _
      | exact Widget.keys_numberMember _ _
      | exact Widget.keys_boolMember _ _ _
      | exact List.Sublist.refl _
      | split <;> simp

/-- The keys of the members of a window are distinct. -/
theorem distinct_members (window : Window) : Distinct window.members :=
  List.Nodup.sublist window.keys_members (by decide)

/-- The members of the document of a window. -/
def documentMembers (window : Window) : List (String × Json) :=
  Json.sortMembers (Json.sortedMembers window.members)

theorem sorted_toJson (window : Window) :
    window.toJson.sorted = .object window.documentMembers := by
  rw [toJson_eq, Json.sorted, documentMembers]

/-- The document of a window holds at each key what the window holds there, sorted. -/
theorem member?_documentMembers (window : Window) (key : String) :
    member? key window.documentMembers = (window.held key).map Json.sorted := by
  rw [documentMembers, Json.member?_sorted key window.distinct_members, member?_members]

end Window

end Dialogs
