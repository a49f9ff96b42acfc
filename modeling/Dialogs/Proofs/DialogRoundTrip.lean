import Dialogs.Proofs.DialogMembers

/-!
# Decoding what has been encoded

The document of a widget, of an item and of a window decodes as what it is the document of. The
document of a window is therefore a request for that very window, refused exactly as the window
itself is.

A document is a value: what a text may spell beyond one, such as a key twice, and the nesting at
which a text is refused, do not arise here.
-/

namespace Dialogs

open Json (member?)

namespace Widget

/-- Members in increasing order of their keys decode as exactly the widget that they describe. -/
theorem ofJson_documentMembers {widget decoded : Widget} :
    ofJson widget.toJson.sorted = .ok decoded ↔
      Describes (fun key => (widget.held key).map Json.sorted) decoded := by
  have distinct : Json.Distinct widget.documentMembers :=
    (Json.increasing_sortMembers _).distinct
  rw [sorted_toJson, ofJson_object_iff distinct]
  simp only [member?_documentMembers]

/-- The items of a widget are what is held for them, once each of them is what it is written as. -/
theorem holds_arrayHeld {items : List (Item Widget)}
    (decoded : List.Forall₂ (fun element item => Item.ofJson element = .ok item)
      (Json.sortedElements (itemsToJson items)) items) :
    Json.Holds (itemsOfDraft .value) [] ((arrayHeld (itemsToJson items)).map Json.sorted)
      items := by
  cases items with
  | nil => simp [itemsToJson, arrayHeld]
  | cons item rest =>
    have filled : arrayHeld (itemsToJson (item :: rest)) =
        some (.array (itemsToJson (item :: rest))) := by
      simp [arrayHeld, itemsToJson]
    rw [filled]
    exact itemsOfDraft_iff.mpr ⟨_, by rw [Json.sorted], decoded⟩

/-- What a widget is written as describes the widget, once this holds of its items. -/
theorem describes_held {widget : Widget}
    (decoded : List.Forall₂ (fun element item => Item.ofJson element = .ok item)
      (Json.sortedElements (itemsToJson widget.items)) widget.items) :
    Describes (fun key => (widget.held key).map Json.sorted) widget where
  id := holds_textHeld widget.id
  kind := holds_textHeld widget.kind
  title := holds_textHeld widget.title
  group := holds_textHeld widget.group
  text := holds_textHeld widget.text
  value := holds_numberHeld widget.value
  width := holds_numberHeld widget.width
  height := holds_numberHeld widget.height
  enabled := holds_boolHeld true widget.enabled
  fill := holds_boolHeld false widget.fill
  items := holds_arrayHeld decoded
  properties := by
    intro key free
    simp only [reservedKeys, List.mem_cons, List.not_mem_nil, or_false, not_or] at free
    have held : widget.held key = (widget.property? key).map (·.json) := by
      simp [Widget.held, free]
    rw [held]
    cases widget.property? key with
    | none => rfl
    | some document =>
      simp only [Option.map_some, Option.some.injEq]
      rw [Json.sorted_of_isSorted _ document.isSorted, Json.document_json]

mutual

/-- A widget is decoded from its document. -/
theorem ofJson_sorted_toJson : (widget : Widget) → ofJson widget.toJson.sorted = .ok widget
  | ⟨_, _, _, _, _, _, _, _, _, _, items, _⟩ =>
    ofJson_documentMembers.mpr (describes_held (ofJson_sorted_itemsToJson items))

/-- Items are decoded one by one from their documents. -/
theorem ofJson_sorted_itemsToJson : (items : List (Item Widget)) →
    List.Forall₂ (fun element item => Item.ofJson element = .ok item)
      (Json.sortedElements (itemsToJson items)) items
  | [] => .nil
  | item :: rest => .cons (ofJson_sorted_itemToJson item) (ofJson_sorted_itemsToJson rest)

/-- An item is decoded from its document. -/
theorem ofJson_sorted_itemToJson : (item : Item Widget) →
    Item.ofJson (itemToJson item).sorted = .ok item
  | .widget child => item_ofJson_widget.mpr (ofJson_sorted_toJson child)
  | .text _ => item_ofJson_text.mpr rfl

end

/-- The blank widget is the only one that is written as nothing. -/
theorem eq_blank_of_isBlank {widget : Widget} (nothing : widget.isBlank = true) :
    widget = blank := by
  obtain ⟨id, kind, title, group, text, value, width, height, enabled, fill, items, properties⟩ :=
    widget
  simp only [isBlank, Bool.and_eq_true, String.isEmpty_iff, beq_iff_eq, Bool.not_eq_true',
    List.isEmpty_iff] at nothing
  obtain ⟨⟨⟨⟨⟨⟨⟨⟨⟨⟨⟨rfl, rfl⟩, rfl⟩, rfl⟩, rfl⟩, rfl⟩, rfl⟩, rfl⟩, rfl⟩, rfl⟩, rfl⟩, none⟩ :=
    nothing
  have empty : properties = .empty :=
    PropertyBag.ext (by simpa [PropertyBag.isEmpty, PropertyBag.empty] using none)
  rw [empty, blank]

end Widget

namespace Window

/-- What a window is written as describes the window. -/
theorem describes_held (window : Window) :
    Describes (fun key => (window.held key).map Json.sorted) window where
  kind := Json.toText_draft.mpr rfl
  title := Widget.holds_textHeld window.title
  font := Widget.holds_textHeld window.font
  x := Widget.holds_numberHeld window.x
  y := Widget.holds_numberHeld window.y
  width := Widget.holds_numberHeld window.width
  height := Widget.holds_numberHeld window.height
  fixed := Widget.holds_boolHeld false window.fixed
  model := Widget.holds_boolHeld false window.model
  body := by
    simp only [held]
    split
    · rename_i nothing
      exact Widget.eq_blank_of_isBlank nothing
    · exact Widget.ofJson_sorted_toJson window.body

/-- A window is decoded from its document. -/
theorem ofJson_sorted_toJson (window : Window) : ofJson window.toJson.sorted = .ok window := by
  have distinct : Json.Distinct window.documentMembers :=
    (Json.increasing_sortMembers _).distinct
  rw [sorted_toJson, ofJson_object_iff distinct]
  simp only [member?_documentMembers]
  exact describes_held window

end Window

/-- Decoding undoes encoding for widgets, items and windows. As a request, the document of a window
stands for that window, or is refused for the reason for which the window is not valid.

Proof: by induction over the items, what a widget is written as at each key describes the widget,
and an object decodes as the widget that it describes. The validation of a request sees the decoded
window, which is the window itself. -/
theorem decode_document :
    (∀ widget : Widget, Widget.ofJson widget.toDocument.json = .ok widget) ∧
      (∀ item : Item Widget, Item.ofJson item.toDocument.json = .ok item) ∧
      ∀ window : Window, Window.ofJson window.toDocument.json = .ok window ∧
        Window.ofRequest window.toDocument.json =
          match window.validate with
          | .ok () => .ok (some window)
          | .error error => .error error := by
  refine ⟨Widget.ofJson_sorted_toJson, Widget.ofJson_sorted_itemToJson, ?_⟩
  intro window
  have decoded : Window.ofJson window.toDocument.json = .ok window :=
    Window.ofJson_sorted_toJson window
  refine ⟨decoded, ?_⟩
  have document : window.toDocument.json = .object window.documentMembers :=
    Window.sorted_toJson window
  rw [document] at decoded ⊢
  simp only [Window.ofRequest, decoded]
  cases window.validate <;> rfl

end Dialogs
