import Dialogs.Proofs.WidgetFields
import Dialogs.Window.Codec

/-!
# What an object says of a window

A window is a record whose fields are related to what is held at their keys as those of a widget
are; its body is a widget of its own. An object with distinct keys decodes as a window exactly when
it describes it. Keys that are no fields of a window say nothing, and no field is required.
-/

namespace Dialogs

namespace Window

/-- What is held at each key is what the window has in each field. -/
structure Describes (held : String → Option Json) (window : Window) : Prop where
  kind : Json.Holds Json.Draft.toText "" (held "type") window.kind
  title : Json.Holds Json.Draft.toText "" (held "title") window.title
  font : Json.Holds Json.Draft.toText "" (held "font") window.font
  x : Json.Holds Json.Draft.toInt64 0 (held "x") window.x
  y : Json.Holds Json.Draft.toInt64 0 (held "y") window.y
  width : Json.Holds Json.Draft.toInt64 0 (held "width") window.width
  height : Json.Holds Json.Draft.toInt64 0 (held "height") window.height
  fixed : Json.Holds Json.Draft.toBool false (held "fixed") window.fixed
  model : Json.Holds Json.Draft.toBool false (held "model") window.model
  body : Json.Holds (Widget.ofDraft .value) .blank (held "body") window.body

/-- A description fits one window only. -/
theorem Describes.unique {held : String → Option Json} {first second : Window}
    (left : Describes held first) (right : Describes held second) : first = second := by
  cases first
  cases second
  simp only [mk.injEq]
  exact ⟨left.kind.unique right.kind, left.title.unique right.title, left.font.unique right.font,
    left.x.unique right.x, left.y.unique right.y, left.width.unique right.width,
    left.height.unique right.height, left.fixed.unique right.fixed, left.model.unique right.model,
    left.body.unique right.body⟩

/-- Every field of a window is read into its own place. -/
theorem keeps_describes : record.Keeps Describes := by
  constructor
  case initial => constructor <;> simp [record, empty]
  case field =>
    intro field inside held value set target read described
    simp only [record, List.mem_cons, List.not_mem_nil, or_false] at inside
    rcases inside with rfl | rfl | rfl | rfl | rfl | rfl | rfl | rfl | rfl | rfl
    all_goals
      obtain ⟨single, decoded, rfl⟩ := Json.ok_of_map read
      constructor <;>
        simp [Json.Field.plain, decoded, described.kind, described.title, described.font,
          described.x, described.y, described.width, described.height, described.fixed,
          described.model, described.body]
  case other =>
    intro key unknown held value target described
    simp only [Json.Record.keys, record, Json.Field.plain, List.map_cons, List.map_nil,
      List.mem_cons, List.not_mem_nil, or_false, not_or] at unknown
    constructor <;>
      simp [unknown, Ne.symm, described.kind, described.title, described.font, described.x,
        described.y, described.width, described.height, described.fixed, described.model,
        described.body]

/-- Each described member of a field can be read. -/
theorem Describes.readable {held : String → Option Json} {window : Window} {value : Json}
    {field : Json.Field Window} (described : Describes held window)
    (inside : field ∈ record.fields) (found : held field.key = some value) :
    ∃ set, field.decode .value value.draft = .ok set := by
  obtain ⟨kind, title, font, x, y, width, height, fixed, model, body⟩ := described
  simp only [record, List.mem_cons, List.not_mem_nil, or_false] at inside
  rcases inside with rfl | rfl | rfl | rfl | rfl | rfl | rfl | rfl | rfl | rfl
  all_goals
    simp only [Json.Field.plain] at found
    simp_all [Json.Field.plain, Except.map, bind, Except.bind, pure, Except.pure]

/-- The members of an object determine the window that it is read as. -/
theorem determines_describes : record.Determines Describes where
  toKeeps := keeps_describes
  unique := fun _ _ _ left right => left.unique right
  readable := fun _ _ described _ inside _ found => described.readable inside found

/-- An object with distinct keys decodes as exactly the window that it describes. -/
theorem ofJson_object_iff {members : List (String × Json)} {window : Window}
    (distinct : Json.Distinct members) :
    ofJson (.object members) = .ok window ↔
      Describes (fun key => Json.member? key members) window := by
  rw [ofJson, determines_describes.decode_object_iff distinct]
  exact and_iff_left ⟨nofun, by simp [record, Json.Field.plain]⟩

end Window

end Dialogs
