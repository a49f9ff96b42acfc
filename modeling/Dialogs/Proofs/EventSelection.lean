import Dialogs.Event
import Dialogs.Proofs.RecordFields

/-!
# Which details are selections

A detail is anything, such as the columns of a row, and may look almost like a selection. It is one
exactly if it is an object with an index and an id and nothing else, or an array of just these two.
The index is an integer of the signed 64-bit range, and the id a string.

A window closes after the selection of a row, which is told by a detail that is no selection of an
entry. So whether a window has closed hangs on this shape, and otherwise on the kind of the event
alone.
-/

namespace Dialogs

open Json (member? Distinct)

namespace Selection

variable {selection : Selection} {members : List (String × Json)}

/-- The values that say a selection: an object with its index and its id and no other member, and
the array of both. -/
inductive Shape (selection : Selection) : Json → Prop where
  | object {members : List (String × Json)}
    (keys : ∀ key, key ∈ members.map Prod.fst ↔ key = "index" ∨ key = "id")
    (index : member? "index" members = some (.ofInt64 selection.index))
    (id : member? "id" members = some (.string selection.id)) : Shape selection (.object members)
  | array : Shape selection (.array [.ofInt64 selection.index, .string selection.id])

/-! ### Objects -/

/-- What is held at each key is what the selection has in each field, where a field without a member
has its initial value. -/
structure Describes (held : String → Option Json) (selection : Selection) : Prop where
  index : Json.Holds Json.Draft.toInt64 0 (held "index") selection.index
  id : Json.Holds Json.Draft.toText "" (held "id") selection.id

/-- A description fits one selection only. -/
theorem Describes.unique {held : String → Option Json} {first second : Selection}
    (left : Describes held first) (right : Describes held second) : first = second := by
  cases first
  cases second
  rw [mk.injEq]
  exact ⟨left.index.unique right.index, left.id.unique right.id⟩

/-- Both fields of a selection are read into their own places. -/
theorem keeps_describes : record.Keeps Describes := by
  constructor
  case initial => exact ⟨rfl, rfl⟩
  case field =>
    intro field inside held value set target read described
    simp only [record, List.mem_cons, List.not_mem_nil, or_false] at inside
    rcases inside with rfl | rfl
    all_goals
      obtain ⟨single, decoded, rfl⟩ := Json.ok_of_map read
      constructor <;> simp [Json.Field.plain, decoded, described.index, described.id]
  case other =>
    intro key unknown held value target described
    simp only [Json.Record.keys, record, Json.Field.plain, List.map_cons, List.map_nil,
      List.mem_cons, List.not_mem_nil, or_false, not_or] at unknown
    constructor <;> simp [unknown, Ne.symm, described.index, described.id]

/-- The members of an object determine the selection that it is read as. -/
theorem determines_describes : record.Determines Describes where
  toKeeps := keeps_describes
  unique := fun _ _ _ left right => left.unique right
  readable := by
    rintro held selection ⟨index, id⟩ field inside found present
    simp only [record, List.mem_cons, List.not_mem_nil, or_false] at inside
    rcases inside with rfl | rfl
    all_goals
      simp only [Json.Field.plain] at present
      simp_all [Json.Field.plain, Except.map]

/-- The keys of the fields of a selection. -/
theorem mem_keys_iff {key : String} : key ∈ record.keys ↔ key = "index" ∨ key = "id" := by
  simp [Json.Record.keys, record, Json.Field.plain]

/-- An object decodes as a selection exactly if it has its shape. -/
theorem decode_object_iff (distinct : Distinct members) :
    Json.decodeValue record.decode (.object members) = .ok selection ↔
      Shape selection (.object members) := by
  constructor
  · intro decoded
    have keys := Json.Record.keys_of_ofMembers rfl (by simp [record, Json.Field.plain]) decoded
    obtain ⟨said, -⟩ := (determines_describes.decode_object_iff distinct).mp decoded
    obtain ⟨number, foundIndex, readIndex⟩ :=
      said.index.of_present ((keys "index").mpr (mem_keys_iff.mpr (.inl rfl)))
    obtain ⟨text, foundId, readId⟩ :=
      said.id.of_present ((keys "id").mpr (mem_keys_iff.mpr (.inr rfl)))
    rw [Json.toInt64_draft.mp readIndex] at foundIndex
    rw [Json.toText_draft.mp readId] at foundId
    exact .object (fun key => (keys key).trans mem_keys_iff) foundIndex foundId
  · rintro ⟨keys, index, id⟩
    have said : Describes (fun key => member? key members) selection :=
      ⟨by rw [index]; exact Json.toInt64_draft.mpr rfl, by rw [id]; exact Json.toText_draft.mpr rfl⟩
    refine (determines_describes.decode_object_iff distinct).mpr ⟨said, ?_, ?_⟩
    · intro _ member inside
      exact mem_keys_iff.mpr ((keys member.1).mp (List.mem_map_of_mem inside))
    · intro field inside _
      exact (keys field.key).mpr (mem_keys_iff.mp (List.mem_map_of_mem inside))

/-! ### Arrays -/

/-- An array decodes as a selection exactly if it is its index and its id. -/
theorem decode_array_iff {elements : List Json} :
    Json.decodeValue record.decode (.array elements) = .ok selection ↔
      Shape selection (.array elements) := by
  rw [Json.Record.decode_array_iff (by simp [record, Json.Field.plain])]
  constructor
  · rintro (_ | ⟨readIndex, _ | ⟨readId, ⟨-⟩⟩⟩)
    obtain ⟨index, isIndex, rfl⟩ := Json.ok_of_map readIndex
    obtain ⟨id, isId, rfl⟩ := Json.ok_of_map readId
    rw [Json.toInt64_draft.mp isIndex, Json.toText_draft.mp isId]
    exact .array
  · rintro ⟨-⟩
    have index : (Json.ofInt64 selection.index).draft.toInt64 = .ok selection.index :=
      Json.toInt64_draft.mpr rfl
    exact .field (congrArg (Except.map _) index) (.field rfl (.done _))

/-- A value that is sorted decodes as a selection exactly if it has its shape. -/
theorem decode_iff_shape {value : Json} (sorted : value.IsSorted) :
    Json.decodeValue record.decode value = .ok selection ↔ Shape selection value := by
  cases value with
  | object members => exact decode_object_iff sorted.1.distinct
  | array elements => exact decode_array_iff
  | _ => exact ⟨fun decoded => (by cases decoded), fun shape => (by cases shape)⟩

end Selection

namespace Event

/-- The detail of an event is a selection exactly if it has the shape of that. -/
theorem selection?_eq_some_iff {event : Event} {selection : Selection} :
    event.selection? = some selection ↔
      ∃ detail, event.detail = some detail ∧ selection.Shape detail.json := by
  rw [selection?, Option.bind_eq_some_iff]
  refine exists_congr fun detail => and_congr_right fun _ => ?_
  rw [← Selection.decode_iff_shape detail.isSorted]
  cases Json.decodeValue Selection.record.decode detail.json <;> simp [Except.toOption]

/-- There is no selection exactly if the detail, if there is one, does not have the shape of any. -/
theorem selection?_eq_none_iff {event : Event} :
    event.selection? = none ↔
      ∀ detail, event.detail = some detail →
        ∀ selection : Selection, ¬ selection.Shape detail.json := by
  simp only [Option.eq_none_iff_forall_ne_some, ne_eq, selection?_eq_some_iff, not_exists, not_and]
  exact forall_comm.trans (forall_congr' fun _ => forall_comm)

/-- An event picks an entry exactly if its detail is an object with an index and an id and nothing
else, or the array of both. The window closes with an event exactly if that is a click or a double
click, or a selection whose detail does not pick an entry. After an event of another kind it stays
open, whatever the detail is. -/
theorem selection_and_closing (event : Event) :
    (∀ selection : Selection, event.selection? = some selection ↔
        ∃ detail, event.detail = some detail ∧ selection.Shape detail.json) ∧
      (event.isTerminal = true ↔
        event.kind = .clicked ∨ event.kind = .doubleClicked ∨
          event.kind = .selected ∧
            ¬ ∃ detail selection, event.detail = some detail ∧
              Selection.Shape selection detail.json) ∧
      ({ event with kind := .changed } : Event).isTerminal = false ∧
      ∀ name : String, ({ event with kind := .other name } : Event).isTerminal = false := by
  refine ⟨fun _ => selection?_eq_some_iff, ?_, rfl, fun _ => rfl⟩
  rw [isTerminal]
  cases kind : event.kind with
  | selected =>
    rw [Option.isNone_iff_eq_none, selection?_eq_none_iff]
    simp
  | _ => simp

/-- A third member makes an index and an id the columns of a row, and the window closes. -/
example : (⟨.selected, "grid", some (Json.object
    [("id", .string "7"), ("index", .ofInt64 2), ("name", .string "Ada")]).document⟩ :
      Event).isTerminal = true := by
  rfl

end Event

end Dialogs
