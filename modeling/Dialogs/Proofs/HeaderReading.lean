import Dialogs.Header
import Dialogs.Proofs.WidgetMaking

/-!
# What a header says

The header of a list or a tree is a property like any other, so it may be anything. This module says
which values spell a column, apart from the reader: a string, an object with an id and a text, and
the array of both. A header is read as a whole or not at all. It has the columns of its entries,
place by place, or it is refused for the first entry that spells none.

Columns that are put under the key of the header come back, also through the document of the widget.
-/

namespace Dialogs

open Json (member? Distinct)

namespace Json

variable {α β ε : Type} {read : α → Except ε β} {elements : List α}

/-- A list is read when each of its elements is, in order. -/
theorem mapM_eq_ok_iff {results : List β} :
    elements.mapM read = .ok results ↔
      List.Forall₂ (fun element result => read element = .ok result) elements results := by
  induction elements generalizing results with
  | nil =>
    rw [List.mapM_nil, List.forall₂_nil_left_iff]
    exact ⟨fun same => (Except.ok.inj same).symm, fun same => congrArg Except.ok same.symm⟩
  | cons element rest inductionHypothesis =>
    rw [List.mapM_cons, List.forall₂_cons_left_iff]
    constructor
    · intro all
      obtain ⟨result, first, all⟩ := ok_of_bind all
      obtain ⟨others, later, same⟩ := ok_of_bind all
      exact ⟨result, others, first, inductionHypothesis.mp later, (Except.ok.inj same).symm⟩
    · rintro ⟨result, others, first, later, rfl⟩
      rw [first, inductionHypothesis.mpr later]
      rfl

/-- A list cannot be read for the first of its elements that cannot be, and for the same reason. -/
theorem mapM_eq_error_iff {cause : ε} :
    elements.mapM read = .error cause ↔
      ∃ before bad behind, elements = before ++ bad :: behind ∧
        (∀ element ∈ before, ∃ result, read element = .ok result) ∧ read bad = .error cause := by
  constructor
  · intro refused
    induction elements with
    | nil => cases refused
    | cons element rest inductionHypothesis =>
      rw [List.mapM_cons] at refused
      cases first : read element with
      | error found =>
        rw [first] at refused
        obtain rfl : found = cause := Except.error.inj refused
        exact ⟨[], element, rest, rfl, by simp, first⟩
      | ok result =>
        have later : rest.mapM read = .error cause := by
          rw [first] at refused
          cases others : rest.mapM read with
          | error found => rw [others] at refused; exact refused
          | ok results => rw [others] at refused; cases refused
        obtain ⟨before, bad, behind, rfl, good, found⟩ := inductionHypothesis later
        exact ⟨element :: before, bad, behind, rfl,
          List.forall_mem_cons.mpr ⟨⟨result, first⟩, good⟩, found⟩
  · rintro ⟨before, bad, behind, rfl, good, refused⟩
    induction before with
    | nil =>
      rw [List.nil_append, List.mapM_cons, refused]
      rfl
    | cons element before inductionHypothesis =>
      obtain ⟨⟨result, first⟩, others⟩ := List.forall_mem_cons.mp good
      rw [List.cons_append, List.mapM_cons, first, inductionHypothesis others]
      rfl

end Json

namespace Column

/-- Which values spell which column: a string, which is its id and its text; an object with both,
and whatever else; and the array of both. -/
inductive Spelled : Json → Column → Prop where
  | string (text : String) : Spelled (.string text) ⟨text, text⟩
  | object {members : List (String × Json)} {id text : String}
    (named : member? "id" members = some (.string id))
    (labelled : member? "text" members = some (.string text)) : Spelled (.object members) ⟨id, text⟩
  | array (id text : String) : Spelled (.array [.string id, .string text]) ⟨id, text⟩

variable {column : Column} {columns : List Column} {entry : Json} {entries : List Json}
  {members : List (String × Json)} {cause : Json.Error}

/-! ### Entries that spell a column -/

/-- What is held at each key is what the column has in each field, where a field without a member
has its initial value. -/
structure Describes (held : String → Option Json) (column : Column) : Prop where
  id : Json.Holds Json.Draft.toText "" (held "id") column.id
  text : Json.Holds Json.Draft.toText "" (held "text") column.text

/-- The members of an object determine the column that it is read as. -/
theorem determines_describes : record.Determines Describes := by
  constructor
  case toKeeps =>
    constructor
    case initial => exact ⟨rfl, rfl⟩
    case field =>
      intro field inside held value set target read described
      simp only [record, List.mem_cons, List.not_mem_nil, or_false] at inside
      rcases inside with rfl | rfl
      all_goals
        obtain ⟨single, decoded, rfl⟩ := Json.ok_of_map read
        constructor <;> simp [Json.Field.plain, decoded, described.id, described.text]
    case other =>
      intro key unknown held value target described
      simp only [Json.Record.keys, record, Json.Field.plain, List.map_cons, List.map_nil,
        List.mem_cons, List.not_mem_nil, or_false, not_or] at unknown
      constructor <;> simp [unknown, Ne.symm, described.id, described.text]
  case unique =>
    rintro held ⟨id, text⟩ ⟨otherId, otherText⟩ left right
    rw [mk.injEq]
    exact ⟨left.id.unique right.id, left.text.unique right.text⟩
  case readable =>
    -- Both fields are described, so the member of either is a string.
    rintro held column ⟨id, text⟩ field inside found present
    simp only [record, List.mem_cons, List.not_mem_nil, or_false] at inside
    rcases inside with rfl | rfl
    all_goals
      simp only [Json.Field.plain] at present
      simp_all [Json.Field.plain, Except.map]

/-- An object decodes as a column exactly if it spells it. -/
theorem decode_object_iff (distinct : Distinct members) :
    Json.decodeValue record.decode (.object members) = .ok column ↔
      Spelled (.object members) column := by
  rw [determines_describes.decode_object_iff distinct]
  constructor
  · rintro ⟨⟨id, text⟩, -, present⟩
    obtain ⟨_, foundId, readId⟩ := id.of_present (present _ List.mem_cons_self rfl)
    obtain ⟨_, foundText, readText⟩ :=
      text.of_present (present _ (List.mem_cons_of_mem _ List.mem_cons_self) rfl)
    rw [Json.toText_draft.mp readId] at foundId
    rw [Json.toText_draft.mp readText] at foundText
    exact .object foundId foundText
  · intro shape
    cases shape with
    | object id text =>
      refine ⟨⟨by rw [id]; exact Json.toText_draft.mpr rfl,
        by rw [text]; exact Json.toText_draft.mpr rfl⟩, nofun, ?_⟩
      intro field inside _
      simp only [record, List.mem_cons, List.not_mem_nil, or_false] at inside
      rcases inside with rfl | rfl
      · exact List.mem_map_of_mem (f := (·.1)) (Json.mem_of_member? id)
      · exact List.mem_map_of_mem (f := (·.1)) (Json.mem_of_member? text)

/-- An array decodes as a column exactly if it spells it: if it is the id and the text. -/
theorem decode_array_iff {elements : List Json} :
    Json.decodeValue record.decode (.array elements) = .ok column ↔
      Spelled (.array elements) column := by
  rw [Json.Record.decode_array_iff (by simp [record, Json.Field.plain])]
  constructor
  · rintro (_ | ⟨readId, _ | ⟨readText, ⟨-⟩⟩⟩)
    obtain ⟨id, isId, rfl⟩ := Json.ok_of_map readId
    obtain ⟨text, isText, rfl⟩ := Json.ok_of_map readText
    rw [Json.toText_draft.mp isId, Json.toText_draft.mp isText]
    exact .array id text
  · rintro ⟨-⟩
    exact .field rfl (.field rfl (.done _))

/-- An entry of a document is read as a column exactly if it spells it. -/
theorem ofEntry_eq_ok_iff (sorted : entry.IsSorted) :
    ofEntry entry = .ok column ↔ Spelled entry column := by
  cases entry with
  | string text =>
    rw [ofEntry, Except.ok.injEq]
    constructor
    · rintro rfl
      exact .string text
    · rintro ⟨-⟩
      rfl
  | object members => exact decode_object_iff sorted.1.distinct
  | array elements => exact decode_array_iff
  | _ => exact ⟨fun decoded => (by cases decoded), fun spelled => (by cases spelled)⟩

/-- An entry that spells no column is refused as a value that does not decode as one. -/
theorem ofEntry_eq_error_iff (sorted : entry.IsSorted) :
    ofEntry entry = .error cause ↔
      (∀ column, ¬ Spelled entry column) ∧ Json.decodeValue record.decode entry = .error cause := by
  have unspelled : ofEntry entry = .error cause → ∀ column, ¬ Spelled entry column := by
    intro refused column spelled
    rw [(ofEntry_eq_ok_iff sorted).mpr spelled] at refused
    cases refused
  constructor
  · intro refused
    refine ⟨unspelled refused, ?_⟩
    cases entry with
    | string text => cases refused
    | _ => exact refused
  · rintro ⟨shapeless, refused⟩
    cases entry with
    | string text => exact absurd (.string text) (shapeless _)
    | _ => exact refused

/-- The entries of a document are read as columns exactly if they spell them, place by place. -/
theorem mapM_ofEntry_eq_ok_iff (sorted : ∀ entry ∈ entries, entry.IsSorted) :
    entries.mapM ofEntry = .ok columns ↔ List.Forall₂ Spelled entries columns := by
  rw [Json.mapM_eq_ok_iff]
  induction entries generalizing columns with
  | nil => rw [List.forall₂_nil_left_iff, List.forall₂_nil_left_iff]
  | cons entry rest inductionHypothesis =>
    obtain ⟨here, later⟩ := List.forall_mem_cons.mp sorted
    rw [List.forall₂_cons_left_iff, List.forall₂_cons_left_iff]
    simp only [ofEntry_eq_ok_iff here, inductionHypothesis later]

/-- They are refused for the first of them that spells no column. -/
theorem mapM_ofEntry_eq_error_iff (sorted : ∀ entry ∈ entries, entry.IsSorted) :
    entries.mapM ofEntry = .error cause ↔
      ∃ before bad behind, entries = before ++ bad :: behind ∧
        (∀ entry ∈ before, ∃ column, Spelled entry column) ∧ (∀ column, ¬ Spelled bad column) ∧
        Json.decodeValue record.decode bad = .error cause := by
  rw [Json.mapM_eq_error_iff]
  refine exists_congr fun before => exists_congr fun bad => exists_congr fun behind =>
    and_congr_right ?_
  rintro rfl
  have sortedBefore : ∀ entry ∈ before, entry.IsSorted :=
    fun entry inside => sorted entry (List.mem_append_left _ inside)
  have sortedBad : bad.IsSorted := sorted bad (by simp)
  rw [ofEntry_eq_error_iff sortedBad]
  refine and_congr_left fun _ => forall₂_congr fun entry inside => exists_congr fun column => ?_
  exact ofEntry_eq_ok_iff (sortedBefore entry inside)

/-! ### Columns as entries -/

/-- The members of a column are in the order of their keys. -/
theorem isSorted_toJson (column : Column) : column.toJson.IsSorted := by
  have ordered : "id" < "text" := by decide
  have increasing :
      Json.Increasing [("id", Json.string column.id), ("text", Json.string column.text)] :=
    List.pairwise_cons.mpr ⟨List.forall_mem_singleton.mpr ordered, List.pairwise_singleton _ _⟩
  exact ⟨increasing, trivial, trivial, trivial⟩

/-- A column is spelled by the value that it is written as. -/
theorem spelled_toJson (column : Column) : Spelled column.toJson column :=
  .object rfl rfl

/-- The value of columns for a header. -/
def headerOf (columns : List Column) : Json := .array (columns.map toJson)

/-- The entries that columns are written as spell them. -/
theorem spelled_map_toJson (columns : List Column) :
    List.Forall₂ Spelled (columns.map toJson) columns := by
  rw [List.forall₂_map_left_iff, List.forall₂_same]
  exact fun column _ => column.spelled_toJson

end Column

namespace Json

/-- A list of elements is sorted in depth when each of them is. -/
theorem elementsSorted_iff {elements : List Json} :
    ElementsSorted elements ↔ ∀ element ∈ elements, element.IsSorted := by
  induction elements with
  | nil => simp [ElementsSorted]
  | cons element rest inductionHypothesis => simp [ElementsSorted, inductionHypothesis]

end Json

namespace Widget

/-- What the header of a widget is read as. Without one, or with a null for one, there are no
columns. The entries of an array are the columns that they spell, place by place, or the first of
them that spells none is reported as what is wrong with it. Anything else is reported by its
type. -/
inductive ReadsHeader (widget : Widget) : Except DialogError (List Column) → Prop where
  | absent (unset : widget.property? "header" = none) : ReadsHeader widget (.ok [])
  | null {held : Json.Document} (put : widget.property? "header" = some held)
    (null : held.json = .null) : ReadsHeader widget (.ok [])
  | columns {held : Json.Document} {entries : List Json} {columns : List Column}
    (put : widget.property? "header" = some held) (array : held.json = .array entries)
    (spelled : List.Forall₂ Column.Spelled entries columns) : ReadsHeader widget (.ok columns)
  | entry {held : Json.Document} {before behind : List Json} {bad : Json} {cause : Json.Error}
    (put : widget.property? "header" = some held)
    (array : held.json = .array (before ++ bad :: behind))
    (good : ∀ entry ∈ before, ∃ column, Column.Spelled entry column)
    (unspelled : ∀ column, ¬ Column.Spelled bad column)
    (refused : Json.decodeValue Column.record.decode bad = .error cause) :
    ReadsHeader widget (.error (.invalidHeader (.entry cause)))
  | other {held : Json.Document} (put : widget.property? "header" = some held)
    (present : held.json ≠ .null) (other : ∀ entries, held.json ≠ .array entries) :
    ReadsHeader widget (.error (.invalidHeader (.notAnArray held.json.typeName)))

variable {widget : Widget} {outcome : Except DialogError (List Column)} {held : Json.Document}

/-- The entries of a property are sorted. -/
theorem sorted_entries {entries : List Json} (array : held.json = .array entries) :
    ∀ entry ∈ entries, entry.IsSorted := by
  have sorted := held.isSorted
  rw [array] at sorted
  exact Json.elementsSorted_iff.mp sorted

/-- A header that is an array is read entry by entry. -/
theorem header_of_array {entries : List Json} (put : widget.property? "header" = some held)
    (array : held.json = .array entries) :
    widget.header =
      (entries.mapM Column.ofEntry).mapError fun cause => .invalidHeader (.entry cause) := by
  rw [header, put, Option.map_some, array]

/-- A header that is neither a null nor an array is reported by its type. -/
theorem header_of_other (put : widget.property? "header" = some held) (present : held.json ≠ .null)
    (other : ∀ entries, held.json ≠ .array entries) :
    widget.header = .error (.invalidHeader (.notAnArray held.json.typeName)) := by
  rw [header, put, Option.map_some]
  cases shape : held.json with
  | null => exact absurd shape present
  | array entries => exact absurd shape (other entries)
  | _ => rfl

/-- Every header is read as one of these. -/
theorem readsHeader_header (widget : Widget) : widget.ReadsHeader widget.header := by
  cases put : widget.property? "header" with
  | none =>
    have read : widget.header = .ok [] := by rw [header, put]; rfl
    rw [read]
    exact .absent put
  | some held =>
    cases shape : held.json with
    | null =>
      have read : widget.header = .ok [] := by rw [header, put, Option.map_some, shape]
      rw [read]
      exact .null put shape
    | array entries =>
      have sorted := sorted_entries shape
      rw [header_of_array put shape]
      cases read : entries.mapM Column.ofEntry with
      | ok columns => exact .columns put shape ((Column.mapM_ofEntry_eq_ok_iff sorted).mp read)
      | error cause =>
        obtain ⟨before, bad, behind, rfl, good, unspelled, refused⟩ :=
          (Column.mapM_ofEntry_eq_error_iff sorted).mp read
        exact .entry put shape good unspelled refused
    | _ =>
      have present : held.json ≠ .null := by simp [shape]
      have other : ∀ entries, held.json ≠ .array entries := by simp [shape]
      rw [header_of_other put present other]
      exact .other put present other

/-- What a header is read as is what it says. -/
theorem ReadsHeader.header_eq (reads : widget.ReadsHeader outcome) : widget.header = outcome := by
  cases reads with
  | absent unset => rw [header, unset]; rfl
  | null put null => rw [header, put, Option.map_some, null]
  | columns put array spelled =>
    rw [header_of_array put array,
      (Column.mapM_ofEntry_eq_ok_iff (sorted_entries array)).mpr spelled]
    rfl
  | entry put array good unspelled refused =>
    rw [header_of_array put array, (Column.mapM_ofEntry_eq_error_iff (sorted_entries array)).mpr
      ⟨_, _, _, rfl, good, unspelled, refused⟩]
    rfl
  | other put present other => exact header_of_other put present other

/-- Columns that are put under the key of the header are its columns. -/
theorem header_of_put (columns : List Column)
    (put : widget.property? "header" = some (Column.headerOf columns).document) :
    widget.header = .ok columns := by
  have sorted : (Column.headerOf columns).IsSorted := by
    refine Json.elementsSorted_iff.mpr fun entry inside => ?_
    obtain ⟨column, -, rfl⟩ := List.mem_map.mp inside
    exact column.isSorted_toJson
  have array : (Column.headerOf columns).document.json = .array (columns.map Column.toJson) :=
    Json.sorted_of_isSorted _ sorted
  exact (ReadsHeader.columns put array (Column.spelled_map_toJson columns)).header_eq

/-- A header is read as a whole or not at all, as it is said above, and it is read as nothing else.
Columns that are put under its key come back, from the widget itself and from the widget that is
decoded from its document.

Proof: an entry is read as a column exactly if it spells it, and a list of entries is read exactly
if each of them is, and is refused for the first that is not. Columns spell themselves. -/
theorem header_eq_iff_reads :
    (∀ (widget : Widget) (outcome : Except DialogError (List Column)),
      widget.header = outcome ↔ widget.ReadsHeader outcome) ∧
      ∀ (widget : Widget) (columns : List Column), ∃ changed,
        widget.setProperty "header" (Column.headerOf columns).document = (true, changed) ∧
          changed.header = .ok columns ∧
          ∃ decoded, ofJson changed.toDocument.json = .ok decoded ∧
            decoded.header = .ok columns := by
  constructor
  · intro widget outcome
    constructor
    · rintro rfl
      exact widget.readsHeader_header
    · exact ReadsHeader.header_eq
  · intro widget columns
    cases widget.setsProperty "header" (Column.headerOf columns).document with
    | refused reserved => exact absurd reserved (by decide)
    | done changed _ answered _ put =>
      have returned := header_of_put columns put
      exact ⟨changed, answered, returned, changed, ofJson_sorted_toJson changed, returned⟩

/-- Of two bad entries the first is reported, and the good one in front of them is not read. -/
example : (blank.withProperty "header" (Json.document
    (.array [.string "Name", .array [.string "size"], .null]))).header =
      .error (.invalidHeader (.entry (.invalidLength 1 "struct HeaderItem with 2 elements"))) := by
  rfl

end Widget

end Dialogs
