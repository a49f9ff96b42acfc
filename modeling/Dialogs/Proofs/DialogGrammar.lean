import Dialogs.Proofs.WindowFields

/-!
# Which documents are dialogs

The grammar of dialog documents says what may be held at each key: a text, an integer of the signed
64-bit range or a truth value in the fields of a single value, items or a body in the others, and
anything at all at every other key. It is written down here without the decoder, and the decoder
accepts exactly the documents of this grammar. A request is undecodable exactly when it is an object
outside of it.

A fault at any depth refuses the whole document. There is no other reading to which the decoder could
turn: an object among the items is never a bare text, and a field is never a property.
-/

namespace Dialogs

open Json (Distinct)

/-- The keys of the fields that hold a single value, by what they hold. -/
structure ScalarKeys where
  texts : List String
  numbers : List String
  truths : List String

/-- The keys of all fields of a single value. -/
def ScalarKeys.all (keys : ScalarKeys) : List String := keys.texts ++ keys.numbers ++ keys.truths

/-- What may be held at the key of a field of a single value. A double is no number here, and neither
is an integer beyond the signed 64-bit range. -/
inductive ScalarKeys.Admits (keys : ScalarKeys) : String → Json → Prop where
  | text {key : String} (field : key ∈ keys.texts) (text : String) : keys.Admits key (.string text)
  | number {key : String} (field : key ∈ keys.numbers) (number : Int64) :
    keys.Admits key (.ofInt64 number)
  | truth {key : String} (field : key ∈ keys.truths) (truth : Bool) : keys.Admits key (.bool truth)

namespace ScalarKeys

variable {keys : ScalarKeys} {key : String} {value : Json}

/-- At the key of a text exactly a text is admitted. -/
theorem admits_text (field : key ∈ keys.texts) (single : key ∉ keys.numbers ∧ key ∉ keys.truths) :
    keys.Admits key value ↔ ∃ text, value.draft.toText = .ok text := by
  simp only [Json.toText_draft]
  constructor
  · intro admitted
    cases admitted with
    | text _ text => exact ⟨text, rfl⟩
    | number other => exact absurd other single.1
    | truth other => exact absurd other single.2
  · rintro ⟨text, rfl⟩
    exact .text field text

/-- At the key of a number exactly an integer of the signed 64-bit range is admitted. -/
theorem admits_number (field : key ∈ keys.numbers) (single : key ∉ keys.texts ∧ key ∉ keys.truths) :
    keys.Admits key value ↔ ∃ number, value.draft.toInt64 = .ok number := by
  simp only [Json.toInt64_draft]
  constructor
  · intro admitted
    cases admitted with
    | text other => exact absurd other single.1
    | number _ number => exact ⟨number, rfl⟩
    | truth other => exact absurd other single.2
  · rintro ⟨number, rfl⟩
    exact .number field number

/-- At the key of a truth value exactly a truth value is admitted. -/
theorem admits_truth (field : key ∈ keys.truths) (single : key ∉ keys.texts ∧ key ∉ keys.numbers) :
    keys.Admits key value ↔ ∃ truth, value.draft.toBool = .ok truth := by
  simp only [Json.toBool_draft]
  constructor
  · intro admitted
    cases admitted with
    | text other => exact absurd other single.1
    | number other => exact absurd other single.2
    | truth _ truth => exact ⟨truth, rfl⟩
  · rintro ⟨truth, rfl⟩
    exact .truth field truth

/-- Only the fields of a single value are admitted. -/
theorem Admits.mem (admitted : keys.Admits key value) : key ∈ keys.all := by
  cases admitted <;> simp [all, *]

end ScalarKeys

namespace Json

/-- A change of an outcome succeeds exactly on a success. -/
theorem exists_ok_map {ε α β : Type} (change : α → β) (outcome : Except ε α) :
    (∃ result, outcome.map change = .ok result) ↔ ∃ value, outcome = .ok value := by
  cases outcome <;> simp [Except.map]

end Json

namespace Widget

/-- The fields of a widget that hold a single value. -/
def scalarKeys : ScalarKeys :=
  { texts := ["id", "type", "title", "group", "text"]
    numbers := ["value", "width", "height"]
    truths := ["enabled", "fill"] }

mutual

/-- The documents that are widgets: objects in which every member is admitted. -/
inductive Shape : Json → Prop where
  | object {members : List (String × Json)}
    (each : ∀ member ∈ members, MemberShape member.1 member.2) : Shape (.object members)

/-- What may be held at a key of a widget. There is no condition on a key that is no field. -/
inductive MemberShape : String → Json → Prop where
  | scalar {key : String} {value : Json} (admitted : scalarKeys.Admits key value) :
    MemberShape key value
  | items {elements : List Json} (each : ∀ element ∈ elements, ItemShape element) :
    MemberShape "items" (.array elements)
  | other {key : String} {value : Json} (free : key ∉ scalarKeys.all ++ ["items"]) :
    MemberShape key value

/-- What may stand among the items of a widget. -/
inductive ItemShape : Json → Prop where
  | text (text : String) : ItemShape (.string text)
  | widget {value : Json} (shape : Shape value) : ItemShape value

end

variable {key : String} {value : Json} {seen : List String}

/-- A field of a single value can be read exactly when its member is admitted. -/
theorem scalar_readable_iff {outcome : Except Json.Error (Widget → Widget)}
    (field : scalarField? key value.draft = some outcome) :
    (∃ effect, outcome = .ok effect) ↔ scalarKeys.Admits key value := by
  unfold scalarField? at field
  split at field
  case h_11 => cases field
  all_goals
    obtain rfl := Option.some.inj field
    rw [Json.exists_ok_map]
  case h_6 | h_7 | h_8 => exact (ScalarKeys.admits_number (by decide) (by decide)).symm
  case h_9 | h_10 => exact (ScalarKeys.admits_truth (by decide) (by decide)).symm
  all_goals exact (ScalarKeys.admits_text (by decide) (by decide)).symm

/-- A key that is no field is read as no single value. -/
theorem scalarField?_eq_none (plain : key ∉ fieldKeys) : scalarField? key value.draft = none := by
  unfold scalarField?
  split
  case h_11 => rfl
  all_goals exact absurd (by decide) plain

/-- Whether a member can be read, by what stands at its key. -/
def Readable (key : String) (value : Json) : Prop :=
  scalarKeys.Admits key value ∨
    (key = "items" ∧ ∃ items, itemsOfDraft .value value.draft = .ok items) ∨ key ∉ fieldKeys

/-- One step of the walk over the members succeeds exactly on a member that can be read, unless its
field has been read before. -/
theorem effect_ok_iff (fresh : key ∉ seen) :
    (∃ effect, effectOfMember .value seen (.ok key, value.draft) = .ok (key, effect)) ↔
      Readable key value := by
  constructor
  · rintro ⟨effect, taken⟩
    obtain ⟨-, ⟨itemsKey, items, decoded, -⟩ | field | ⟨plain, -⟩⟩ := effect_cases taken
    · exact .inr (.inl ⟨itemsKey, items, decoded⟩)
    · exact .inl ((scalar_readable_iff field).mp ⟨_, rfl⟩)
    · exact .inr (.inr plain)
  · intro readable
    simp only [effectOfMember, List.contains_eq_mem, fresh, decide_false, Bool.and_false,
      Bool.false_eq_true, if_false]
    by_cases itemsKey : key = "items"
    · subst itemsKey
      rcases readable with admitted | ⟨-, items, decoded⟩ | plain
      · exact absurd admitted.mem (by decide)
      · exact ⟨_, by rw [if_pos rfl, decoded]; rfl⟩
      · exact absurd (by decide) plain
    · rw [if_neg itemsKey]
      cases field : scalarField? key value.draft with
      | none => exact ⟨_, by simp only [Json.Draft.toJson_draft]; rfl⟩
      | some outcome =>
        rcases readable with admitted | ⟨same, -⟩ | plain
        · obtain ⟨effect, rfl⟩ := (scalar_readable_iff field).mpr admitted
          exact ⟨effect, rfl⟩
        · exact absurd same itemsKey
        · rw [scalarField?_eq_none plain] at field
          cases field

/-- The walk over members with distinct keys succeeds exactly when each of them can be read. -/
theorem effects_ok_iff {members : List (String × Json)} (distinct : Distinct members)
    (fresh : ∀ member ∈ members, member.1 ∉ seen) :
    (∃ effects, effectsOfMembers .value seen (Json.membersDrafts members) = .ok effects) ↔
      ∀ member ∈ members, Readable member.1 member.2 := by
  induction members generalizing seen with
  | nil => simp [Json.membersDrafts, effectsOfMembers]
  | cons head rest inductionHypothesis =>
    obtain ⟨key, value⟩ := head
    obtain ⟨first, restDistinct⟩ := Json.distinct_cons.mp distinct
    have laterFresh : ∀ member ∈ rest, member.1 ∉ key :: seen :=
      Json.unseen_cons first fun member inside => fresh member (List.mem_cons_of_mem _ inside)
    have here : (∃ effect, effectOfMember .value seen (.ok key, value.draft) = .ok (key, effect)) ↔
        Readable key value := effect_ok_iff (fresh (key, value) List.mem_cons_self)
    rw [List.forall_mem_cons, ← here, ← inductionHypothesis restDistinct laterFresh]
    simp only [Json.membersDrafts, Json.memberDraft, effectsOfMembers]
    constructor
    · rintro ⟨effects, walked⟩
      obtain ⟨⟨_, effect⟩, taken, walked⟩ := Json.ok_of_bind walked
      obtain ⟨later, others, -⟩ := Json.ok_of_bind walked
      obtain ⟨rfl, -⟩ := effect_cases taken
      exact ⟨⟨effect, taken⟩, later, others⟩
    · rintro ⟨⟨effect, taken⟩, later, others⟩
      exact ⟨effect :: later, by simp only [taken, others, bind, Except.bind, pure, Except.pure]⟩

/-- An object with distinct keys decodes as a widget exactly when each of its members can be read. -/
theorem ofJson_ok_iff {members : List (String × Json)} (distinct : Distinct members) :
    (∃ widget, ofJson (.object members) = .ok widget) ↔
      ∀ member ∈ members, Readable member.1 member.2 := by
  rw [ofJson_object, Json.exists_ok_map]
  exact effects_ok_iff distinct fun _ _ => List.not_mem_nil

/-- Exactly an array of which each element decodes as an item decodes as items. -/
theorem items_ok_iff :
    (∃ items, itemsOfDraft .value value.draft = .ok items) ↔
      ∃ elements, value = .array elements ∧
        ∀ element ∈ elements, ∃ item, Item.ofJson element = .ok item := by
  have oneByOne : ∀ elements : List Json,
      (∃ items, List.Forall₂ (fun element item => Item.ofJson element = .ok item) elements items) ↔
        ∀ element ∈ elements, ∃ item, Item.ofJson element = .ok item := by
    intro elements
    induction elements with
    | nil => simp
    | cons element rest inductionHypothesis =>
      simp only [List.forall₂_cons_left_iff, List.forall_mem_cons, ← inductionHypothesis]
      tauto
  simp only [itemsOfDraft_iff, ← oneByOne]
  exact ⟨fun ⟨items, elements, same, decoded⟩ => ⟨elements, same, items, decoded⟩,
    fun ⟨elements, same, items, decoded⟩ => ⟨items, elements, same, decoded⟩⟩

/-- Exactly a text and what decodes as a widget decode as an item. -/
theorem item_ok_iff :
    (∃ item, Item.ofJson value = .ok item) ↔
      (∃ text, value = .string text) ∨ ∃ widget, ofJson value = .ok widget := by
  constructor
  · rintro ⟨widget | text, decoded⟩
    · exact .inr ⟨widget, item_ofJson_widget.mp decoded⟩
    · exact .inl ⟨text, item_ofJson_text.mp decoded⟩
  · rintro (⟨text, rfl⟩ | ⟨widget, decoded⟩)
    · exact ⟨.text text, item_ofJson_text.mpr rfl⟩
    · exact ⟨.widget widget, item_ofJson_widget.mpr decoded⟩

/-- What may be held at the key of the items is an array of what may stand among them. -/
theorem memberShape_items :
    MemberShape "items" value ↔
      ∃ elements, value = .array elements ∧ ∀ element ∈ elements, ItemShape element := by
  constructor
  · intro shape
    cases shape with
    | scalar admitted => exact absurd admitted.mem (by decide)
    | items each => exact ⟨_, rfl, each⟩
    | other free => exact absurd (by decide) free
  · rintro ⟨elements, rfl, each⟩
    exact .items each

/-- At every other key there are only fields of a single value and free members. -/
theorem memberShape_single (single : key ≠ "items") :
    MemberShape key value ↔ scalarKeys.Admits key value ∨ key ∉ fieldKeys := by
  constructor
  · intro shape
    cases shape with
    | scalar admitted => exact .inl admitted
    | items => exact absurd rfl single
    | other free => exact .inr free
  · rintro (admitted | free)
    · exact .scalar admitted
    · exact .other free

/-- What may stand among items is a text or a widget. -/
theorem itemShape_iff : ItemShape value ↔ (∃ text, value = .string text) ∨ Shape value := by
  constructor
  · intro shape
    cases shape with
    | text text => exact .inl ⟨text, rfl⟩
    | widget shape => exact .inr shape
  · rintro (⟨text, rfl⟩ | shape)
    · exact .text text
    · exact .widget shape

mutual

/-- A sorted value decodes as a widget exactly when it has the shape of one. -/
theorem ofJson_ok_iff_shape : (value : Json) → value.IsSorted →
    ((∃ widget, ofJson value = .ok widget) ↔ Shape value)
  | .object members, sorted => by
    rw [ofJson_ok_iff sorted.1.distinct, readable_iff_shapes members sorted.2]
    exact ⟨.object, fun | .object each => each⟩
  | .null, _ | .bool _, _ | .number _, _ | .string _, _ | .array _, _ => by
    constructor
    · rintro ⟨widget, decoded⟩
      obtain ⟨members, same⟩ := object_of_ofJson decoded
      cases same
    · intro shape
      cases shape

/-- Members can be read exactly when they have the shapes of members. -/
theorem readable_iff_shapes : (members : List (String × Json)) → Json.MembersSorted members →
    ((∀ member ∈ members, Readable member.1 member.2) ↔
      ∀ member ∈ members, MemberShape member.1 member.2)
  | [], _ => by simp
  | member :: rest, sorted => by
    rw [List.forall_mem_cons, List.forall_mem_cons, readable_iff_shape member sorted.1,
      readable_iff_shapes rest sorted.2]

/-- A member can be read exactly when it has the shape of one. -/
theorem readable_iff_shape : (member : String × Json) → Json.MemberSorted member →
    (Readable member.1 member.2 ↔ MemberShape member.1 member.2)
  | (key, value), sorted => by
    by_cases itemsKey : key = "items"
    · subst itemsKey
      have unread : ¬ scalarKeys.Admits "items" value := fun admitted =>
        absurd admitted.mem (by decide)
      rw [Readable, items_ok_iff_shape value sorted]
      simp [unread, fieldKeys]
    · rw [memberShape_single itemsKey, Readable]
      simp [itemsKey]

/-- A value decodes as items exactly when it has the shape of items. -/
theorem items_ok_iff_shape : (value : Json) → value.IsSorted →
    ((∃ items, itemsOfDraft .value value.draft = .ok items) ↔ MemberShape "items" value)
  | .array elements, sorted => by
    rw [items_ok_iff, memberShape_items]
    simp only [Json.array.injEq, exists_eq_left', item_ok_iff_shapes elements sorted]
  | .null, _ | .bool _, _ | .number _, _ | .string _, _ | .object _, _ => by
    rw [items_ok_iff, memberShape_items]
    simp

/-- Elements decode as items exactly when they have the shapes of items. -/
theorem item_ok_iff_shapes : (elements : List Json) → Json.ElementsSorted elements →
    ((∀ element ∈ elements, ∃ item, Item.ofJson element = .ok item) ↔
      ∀ element ∈ elements, ItemShape element)
  | [], _ => by simp
  | element :: rest, sorted => by
    rw [List.forall_mem_cons, List.forall_mem_cons, item_ok_iff, itemShape_iff,
      ofJson_ok_iff_shape element sorted.1, item_ok_iff_shapes rest sorted.2]

end

mutual

/-- A widget is refused for the kind of a widget, and for nothing else. -/
theorem unknownWidget_of_validate : (widget : Widget) → {error : DialogError} →
    widget.validate = .error error → ∃ kind, error = .unknownWidget kind
  | ⟨_, kind, _, _, _, _, _, _, _, _, items, _⟩, error, refused => by
    rw [validate] at refused
    split at refused
    · cases refused
    · split at refused
      · exact ⟨kind, (Except.error.inj refused).symm⟩
      · exact unknownWidget_of_validateItems items refused

/-- Items are refused for the kind of a widget among them. -/
theorem unknownWidget_of_validateItems : (items : List (Item Widget)) → {error : DialogError} →
    validateItems items = .error error → ∃ kind, error = .unknownWidget kind
  | [], _, refused => by cases refused
  | item :: rest, error, refused => by
    rw [validateItems] at refused
    cases first : validateItem item with
    | error cause =>
      rw [first] at refused
      obtain rfl := Except.error.inj refused
      exact unknownWidget_of_validateItem item first
    | ok =>
      rw [first] at refused
      exact unknownWidget_of_validateItems rest refused

/-- An item is refused for the kind of a widget in it. -/
theorem unknownWidget_of_validateItem : (item : Item Widget) → {error : DialogError} →
    validateItem item = .error error → ∃ kind, error = .unknownWidget kind
  | .widget child, _, refused => unknownWidget_of_validate child refused
  | .text _, _, refused => by cases refused

end

end Widget

namespace Window

/-- The fields of a window that hold a single value. -/
def scalarKeys : ScalarKeys :=
  { texts := ["type", "title", "font"]
    numbers := ["x", "y", "width", "height"]
    truths := ["fixed", "model"] }

/-- What may be held at a key of a window. There is no condition on a key that is no field. -/
inductive MemberShape : String → Json → Prop where
  | scalar {key : String} {value : Json} (admitted : scalarKeys.Admits key value) :
    MemberShape key value
  | body {value : Json} (shape : Widget.Shape value) : MemberShape "body" value
  | other {key : String} {value : Json} (free : key ∉ scalarKeys.all ++ ["body"]) :
    MemberShape key value

/-- The documents that are windows: objects in which every member is admitted. -/
inductive Shape : Json → Prop where
  | object {members : List (String × Json)}
    (each : ∀ member ∈ members, MemberShape member.1 member.2) : Shape (.object members)

variable {key : String} {value : Json}

/-- At the key of a field of a single value exactly what is admitted may be held. -/
theorem memberShape_scalar (field : key ∈ scalarKeys.all) :
    MemberShape key value ↔ scalarKeys.Admits key value := by
  constructor
  · intro shape
    cases shape with
    | scalar admitted => exact admitted
    | body => exact absurd field (by decide)
    | other free => exact absurd (List.mem_append_left _ field) free
  · exact .scalar

/-- As the body exactly a widget may be held. -/
theorem memberShape_body : MemberShape "body" value ↔ Widget.Shape value := by
  constructor
  · intro shape
    cases shape with
    | scalar admitted => exact absurd admitted.mem (by decide)
    | body shape => exact shape
    | other free => exact absurd (by decide) free
  · exact .body

/-- The member of a field can be read exactly when it has the shape of one. -/
theorem readable_iff_shape {field : Json.Field Window} (known : record.field? key = some field)
    (sorted : value.IsSorted) :
    (∃ set, field.decode .value value.draft = .ok set) ↔ MemberShape key value := by
  obtain ⟨inside, rfl⟩ := Json.Record.field?_eq_some known
  simp only [record, List.mem_cons, List.not_mem_nil, or_false] at inside
  rcases inside with rfl | rfl | rfl | rfl | rfl | rfl | rfl | rfl | rfl | rfl
  rotate_right
  · rw [memberShape_body, ← Widget.ofJson_ok_iff_shape value sorted]
    exact Json.exists_ok_map (fun body (window : Window) => { window with body })
      (Widget.ofDraft .value value.draft)
  all_goals
    rw [memberShape_scalar (by decide)]
    simp only [Json.Field.plain, Json.exists_ok_map]
    first
      | exact (ScalarKeys.admits_text (by decide) (by decide)).symm
      | exact (ScalarKeys.admits_number (by decide) (by decide)).symm
      | exact (ScalarKeys.admits_truth (by decide) (by decide)).symm

/-- A sorted value that is an object decodes as a window exactly when it has the shape of one. -/
theorem ofJson_ok_iff_shape {members : List (String × Json)}
    (sorted : (Json.object members).IsSorted) :
    (∃ window, ofJson (.object members) = .ok window) ↔ Shape (.object members) := by
  have distinct : Distinct members := sorted.1.distinct
  have ordered : ∀ member ∈ members, member.2.IsSorted := Json.membersSorted_iff.mp sorted.2
  constructor
  · rintro ⟨window, decoded⟩
    refine .object fun member inside => ?_
    cases known : record.field? member.1 with
    | none => exact .other (Json.Record.field?_eq_none_iff.mp known)
    | some field =>
      exact (readable_iff_shape known (ordered member inside)).mp
        (Json.Record.readable_of_ofMembers decoded member inside field known)
  · rintro ⟨each⟩
    exact Json.Record.ofMembers_ok record.initial distinct (fun _ _ => List.not_mem_nil)
      (by simp [record])
      (fun member inside field known =>
        (readable_iff_shape known (ordered member inside)).mpr (each member inside))
      (by simp [record, Json.Field.plain])

/-- A window is refused for its type, its font or the kind of a widget, and never as undecodable. -/
theorem validate_ne_undecodable (window : Window) (cause : Json.Error) :
    window.validate ≠ .error (.undecodable cause) := by
  intro refused
  rw [validate] at refused
  split at refused
  · cases refused
  · split at refused
    · rename_i error found
      obtain rfl := Except.error.inj refused
      rw [font?] at found
      split at found
      · cases found
      · split at found <;> cases found
    · obtain ⟨kind, same⟩ := Widget.unknownWidget_of_validate window.body refused
      cases same

/-- Only an object has the shape of a window. -/
theorem Shape.isObject (shape : Shape value) : value.isObject = true := by
  cases shape
  rfl

/-- An object is undecodable as a request exactly when it does not decode as a window. -/
theorem ofRequest_undecodable_iff {members : List (String × Json)} {cause : Json.Error} :
    ofRequest (.object members) = .error (.undecodable cause) ↔
      ofJson (.object members) = .error cause := by
  cases decoded : ofJson (.object members) with
  | error found => simp [ofRequest, decoded]
  | ok window =>
    simp only [ofRequest, decoded, reduceCtorEq, iff_false]
    intro refused
    cases judged : window.validate with
    | ok => simp [judged, Except.map] at refused
    | error error =>
      rw [judged] at refused
      obtain rfl := Except.error.inj refused
      exact window.validate_ne_undecodable cause judged

/-- Only an object is undecodable: of a null there is no window, and anything else is no object. -/
theorem isObject_of_undecodable {cause : Json.Error}
    (refused : ofRequest value = .error (.undecodable cause)) : value.isObject = true := by
  cases value with
  | object members => rfl
  | _ => simp [ofRequest] at refused

end Window

/-- The decoder accepts exactly the grammar of dialog documents, for widgets and for windows. As a
request, a document is undecodable exactly when it is an object that has not the shape of a window.

Proof: by induction over the document, in which items nest. The walk over the members of an object
succeeds exactly when it does on each of them, and on the members of a window likewise. What is
decoded may still be refused as invalid, but for another reason. -/
theorem decodes_iff_shape (document : Json.Document) :
    ((∃ widget, Widget.ofJson document.json = .ok widget) ↔ Widget.Shape document.json) ∧
      ((document.json.isObject = true ∧ ∃ window, Window.ofJson document.json = .ok window) ↔
        Window.Shape document.json) ∧
      ((∃ cause, Window.ofRequest document.json = .error (.undecodable cause)) ↔
        document.json.isObject = true ∧ ¬ Window.Shape document.json) := by
  obtain ⟨value, sorted⟩ := document
  refine ⟨Widget.ofJson_ok_iff_shape value sorted, ?_⟩
  by_cases object : value.isObject = true
  · obtain ⟨members, rfl⟩ : ∃ members, value = .object members := by
      cases value with
      | object members => exact ⟨members, rfl⟩
      | _ => cases object
    have shaped := Window.ofJson_ok_iff_shape sorted
    simp only [object, true_and, shaped, Window.ofRequest_undecodable_iff]
    rw [← shaped]
    cases Window.ofJson (.object members) <;> simp
  · constructor
    · exact ⟨fun framed => absurd framed.1 object, fun shape => absurd shape.isObject object⟩
    · exact ⟨fun ⟨_, refused⟩ => absurd (Window.isObject_of_undecodable refused) object,
        fun framed => absurd framed.1 object⟩

end Dialogs
