import Dialogs.Proofs.DialogRoundTrip

/-!
# The normal form of a dialog document

Decoding a document and encoding the result again leaves out the members that say no more than
their absence does, and changes nothing else of a widget. The normal form is defined on the
document alone, without the decoder: it drops the reserved key `properties` and the fields with
their default value, and it does the same in every object among the items. A window keeps only the
members of its own fields; its type is always there.

The order of the members needs no care, since a document has them in increasing order of their
keys, before and after.
-/

namespace Dialogs

open Json (member?)

/-- The fields of a document, by the value that each of them has without a member. -/
structure Defaults where
  /-- The fields that are empty texts. -/
  texts : List String
  /-- The fields that are zero. -/
  numbers : List String
  /-- The fields that are true. -/
  truths : List String
  /-- The fields that are false. -/
  falsehoods : List String
  /-- The fields that are empty lists. -/
  lists : List String

/-- Whether a member gives a field the value that it has without the member. -/
def Defaults.covers (defaults : Defaults) : String → Json → Bool
  | key, .string text => text.isEmpty && defaults.texts.contains key
  | key, .number (.integer value _ _) => value == 0 && defaults.numbers.contains key
  | key, .bool value => (if value then defaults.truths else defaults.falsehoods).contains key
  | key, .array elements => elements.isEmpty && defaults.lists.contains key
  | _, _ => false

namespace Defaults

variable {defaults : Defaults} {held : Option Json} {key : String}

/-- A decoded text is written as its member, unless it is empty. -/
theorem textHeld_eq {text : String} (field : key ∈ defaults.texts)
    (read : Json.Holds Json.Draft.toText "" held text) :
    (Widget.textHeld text).map Json.sorted =
      held.filter fun value => !defaults.covers key value := by
  cases held with
  | none =>
    obtain rfl := read
    rfl
  | some found =>
    obtain rfl := Json.toText_draft.mp read
    by_cases empty : text.isEmpty <;>
      simp [Widget.textHeld, Option.filter_some, covers, field, empty, Json.sorted]

/-- A decoded number is written as its member, unless it is zero. -/
theorem numberHeld_eq {number : Int64} (field : key ∈ defaults.numbers)
    (read : Json.Holds Json.Draft.toInt64 0 held number) :
    (Widget.numberHeld number).map Json.sorted =
      held.filter fun value => !defaults.covers key value := by
  cases held with
  | none =>
    obtain rfl := read
    rfl
  | some found =>
    obtain rfl := Json.toInt64_draft.mp read
    have zero : number.toInt = 0 ↔ number = 0 := by
      rw [← Int64.toInt_inj]
      rfl
    by_cases none : number = 0 <;>
      simp [Widget.numberHeld, Json.ofInt64, Json.Number.ofInt64, Option.filter_some, covers,
        field, zero, none, Json.sorted]

/-- A decoded truth value is written as its member, unless it is the default. -/
theorem boolHeld_eq {default truth : Bool}
    (field : ∀ value : Bool,
      (key ∈ if value then defaults.truths else defaults.falsehoods) ↔ value = default)
    (read : Json.Holds Json.Draft.toBool default held truth) :
    (Widget.boolHeld default truth).map Json.sorted =
      held.filter fun value => !defaults.covers key value := by
  cases held with
  | none =>
    obtain rfl := read
    simp [Widget.boolHeld]
  | some found =>
    obtain rfl := Json.toBool_draft.mp read
    by_cases same : truth = default <;>
      simp [Widget.boolHeld, Option.filter_some, covers, field, same, Json.sorted]

end Defaults

namespace Widget

/-- The defaults of the fields of a widget. -/
def defaults : Defaults :=
  { texts := ["id", "type", "title", "group", "text"]
    numbers := ["value", "width", "height"]
    truths := ["enabled"]
    falsehoods := ["fill"]
    lists := ["items"] }

mutual

/-- The normal form of a widget document. What is no object is left as it is. -/
def normal : Json → Json
  | .object members => .object (normalMembers members)
  | value => value

/-- The members that stay, with their keys. -/
def normalMembers : List (String × Json) → List (String × Json)
  | [] => []
  | member :: rest =>
    match normalMember member with
    | none => normalMembers rest
    | some value => (member.1, value) :: normalMembers rest

/-- The value of a member in the normal form, if the member stays. -/
def normalMember : String × Json → Option Json
  | (key, value) =>
    if key = "properties" ∨ defaults.covers key value then none
    else if key = "items" then some (normalItems value)
    else some value

/-- The normal form of the items. -/
def normalItems : Json → Json
  | .array elements => .array (normalElements elements)
  | value => value

/-- Elements in their normal form, in the same order. -/
def normalElements : List Json → List Json
  | [] => []
  | element :: rest => normal element :: normalElements rest

end

/-- Members stay or go by themselves. -/
theorem normalMembers_eq (members : List (String × Json)) :
    normalMembers members = members.filterMap fun member =>
      (normalMember (member.1, member.2)).map (member.1, ·) := by
  induction members with
  | nil => rfl
  | cons head rest inductionHypothesis =>
    obtain ⟨key, value⟩ := head
    simp only [normalMembers, List.filterMap_cons, inductionHypothesis]
    cases normalMember (key, value) <;> rfl

/-- What the normal form holds at a key comes from what is held there. -/
theorem member?_normalMembers (key : String) {members : List (String × Json)}
    (distinct : Json.Distinct members) :
    member? key (normalMembers members) =
      (member? key members).bind fun value => normalMember (key, value) := by
  rw [normalMembers_eq]
  exact Json.member?_filterMap (fun key value => normalMember (key, value)) key distinct

/-- The members that stay are in the same order. -/
theorem increasing_normalMembers {members : List (String × Json)}
    (ordered : Json.Increasing members) : Json.Increasing (normalMembers members) := by
  rw [normalMembers_eq]
  refine List.Pairwise.filterMap _ ?_ ordered
  intro first second less left leftStays right rightStays
  obtain ⟨_, -, rfl⟩ := Option.map_eq_some_iff.mp leftStays
  obtain ⟨_, -, rfl⟩ := Option.map_eq_some_iff.mp rightStays
  exact less

/-- A field of a single value has no normal form of its own: its member stays or goes. -/
theorem bind_normalMember {key : String} (held : Option Json)
    (single : key ≠ "properties" ∧ key ≠ "items") :
    (held.bind fun value => normalMember (key, value)) =
      held.filter fun value => !defaults.covers key value := by
  cases held with
  | none => rfl
  | some value =>
    by_cases covered : defaults.covers key value <;>
      simp [Option.filter_some, normalMember, single, covered]

variable {held : Option Json} {key : String}

/-- Decoded items are written as their member, with every item in normal form, unless there are
none. -/
theorem arrayHeld_normal {items : List (Item Widget)}
    (read : Json.Holds (itemsOfDraft .value) [] held items)
    (itemsNormal : ∀ elements, held = some (.array elements) →
      List.Forall₂ (fun element item => Item.ofJson element = .ok item) elements items →
        Json.sortedElements (itemsToJson items) = normalElements elements) :
    (arrayHeld (itemsToJson items)).map Json.sorted =
      held.bind fun value => normalMember ("items", value) := by
  cases held with
  | none =>
    obtain rfl := read
    rfl
  | some found =>
    obtain ⟨elements, rfl, decoded⟩ := itemsOfDraft_iff.mp read
    have normalized := itemsNormal elements rfl decoded
    cases decoded with
    | nil => rfl
    | cons first rest =>
      simp only [arrayHeld, itemsToJson, List.isEmpty_cons, Bool.false_eq_true, if_false,
        Option.map_some, Json.sorted, Option.bind_some, normalMember, Defaults.covers,
        Bool.false_and, String.reduceEq, or_self, if_true, normalItems]
      rw [← normalized, itemsToJson]

/-- A decoded property is written as its member. -/
theorem property_normal {widget : Widget} (free : key ∉ reservedKeys)
    (sorted : ∀ value, held = some value → value.IsSorted)
    (found : widget.property? key = held.map Json.document) :
    ((widget.property? key).map (·.json)).map Json.sorted =
      held.bind fun value => normalMember (key, value) := by
  simp only [reservedKeys, List.mem_cons, List.not_mem_nil, or_false, not_or] at free
  rw [found]
  cases held with
  | none => rfl
  | some value =>
    have ordered : value.sorted = value := Json.sorted_of_isSorted value (sorted value rfl)
    have other : defaults.covers key value = false := by
      unfold Defaults.covers
      split
      case h_3 truth => cases truth <;> simp [defaults, free]
      all_goals simp [defaults, free]
    simp [Json.document, ordered, normalMember, other, free]

/-- A decoded widget holds at each key, sorted, what the normal form of its members holds there,
once its items are written in their normal form. -/
theorem held_normal {widget : Widget} {members : List (String × Json)}
    (described : Describes (fun key => member? key members) widget)
    (sorted : Json.MembersSorted members)
    (itemsNormal : ∀ elements, Json.ElementsSorted elements →
      List.Forall₂ (fun element item => Item.ofJson element = .ok item) elements widget.items →
        Json.sortedElements (itemsToJson widget.items) = normalElements elements) (key : String) :
    (widget.held key).map Json.sorted =
      (member? key members).bind fun value => normalMember (key, value) := by
  have inside : ∀ {key value}, member? key members = some value → value.IsSorted :=
    fun found => Json.membersSorted_iff.mp sorted _ (Json.mem_of_member? found)
  unfold held
  split
  case h_1 =>
    exact (Defaults.textHeld_eq (by decide) described.id).trans
      (bind_normalMember _ (by decide)).symm
  case h_2 =>
    exact (Defaults.textHeld_eq (by decide) described.kind).trans
      (bind_normalMember _ (by decide)).symm
  case h_3 =>
    exact (Defaults.textHeld_eq (by decide) described.title).trans
      (bind_normalMember _ (by decide)).symm
  case h_4 =>
    exact (Defaults.textHeld_eq (by decide) described.group).trans
      (bind_normalMember _ (by decide)).symm
  case h_5 =>
    exact (Defaults.textHeld_eq (by decide) described.text).trans
      (bind_normalMember _ (by decide)).symm
  case h_6 =>
    exact (Defaults.numberHeld_eq (by decide) described.value).trans
      (bind_normalMember _ (by decide)).symm
  case h_7 =>
    exact (Defaults.numberHeld_eq (by decide) described.width).trans
      (bind_normalMember _ (by decide)).symm
  case h_8 =>
    exact (Defaults.numberHeld_eq (by decide) described.height).trans
      (bind_normalMember _ (by decide)).symm
  case h_9 =>
    exact (Defaults.boolHeld_eq (by decide) described.enabled).trans
      (bind_normalMember _ (by decide)).symm
  case h_10 =>
    exact (Defaults.boolHeld_eq (by decide) described.fill).trans
      (bind_normalMember _ (by decide)).symm
  case h_11 =>
    exact arrayHeld_normal described.items fun elements found => itemsNormal elements (inside found)
  case h_12 =>
    by_cases reserved : key ∈ reservedKeys
    · have last : key = "properties" := by
        simp only [reservedKeys, List.mem_cons, List.not_mem_nil, or_false] at reserved
        simp_all
      subst last
      rw [property?_of_reserved widget (by decide)]
      cases member? "properties" members <;> simp [normalMember]
    · exact property_normal reserved (fun value found => inside found)
        (described.properties key reserved)

mutual

/-- A widget decoded from a sorted value is written as the normal form of the value. -/
theorem sorted_toJson_of_decoded : (widget : Widget) → (value : Json) → value.IsSorted →
    ofJson value = .ok widget → widget.toJson.sorted = normal value
  | ⟨id, kind, title, group, text, number, width, height, enabled, fill, items, properties⟩,
      value, sorted, decoded => by
    obtain ⟨members, rfl⟩ := object_of_ofJson decoded
    obtain ⟨ordered, membersSorted⟩ := sorted
    have described := (ofJson_object_iff ordered.distinct).mp decoded
    rw [sorted_toJson, normal]
    refine congrArg Json.object (Json.eq_of_member?_eq (Json.increasing_sortMembers _)
      (increasing_normalMembers ordered) fun key => ?_)
    rw [member?_documentMembers, member?_normalMembers key ordered.distinct]
    exact held_normal described membersSorted (sorted_itemsToJson_of_decoded items) key

/-- Decoded items are written as their normal forms. -/
theorem sorted_itemsToJson_of_decoded : (items : List (Item Widget)) → (elements : List Json) →
    Json.ElementsSorted elements →
    List.Forall₂ (fun element item => Item.ofJson element = .ok item) elements items →
    Json.sortedElements (itemsToJson items) = normalElements elements
  | [], [], _, _ => rfl
  | item :: rest, element :: others, sorted, .cons first later => by
    simp only [itemsToJson, Json.sortedElements, normalElements,
      sorted_itemToJson_of_decoded item element sorted.1 first,
      sorted_itemsToJson_of_decoded rest others sorted.2 later]

/-- A decoded item is written as its normal form. A bare text is its own. -/
theorem sorted_itemToJson_of_decoded : (item : Item Widget) → (element : Json) →
    element.IsSorted → Item.ofJson element = .ok item → (itemToJson item).sorted = normal element
  | .widget child, element, sorted, decoded =>
    sorted_toJson_of_decoded child element sorted (item_ofJson_widget.mp decoded)
  | .text text, element, _, decoded => by
    rw [item_ofJson_text.mp decoded]
    rfl

end

end Widget

namespace Widget

/-- A widget is written as no members exactly when it is blank: what it is written as decodes as it
again, and no members decode as the blank widget. -/
theorem sorted_toJson_memberless {widget : Widget} :
    widget.toJson.sorted = .object [] ↔ widget.isBlank = true := by
  constructor
  · intro memberless
    have decoded := ofJson_sorted_toJson widget
    rw [memberless] at decoded
    have same : blank = widget := Except.ok.inj decoded
    rw [← same]
    rfl
  · intro nothing
    rw [eq_blank_of_isBlank nothing]
    rfl

end Widget

namespace Window

/-- The defaults of the fields of a window. The type has none: it is always written. -/
def defaults : Defaults :=
  { texts := ["title", "font"]
    numbers := ["x", "y", "width", "height"]
    truths := []
    falsehoods := ["fixed", "model"]
    lists := [] }

/-- The keys of a window document, in increasing order. -/
def normalKeys : List String :=
  ["body", "fixed", "font", "height", "model", "title", "type", "width", "x", "y"]

/-- Whether the normal form of a body has a member. -/
def bodyStays : Json → Bool
  | .object members => !members.isEmpty
  | _ => true

/-- The value of a field in the normal form of a window document, if the field stays. -/
def normalMember? (members : List (String × Json)) : String → Option Json
  | "type" => some ((member? "type" members).getD (.string ""))
  | "body" => ((member? "body" members).map Widget.normal).filter bodyStays
  | key => (member? key members).filter fun value => !defaults.covers key value

/-- The normal form of a window document: the fields that stay, and no other member. -/
def normal (members : List (String × Json)) : Json :=
  .object <| normalKeys.filterMap fun key => (normalMember? members key).map (key, ·)

/-- A decoded type is written as its member, and an absent one as the empty text. -/
theorem kind_normal {kind : String} {held : Option Json}
    (read : Json.Holds Json.Draft.toText "" held kind) :
    (some (Json.string kind)).map Json.sorted = some (held.getD (.string "")) := by
  cases held with
  | none =>
    obtain rfl := read
    rfl
  | some found =>
    obtain rfl := Json.toText_draft.mp read
    rfl

/-- A decoded body is written in its normal form, unless that has no members. -/
theorem body_normal {body : Widget} {held : Option Json}
    (sorted : ∀ value, held = some value → value.IsSorted)
    (read : Json.Holds (Widget.ofDraft .value) .blank held body) :
    (if body.isBlank then none else some body.toJson).map Json.sorted =
      (held.map Widget.normal).filter bodyStays := by
  cases held with
  | none =>
    obtain rfl := read
    rfl
  | some value =>
    have normalized : body.toJson.sorted = Widget.normal value :=
      Widget.sorted_toJson_of_decoded body value (sorted value rfl) read
    have stays : bodyStays body.toJson.sorted = !body.isBlank := by
      have memberless : body.toJson.sorted = .object [] ↔ body.isBlank = true :=
        Widget.sorted_toJson_memberless
      rw [Widget.sorted_toJson] at memberless ⊢
      rw [bodyStays, Bool.not_inj_iff, Bool.eq_iff_iff, List.isEmpty_iff, ← memberless]
      simp
    rw [Option.map_some, Option.filter_some, ← normalized, stays]
    cases body.isBlank <;> rfl

/-- A decoded window holds at each key, sorted, what the normal form of its members holds there. -/
theorem held_normal {window : Window} {members : List (String × Json)}
    (described : Describes (fun key => member? key members) window)
    (sorted : Json.MembersSorted members) (key : String) :
    (window.held key).map Json.sorted =
      if key ∈ normalKeys then normalMember? members key else none := by
  have inside : ∀ value, member? "body" members = some value → value.IsSorted :=
    fun value found => Json.membersSorted_iff.mp sorted _ (Json.mem_of_member? found)
  unfold held
  split
  case h_1 => exact kind_normal described.kind
  case h_2 => exact Defaults.textHeld_eq (by decide) described.title
  case h_3 => exact Defaults.textHeld_eq (by decide) described.font
  case h_4 => exact Defaults.numberHeld_eq (by decide) described.x
  case h_5 => exact Defaults.numberHeld_eq (by decide) described.y
  case h_6 => exact Defaults.numberHeld_eq (by decide) described.width
  case h_7 => exact Defaults.numberHeld_eq (by decide) described.height
  case h_8 => exact Defaults.boolHeld_eq (by decide) described.fixed
  case h_9 => exact Defaults.boolHeld_eq (by decide) described.model
  case h_10 => exact body_normal inside described.body
  case h_11 =>
    have foreign : key ∉ normalKeys := by
      simp_all [normalKeys]
    rw [if_neg foreign]
    rfl

/-- A window decoded from sorted members is written as their normal form. -/
theorem sorted_toJson_of_decoded {window : Window} {members : List (String × Json)}
    (sorted : (Json.object members).IsSorted) (decoded : ofJson (.object members) = .ok window) :
    window.toJson.sorted = normal members := by
  obtain ⟨ordered, membersSorted⟩ := sorted
  have described := (ofJson_object_iff ordered.distinct).mp decoded
  rw [sorted_toJson, normal]
  refine congrArg Json.object (Json.eq_of_member?_eq (Json.increasing_sortMembers _)
    (Json.increasing_filterMap_keys _ (by decide)) fun key => ?_)
  rw [member?_documentMembers, Json.member?_filterMap_keys _ _ (by decide)]
  exact held_normal described membersSorted key

end Window

/-- Encoding what has been decoded gives the normal form of the document, for widgets and for
windows. A document that is in normal form is therefore left as it is.

Proof: the members of both are in increasing order of their keys, so it is enough to compare what
they hold at each key. There the decoded field is what the document says, and it is written unless
it is the default. For the items, and the body of a window, this holds by induction. -/
theorem encode_decoded :
    (∀ (document : Json.Document) (widget : Widget),
      Widget.ofJson document.json = .ok widget →
        widget.toDocument.json = Widget.normal document.json) ∧
      ∀ (document : Json.Document) (members : List (String × Json)) (window : Window),
        document.json = .object members → Window.ofJson document.json = .ok window →
          window.toDocument.json = Window.normal members := by
  constructor
  · intro document widget decoded
    exact Widget.sorted_toJson_of_decoded widget document.json document.isSorted decoded
  · intro document members window object decoded
    have sorted := document.isSorted
    rw [object] at sorted decoded
    exact Window.sorted_toJson_of_decoded sorted decoded

/-- A box that says more than it has to: its label has an empty identifier, and both have a member
that is no field. -/
def wordyBox : Json :=
  .object
    [("color", .string "red"), ("enabled", .bool true),
     ("items", .array
       [.string "first",
        .object [("id", .string ""), ("text", .string "second"), ("wrap", .bool false)]]),
     ("properties", .null), ("type", .string "vbox"), ("width", .ofInt64 0)]

/-- The box without what goes without saying. -/
def plainBox : Json :=
  .object
    [("color", .string "red"),
     ("items", .array
       [.string "first", .object [("text", .string "second"), ("wrap", .bool false)]]),
     ("type", .string "vbox")]

/-- A window around the wordy box, without a type. -/
def wordyWindow : Json :=
  .object
    [("body", wordyBox), ("color", .null), ("fixed", .bool false), ("height", .ofInt64 40)]

/-- A wordy box is written as the plain one, by itself and as the body of a window. The window keeps
no member that is no field, and says its type. -/
theorem encode_decoded_wordyBox :
    (∃ widget, Widget.ofJson wordyBox.document.json = .ok widget ∧
      widget.toDocument.json = plainBox) ∧
      ∃ window, Window.ofJson wordyWindow.document.json = .ok window ∧
        window.toDocument.json =
          .object [("body", plainBox), ("height", .ofInt64 40), ("type", .string "")] := by
  have readable : ∃ widget, Widget.ofJson wordyBox.document.json = .ok widget := ⟨_, rfl⟩
  have framed : ∃ window, Window.ofJson wordyWindow.document.json = .ok window := ⟨_, rfl⟩
  obtain ⟨widget, decoded⟩ := readable
  obtain ⟨window, opened⟩ := framed
  constructor
  · exact ⟨widget, decoded, encode_decoded.1 wordyBox.document widget decoded⟩
  · exact ⟨window, opened, encode_decoded.2 wordyWindow.document _ window rfl opened⟩

end Dialogs
