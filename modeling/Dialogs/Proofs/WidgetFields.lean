import Dialogs.Proofs.RecordFields
import Dialogs.Widget.Codec

/-!
# What an object says of a widget

Decoding walks the members of an object and changes a widget with each. What comes of it is said
here without the walk: `Describes held widget` relates what is held at each key to each field of
the widget, and an object with distinct keys decodes as a widget exactly when it describes it.

One step of the walk turns a description into the description with one more member, and the walk
is an induction over these steps. Faults of a text do not arise, because only values are decoded.
-/

namespace Dialogs

namespace Widget

/-- What is held at each key is what the widget has in each field, and the free keys are those of
its properties. A member at the reserved key `properties` says nothing. -/
structure Describes (held : String → Option Json) (widget : Widget) : Prop where
  id : Json.Holds Json.Draft.toText "" (held "id") widget.id
  kind : Json.Holds Json.Draft.toText "" (held "type") widget.kind
  title : Json.Holds Json.Draft.toText "" (held "title") widget.title
  group : Json.Holds Json.Draft.toText "" (held "group") widget.group
  text : Json.Holds Json.Draft.toText "" (held "text") widget.text
  value : Json.Holds Json.Draft.toInt64 0 (held "value") widget.value
  width : Json.Holds Json.Draft.toInt64 0 (held "width") widget.width
  height : Json.Holds Json.Draft.toInt64 0 (held "height") widget.height
  enabled : Json.Holds Json.Draft.toBool true (held "enabled") widget.enabled
  fill : Json.Holds Json.Draft.toBool false (held "fill") widget.fill
  items : Json.Holds (itemsOfDraft .value) [] (held "items") widget.items
  properties : ∀ key ∉ reservedKeys, widget.property? key = (held key).map Json.document

/-- No members describe the blank widget. -/
theorem describes_blank : Describes (fun _ => none) blank := by
  constructor <;> simp [blank, property?, PropertyBag.get?, PropertyBag.empty]

/-- Nothing is held at a reserved key of a bag. -/
theorem property?_of_reserved (widget : Widget) {key : String} (reserved : key ∈ reservedKeys) :
    widget.property? key = none := by
  refine Json.member?_eq_none_iff.mpr ?_
  intro inside
  obtain ⟨entry, member, same⟩ := List.mem_map.mp inside
  exact widget.properties.free entry member (same ▸ reserved)

/-- A description fits one widget only. The bags agree at each key, and so in their entries. -/
theorem Describes.unique {held : String → Option Json} {first second : Widget}
    (left : Describes held first) (right : Describes held second) : first = second := by
  have entries : first.properties = second.properties := by
    refine PropertyBag.ext (Json.eq_of_member?_eq first.properties.increasing
      second.properties.increasing fun key => ?_)
    change first.property? key = second.property? key
    by_cases reserved : key ∈ reservedKeys
    · rw [property?_of_reserved first reserved, property?_of_reserved second reserved]
    · rw [left.properties key reserved, right.properties key reserved]
  cases first
  cases second
  simp only [mk.injEq]
  exact ⟨left.id.unique right.id, left.kind.unique right.kind, left.title.unique right.title,
    left.group.unique right.group, left.text.unique right.text, left.value.unique right.value,
    left.width.unique right.width, left.height.unique right.height,
    left.enabled.unique right.enabled, left.fill.unique right.fill, left.items.unique right.items,
    entries⟩

/-! ### One member -/

variable {held : String → Option Json} {widget : Widget} {key : String} {value : Json}
  {seen : List String}

/-- A key that is read as no single value and is not that of the items is no key of a field. -/
theorem not_mem_fieldKeys (plain : scalarField? key value.draft = none) (other : key ≠ "items") :
    key ∉ fieldKeys := by
  unfold scalarField? at plain
  split at plain
  case h_11 =>
    simp only [fieldKeys, List.mem_cons, List.not_mem_nil, or_false, not_or]
    simp_all
  all_goals simp at plain

/-- What one member does to a widget: it sets the items, a field of a single value, or a property.
A field that has been seen before is refused. -/
theorem effect_cases {read : String × (Widget → Widget)}
    (taken : effectOfMember .value seen (.ok key, value.draft) = .ok read) :
    read.1 = key ∧
      ((key = "items" ∧ ∃ items, itemsOfDraft .value value.draft = .ok items ∧
          read.2 = fun widget => { widget with items }) ∨
        scalarField? key value.draft = some (.ok read.2) ∨
        (key ∉ fieldKeys ∧ read.2 = fun widget => widget.withProperty key value.document)) := by
  simp only [effectOfMember] at taken
  split at taken
  · simp at taken
  · split at taken
    · rename_i itemsKey
      obtain ⟨items, decoded, same⟩ := Json.ok_of_bind taken
      obtain rfl := Except.ok.inj same
      exact ⟨rfl, .inl ⟨itemsKey, items, decoded, rfl⟩⟩
    · rename_i otherKey
      split at taken
      · rename_i outcome field
        obtain ⟨effect, succeeded, same⟩ := Json.ok_of_bind taken
        obtain rfl := Except.ok.inj same
        exact ⟨rfl, .inr (.inl (succeeded ▸ field))⟩
      · rename_i plain
        obtain ⟨document, decoded, same⟩ := Json.ok_of_bind taken
        obtain rfl := Except.ok.inj same
        rw [Json.Draft.toJson_draft] at decoded
        obtain rfl := Except.ok.inj decoded
        exact ⟨rfl, .inr (.inr ⟨not_mem_fieldKeys plain otherKey, rfl⟩)⟩

/-- The member of a field leaves the properties as they are described. -/
theorem Describes.properties_beside {changed : Widget} (described : Describes held widget)
    (reserved : key ∈ reservedKeys) (same : changed.properties = widget.properties) :
    ∀ other ∉ reservedKeys,
      changed.property? other =
        (Function.update held key (some value) other).map Json.document := by
  intro other free
  have apart : other ≠ key := fun equal => free (equal ▸ reserved)
  rw [Function.update_of_ne apart, ← described.properties other free, property?, property?, same]

/-- Reading a field of a single value adds its member to the description. -/
theorem Describes.scalar {effect : Widget → Widget} (described : Describes held widget)
    (field : scalarField? key value.draft = some (.ok effect)) :
    Describes (Function.update held key (some value)) (effect widget) := by
  unfold scalarField? at field
  split at field
  case h_11 => simp at field
  all_goals
    obtain ⟨single, read, rfl⟩ := Json.ok_of_map (Option.some.inj field)
    constructor
    case properties => exact described.properties_beside (by decide) rfl
    all_goals
      simp [read, described.id, described.kind, described.title, described.group, described.text,
        described.value, described.width, described.height, described.enabled, described.fill,
        described.items]

/-- Reading the items adds their member to the description. -/
theorem Describes.itemsMember {items : List (Item Widget)} (described : Describes held widget)
    (decoded : itemsOfDraft .value value.draft = .ok items) :
    Describes (Function.update held "items" (some value)) { widget with items } := by
  constructor
  case properties => exact described.properties_beside (by decide) rfl
  all_goals
    simp [decoded, described.id, described.kind, described.title, described.group, described.text,
      described.value, described.width, described.height, described.enabled, described.fill]

/-- Setting a property adds its member to the description. Under the reserved key `properties`
nothing is set, and a description says nothing of that key. -/
theorem Describes.property (described : Describes held widget) (plain : key ∉ fieldKeys) :
    Describes (Function.update held key (some value))
      (widget.withProperty key value.document) := by
  have apart : ∀ field ∈ fieldKeys, field ≠ key := fun field inside same => plain (same ▸ inside)
  simp only [fieldKeys, List.mem_cons, List.not_mem_nil, or_false, forall_eq_or_imp, forall_eq]
    at apart
  constructor
  case properties =>
    intro other free
    by_cases same : other = key
    · subst same
      have found := PropertyBag.get?_set widget.properties free value.document other
      simpa [withProperty, property?] using found
    · rw [Function.update_of_ne same, ← described.properties other free]
      by_cases reserved : key ∈ reservedKeys
      · have refused : widget.properties.set? key value.document = none :=
          (PropertyBag.set?_eq_none_iff _ _ _).mpr reserved
        simp [withProperty, property?, PropertyBag.set, refused]
      · have found := PropertyBag.get?_set widget.properties reserved value.document other
        rw [if_neg fun equal => same equal.symm] at found
        simpa [withProperty, property?] using found
  all_goals
    simp [withProperty, apart, described.id, described.kind, described.title, described.group,
      described.text, described.value, described.width, described.height, described.enabled,
      described.fill, described.items]

/-- One step of the walk adds one member to the description. -/
theorem Describes.step {read : String × (Widget → Widget)} (described : Describes held widget)
    (taken : effectOfMember .value seen (.ok key, value.draft) = .ok read) :
    Describes (Function.update held key (some value)) (read.2 widget) := by
  obtain ⟨-, ⟨rfl, items, decoded, effect⟩ | field | ⟨plain, effect⟩⟩ := effect_cases taken
  · rw [effect]
    exact described.itemsMember decoded
  · exact described.scalar field
  · rw [effect]
    exact described.property plain

/-- A described field of a single value can be read. -/
theorem Describes.scalar_readable {outcome : Except Json.Error (Widget → Widget)}
    (described : Describes held widget) (found : held key = some value)
    (field : scalarField? key value.draft = some outcome) : ∃ effect, outcome = .ok effect := by
  obtain ⟨id, kind, title, group, text, number, width, height, enabled, fill, -, -⟩ := described
  unfold scalarField? at field
  split at field
  case h_11 => simp at field
  all_goals
    obtain rfl := Option.some.inj field
    simp_all [Except.map]

/-- Each described member can be read, unless its field has been read before. -/
theorem Describes.readable (described : Describes held widget) (found : held key = some value)
    (fresh : key ∉ seen) :
    ∃ effect, effectOfMember .value seen (.ok key, value.draft) = .ok (key, effect) := by
  simp only [effectOfMember, List.contains_eq_mem, fresh, decide_false, Bool.and_false,
    Bool.false_eq_true, if_false]
  split
  · rename_i itemsKey
    have items := described.items
    rw [← itemsKey, found, Json.holds_some] at items
    exact ⟨_, by rw [items]; rfl⟩
  · cases field : scalarField? key value.draft with
    | none => exact ⟨_, by simp only [Json.Draft.toJson_draft]; rfl⟩
    | some outcome =>
      obtain ⟨effect, rfl⟩ := described.scalar_readable found field
      exact ⟨effect, rfl⟩

/-! ### All members -/

/-- A successful walk over members with distinct keys describes the widget by those members, and
behind them by what was held before.

Proof: induction follows the members. One step puts the first member over what was held; with its
key absent from the rest, the rest may be put over both in either order. -/
theorem describes_walk {members : List (String × Json)} {start : Widget}
    {effects : List (Widget → Widget)} (distinct : Json.Distinct members)
    (described : Describes held start)
    (taken : effectsOfMembers .value seen (Json.membersDrafts members) = .ok effects) :
    Describes (fun sought => (Json.member? sought members).or (held sought))
      (effects.foldl (fun widget effect => effect widget) start) := by
  induction members generalizing held seen start effects with
  | nil =>
    obtain rfl := Except.ok.inj taken
    simpa using described
  | cons head rest inductionHypothesis =>
    obtain ⟨key, value⟩ := head
    obtain ⟨fresh, restDistinct⟩ := Json.distinct_cons.mp distinct
    simp only [Json.membersDrafts, Json.memberDraft, effectsOfMembers] at taken
    obtain ⟨⟨_, effect⟩, first, taken⟩ := Json.ok_of_bind taken
    obtain ⟨later, others, same⟩ := Json.ok_of_bind taken
    obtain rfl := Except.ok.inj same
    have walked := inductionHypothesis restDistinct (described.step first) others
    rwa [Json.holdings_cons held fresh] at walked

/-- The walk succeeds on members that are part of a description, as long as none of their keys has
been seen. -/
theorem Describes.walkable {members : List (String × Json)} (described : Describes held widget)
    (part : ∀ member ∈ members, held member.1 = some member.2) (distinct : Json.Distinct members)
    (fresh : ∀ member ∈ members, member.1 ∉ seen) :
    ∃ effects, effectsOfMembers .value seen (Json.membersDrafts members) = .ok effects := by
  induction members generalizing seen with
  | nil => exact ⟨[], rfl⟩
  | cons head rest inductionHypothesis =>
    obtain ⟨key, value⟩ := head
    obtain ⟨first, restDistinct⟩ := Json.distinct_cons.mp distinct
    obtain ⟨effect, taken⟩ :=
      described.readable (part (key, value) List.mem_cons_self)
        (fresh (key, value) List.mem_cons_self)
    have laterFresh : ∀ member ∈ rest, member.1 ∉ key :: seen :=
      Json.unseen_cons first fun member inside => fresh member (List.mem_cons_of_mem _ inside)
    obtain ⟨effects, others⟩ := inductionHypothesis
      (fun member inside => part member (List.mem_cons_of_mem _ inside)) restDistinct laterFresh
    refine ⟨effect :: effects, ?_⟩
    simp only [Json.membersDrafts, Json.memberDraft, effectsOfMembers, taken, bind, Except.bind,
      others, pure, Except.pure]

/-- The members of an object, walked over from the blank widget. -/
theorem ofJson_object (members : List (String × Json)) :
    ofJson (.object members) =
      (effectsOfMembers .value [] (Json.membersDrafts members)).map fun effects =>
        effects.foldl (fun widget effect => effect widget) blank := by
  cases walked : effectsOfMembers .value [] (Json.membersDrafts members) <;>
    simp [ofJson, Json.decodeValue, Json.draft, ofDraft, Json.Origin.enter, Json.Draft.checkEnd,
      walked, bind, Except.bind, pure, Except.pure, Except.map]

/-- An object with distinct keys decodes as exactly the widget that it describes.

Proof: a successful walk leads to a described widget, and a description makes the walk succeed, on
a widget which is the described one because a description fits no other. -/
theorem ofJson_object_iff {members : List (String × Json)} (distinct : Json.Distinct members) :
    ofJson (.object members) = .ok widget ↔
      Describes (fun key => Json.member? key members) widget := by
  have walked : ∀ {effects},
      effectsOfMembers .value [] (Json.membersDrafts members) = .ok effects →
      Describes (fun key => Json.member? key members)
        (effects.foldl (fun widget effect => effect widget) blank) := by
    intro effects taken
    simpa using describes_walk distinct describes_blank taken
  rw [ofJson_object]
  constructor
  · intro decoded
    obtain ⟨effects, taken, rfl⟩ := Json.ok_of_map decoded
    exact walked taken
  · intro described
    have part : ∀ member ∈ members, Json.member? member.1 members = some member.2 :=
      fun member inside => Json.member?_of_mem distinct inside
    obtain ⟨effects, taken⟩ := described.walkable part distinct fun _ _ => List.not_mem_nil
    rw [taken, ← (walked taken).unique described]
    rfl

/-- Nothing but an object decodes as a widget. -/
theorem object_of_ofJson (decoded : ofJson value = .ok widget) :
    ∃ members, value = .object members := by
  cases value with
  | object members => exact ⟨members, rfl⟩
  | _ => simp [ofJson, Json.decodeValue, Json.draft, ofDraft] at decoded

/-! ### Items -/

/-- An item is a bare text if it is a string, and else a widget, whose own error is not reported.
An item is read to its end before its shape is looked at, which cannot fail on a value. -/
theorem item_ofJson_eq (value : Json) :
    Item.ofJson value =
      match value with
      | .string text => .ok (.text text)
      | value =>
        match ofJson value with
        | .ok child => .ok (.widget child)
        | .error _ => .error (.noVariant "Item") := by
  have buffered := Json.Draft.toJson_draft value
  cases value with
  | object members =>
    simp only [Json.draft] at buffered
    simp only [ofJson_object, Item.ofJson, Json.decodeValue, Json.draft, itemOfDraft, buffered]
    cases effectsOfMembers .value [] (Json.membersDrafts members) <;> rfl
  | string text => rfl
  | _ =>
    simp only [Json.draft] at buffered
    simp only [Item.ofJson, Json.decodeValue, Json.draft, itemOfDraft, buffered]
    rfl

/-- What decodes as a widget among items is what decodes as a widget. -/
theorem item_ofJson_widget {child : Widget} :
    Item.ofJson value = .ok (.widget child) ↔ ofJson value = .ok child := by
  rw [item_ofJson_eq]
  cases value with
  | string text => simp [ofJson, Json.decodeValue, Json.draft, ofDraft]
  | _ =>
    simp only
    split <;> simp_all

/-- What decodes as a bare text among items is that text. -/
theorem item_ofJson_text {text : String} :
    Item.ofJson value = .ok (.text text) ↔ value = .string text := by
  rw [item_ofJson_eq]
  cases value with
  | string found => simp
  | _ =>
    simp only [reduceCtorEq, iff_false]
    split <;> simp

/-- Items decode one by one. -/
theorem itemsOfDrafts_iff {elements : List Json} {items : List (Item Widget)} :
    itemsOfDrafts .value (Json.elementsDrafts elements) = .ok items ↔
      List.Forall₂ (fun element item => Item.ofJson element = .ok item) elements items := by
  induction elements generalizing items with
  | nil => simp [Json.elementsDrafts, itemsOfDrafts, eq_comm]
  | cons element rest inductionHypothesis =>
    simp only [Json.elementsDrafts, itemsOfDrafts, List.forall₂_cons_left_iff]
    constructor
    · intro decoded
      obtain ⟨item, first, decoded⟩ := Json.ok_of_bind decoded
      obtain ⟨others, later, same⟩ := Json.ok_of_bind decoded
      obtain rfl := Except.ok.inj same
      exact ⟨item, others, first, inductionHypothesis.mp later, rfl⟩
    · rintro ⟨item, others, first, later, rfl⟩
      have head : itemOfDraft .value element.draft = .ok item := first
      simp only [head, inductionHypothesis.mpr later, bind, Except.bind, pure, Except.pure]

/-- Exactly an array of items decodes as items. -/
theorem itemsOfDraft_iff {items : List (Item Widget)} :
    itemsOfDraft .value value.draft = .ok items ↔
      ∃ elements, value = .array elements ∧
        List.Forall₂ (fun element item => Item.ofJson element = .ok item) elements items := by
  cases value with
  | array elements =>
    simp only [Json.array.injEq, exists_eq_left', ← itemsOfDrafts_iff]
    cases decoded : itemsOfDrafts .value (Json.elementsDrafts elements) <;>
      simp [Json.draft, itemsOfDraft, Json.Origin.enter, Json.Draft.checkEnd, decoded, bind,
        Except.bind, pure, Except.pure]
  | _ => simp [Json.draft, itemsOfDraft]

end Widget

end Dialogs
