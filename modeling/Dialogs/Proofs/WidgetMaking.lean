import Dialogs.Proofs.DialogRoundTrip

/-!
# How a widget comes about

A program makes a widget with one of the makers or decodes it from a document, and changes it edit
by edit. The items that it puts in are texts and widgets that came about in the same way; a change
to an item is an edit that puts in the changed one.

Beside the widget stands what has been put under each key, by the members of a document and by every
edit that names a property, as if no key were reserved. The bag of the widget holds exactly that at
the keys that are free, and nothing at those that are reserved. So whatever is done, no property
stands where the renderer expects a field, neither in the widget nor anywhere below it, and what is
written under a reserved key is what the field holds.
-/

namespace Dialogs

open Json (member?)

namespace Widget

/-- The ways to begin a widget without a document. -/
inductive Maker where
  | blank
  | ofKind (kind : WidgetKind)
  | space
  | textLabel (text : String)
  | button (id text : String)
  | check (id text : String)
  | input (id : String)
  | number (id : String) (value : Int64)
  | image (source : String)
  | list (id : String) (items : List (Item Widget))
  | tree (id : String) (items : List (Item Widget))
  | tabs (items : List (Item Widget))
  | row (items : List (Item Widget))
  | column (items : List (Item Widget))
  | grid (items : List (Item Widget))
  | form (items : List (Item Widget))

namespace Maker

/-- The widget that a maker makes. -/
def widget : Maker → Widget
  | .blank => Widget.blank
  | .ofKind kind => Widget.ofKind kind
  | .space => Widget.space
  | .textLabel text => Widget.textLabel text
  | .button id text => Widget.button id text
  | .check id text => Widget.check id text
  | .input id => Widget.input id
  | .number id value => Widget.number id value
  | .image source => Widget.image source
  | .list id items => Widget.list id items
  | .tree id items => Widget.tree id items
  | .tabs items => Widget.tabs items
  | .row items => Widget.row items
  | .column items => Widget.column items
  | .grid items => Widget.grid items
  | .form items => Widget.form items

/-- The items that are given to a maker. -/
def items : Maker → List (Item Widget)
  | .list _ items | .tree _ items | .tabs items | .row items | .column items | .grid items
  | .form items => items
  | _ => []

/-- A widget begins without properties. -/
theorem property?_widget (maker : Maker) (key : String) : maker.widget.property? key = none := by
  cases maker <;> rfl

/-- A widget begins with the items that are given. -/
theorem items_widget (maker : Maker) : maker.widget.items = maker.items := by
  cases maker <;> rfl

end Maker

/-- What can be done to a widget. A field is assigned, or set by the call that is named after it. -/
inductive Edit where
  | setId (id : String)
  | setKind (kind : String)
  | setTitle (title : String)
  | setGroup (group : String)
  | setText (text : String)
  | setValue (value : Int64)
  | setWidth (width : Int64)
  | setHeight (height : Int64)
  | setSize (width height : Int64)
  | setEnabled (enabled : Bool)
  | setFill (fill : Bool)
  | setItems (items : List (Item Widget))
  | addItem (item : Item Widget)
  | addItems (items : List (Item Widget))
  | addProperty (key : String) (value : Json.Document)
  | setProperty (key : String) (value : Json.Document)

namespace Edit

/-- The widget after an edit. -/
def apply (widget : Widget) : Edit → Widget
  | .setId id => widget.withId id
  | .setKind kind => { widget with kind }
  | .setTitle title => widget.withTitle title
  | .setGroup group => widget.withGroup group
  | .setText text => widget.withText text
  | .setValue value => widget.withValue value
  | .setWidth width => { widget with width }
  | .setHeight height => { widget with height }
  | .setSize width height => widget.withSize width height
  | .setEnabled enabled => widget.withEnabled enabled
  | .setFill fill => widget.withFill fill
  | .setItems items => { widget with items }
  | .addItem item => widget.withItem item
  | .addItems items => widget.withItems items
  | .addProperty key value => widget.withProperty key value
  | .setProperty key value => (widget.setProperty key value).2

/-- The items that an edit puts in. -/
def newItems : Edit → List (Item Widget)
  | .setItems items | .addItems items => items
  | .addItem item => [item]
  | _ => []

/-- What has been put under each key after an edit, reserved or not. -/
def puts (put : String → Option Json.Document) : Edit → String → Option Json.Document
  | .addProperty key value | .setProperty key value => Function.update put key (some value)
  | _ => put

end Edit

/-- The widgets that come about, each with what has been put under each key. The widgets among the
items that are put in have come about as well, each with what was given to it. -/
inductive Made : (String → Option Json.Document) → Widget → Prop where
  | begun (maker : Maker) {given : Widget → String → Option Json.Document}
    (items : ∀ child, Item.widget child ∈ maker.items → Made (given child) child) :
    Made (fun _ => none) maker.widget
  | decoded {document : Json.Document} {members : List (String × Json)} {widget : Widget}
    (object : document.json = .object members) (decoded : ofJson document.json = .ok widget) :
    Made (fun key => (member? key members).map Json.document) widget
  | edited {put : String → Option Json.Document} {widget : Widget} (made : Made put widget)
    (edit : Edit) {given : Widget → String → Option Json.Document}
    (items : ∀ child, Item.widget child ∈ edit.newItems → Made (given child) child) :
    Made (edit.puts put) (edit.apply widget)

/-- A widget, and each widget among its items, at any depth. -/
inductive Within (part : Widget) : Widget → Prop where
  | self : Within part part
  | item {child widget : Widget} (within : Within part child)
    (inside : Item.widget child ∈ widget.items) : Within part widget

/-- What comes of setting a property. Under a reserved key nothing changes; under a free one the
value is found afterwards, and nothing else changes. -/
inductive SetsProperty (widget : Widget) (key : String) (value : Json.Document) : Prop where
  | refused (reserved : key ∈ reservedKeys)
    (answered : widget.setProperty key value = (false, widget))
    (silent : widget.withProperty key value = widget)
  | done (changed : Widget) (free : key ∉ reservedKeys)
    (answered : widget.setProperty key value = (true, changed))
    (silent : widget.withProperty key value = changed)
    (found : changed.property? key = some value)
    (others : ∀ other, other ≠ key → changed.property? other = widget.property? other)
    (fields : changed = { widget with properties := changed.properties })

/-- What the field under a reserved key is written as, when it is written. Under `properties` there
is no field. -/
def fieldValue? (widget : Widget) : String → Option Json
  | "id" => some (.string widget.id)
  | "type" => some (.string widget.kind)
  | "title" => some (.string widget.title)
  | "group" => some (.string widget.group)
  | "text" => some (.string widget.text)
  | "value" => some (.ofInt64 widget.value)
  | "width" => some (.ofInt64 widget.width)
  | "height" => some (.ofInt64 widget.height)
  | "enabled" => some (.bool widget.enabled)
  | "fill" => some (.bool widget.fill)
  | "items" => some (.array (widget.items.map fun item => item.toDocument.json))
  | _ => none

/-- A widget whose properties are what has been put under the free keys. -/
structure Guarded (put : String → Option Json.Document) (widget : Widget) : Prop where
  property : ∀ key, widget.property? key = if key ∈ reservedKeys then none else put key
  free : ∀ entry ∈ widget.properties.entries, entry.1 ∉ reservedKeys
  sets : ∀ key value, widget.SetsProperty key value
  written : ∀ members, widget.toDocument.json = .object members →
    ∀ key ∈ reservedKeys, ∀ value, (key, value) ∈ members → widget.fieldValue? key = some value

variable {widget : Widget} {key : String} {value : Json.Document}
  {put : String → Option Json.Document}

/-! ### Setting one property -/

/-- Under a reserved key nothing is set. -/
theorem set?_of_reserved (reserved : key ∈ reservedKeys) :
    widget.properties.set? key value = none :=
  (PropertyBag.set?_eq_none_iff _ _ _).mpr reserved

/-- Under a free key there is a changed bag. -/
theorem set?_of_free (free : key ∉ reservedKeys) :
    widget.properties.set? key value = some (widget.properties.set key value) := by
  cases changed : widget.properties.set? key value with
  | none => exact absurd ((PropertyBag.set?_eq_none_iff _ _ _).mp changed) free
  | some bag => simp only [PropertyBag.set, changed, Option.getD_some]

/-- Under a reserved key the widget stays as it is. -/
theorem withProperty_of_reserved (reserved : key ∈ reservedKeys) :
    widget.withProperty key value = widget := by
  have same : widget.properties.set key value = widget.properties := by
    rw [PropertyBag.set, set?_of_reserved reserved, Option.getD_none]
  rw [withProperty, same]
  cases widget
  rfl

/-- A property is set under a free key, and refused under a reserved one. -/
theorem setsProperty (widget : Widget) (key : String) (value : Json.Document) :
    widget.SetsProperty key value := by
  by_cases reserved : key ∈ reservedKeys
  · refine .refused reserved ?_ (withProperty_of_reserved reserved)
    simp only [setProperty, set?_of_reserved reserved]
  · have found : ∀ sought, (widget.withProperty key value).property? sought =
        if key = sought then some value else widget.property? sought :=
      PropertyBag.get?_set widget.properties reserved value
    refine .done (widget.withProperty key value) reserved ?_ rfl ?_ ?_ rfl
    · simp only [setProperty, set?_of_free reserved, withProperty]
    · rw [found, if_pos rfl]
    · intro other different
      rw [found, if_neg different.symm]

/-- Whether the answer is looked at or not, a property is set in the same way. -/
theorem setProperty_snd : (widget.setProperty key value).2 = widget.withProperty key value := by
  cases widget.setsProperty key value with
  | refused _ answered silent => rw [answered, silent]
  | done _ _ answered silent => rw [answered, silent]

/-! ### What the bag holds -/

/-- Setting a property keeps the bag at what has been put under the free keys. -/
theorem property?_withProperty
    (kept : ∀ key, widget.property? key = if key ∈ reservedKeys then none else put key)
    (sought : String) :
    (widget.withProperty key value).property? sought =
      if sought ∈ reservedKeys then none else Function.update put key (some value) sought := by
  cases widget.setsProperty key value with
  | refused reserved _ silent =>
    rw [silent, kept]
    by_cases free : sought ∈ reservedKeys
    · rw [if_pos free, if_pos free]
    · have different : sought ≠ key := fun same => free (same ▸ reserved)
      rw [Function.update_of_ne different]
  | done changed free _ silent found others =>
    rw [silent]
    by_cases same : sought = key
    · subst same
      rw [found, if_neg free, Function.update_self]
    · rw [others sought same, kept, Function.update_of_ne same]

/-- One edit keeps the bag at what has been put under the free keys. Only setting a property looks
at the bag at all. -/
theorem Edit.property?_apply (edit : Edit)
    (kept : ∀ key, widget.property? key = if key ∈ reservedKeys then none else put key)
    (sought : String) :
    (edit.apply widget).property? sought =
      if sought ∈ reservedKeys then none else edit.puts put sought := by
  cases edit with
  | addProperty key value => exact property?_withProperty kept sought
  | setProperty key value =>
    rw [Edit.apply, setProperty_snd]
    exact property?_withProperty kept sought
  | _ => exact kept sought

/-- A decoded widget has the members of the document under the free keys as its properties. -/
theorem property?_decoded {document : Json.Document} {members : List (String × Json)}
    (object : document.json = .object members) (decoded : ofJson document.json = .ok widget) :
    widget.property? key =
      if key ∈ reservedKeys then none else (member? key members).map Json.document := by
  have sorted := document.isSorted
  rw [object] at sorted decoded
  have described := (ofJson_object_iff sorted.1.distinct).mp decoded
  split
  · exact property?_of_reserved widget ‹_›
  · exact described.properties key ‹_›

/-- The bag of a widget that has come about holds what has been put under the free keys.

Proof: by induction over the edits, from a widget without properties or from a decoded one. -/
theorem Made.property?_eq (made : Made put widget) (key : String) :
    widget.property? key = if key ∈ reservedKeys then none else put key := by
  induction made generalizing key with
  | begun maker =>
    rw [maker.property?_widget]
    split <;> rfl
  | decoded object decoded => exact property?_decoded object decoded
  | edited made edit items inductionHypothesis => exact edit.property?_apply inductionHypothesis key

/-! ### What stands below a widget -/

/-- Behind an edit there are the old items and the new ones. -/
theorem Edit.mem_items_apply {edit : Edit} {item : Item Widget}
    (inside : item ∈ (edit.apply widget).items) : item ∈ widget.items ∨ item ∈ edit.newItems := by
  cases edit with
  | setItems items => exact .inr inside
  | addItem added => exact List.mem_append.mp inside
  | addItems items => exact List.mem_append.mp inside
  | setProperty key value =>
    rw [Edit.apply, setProperty_snd] at inside
    exact .inl inside
  | _ => exact .inl inside

/-- The elements that items have been decoded from are documents. -/
theorem made_of_decoded {elements : List Json} {items : List (Item Widget)}
    (sorted : Json.ElementsSorted elements)
    (decoded : List.Forall₂ (fun element item => Item.ofJson element = .ok item) elements items)
    {child : Widget} (inside : Item.widget child ∈ items) : ∃ given, Made given child := by
  induction decoded with
  | nil => cases inside
  | @cons element item _ _ first _ inductionHypothesis =>
    rcases List.mem_cons.mp inside with rfl | later
    · have read : ofJson element = .ok child := item_ofJson_widget.mp first
      obtain ⟨members, rfl⟩ := object_of_ofJson read
      let document : Json.Document := ⟨.object members, sorted.1⟩
      have object : document.json = .object members := rfl
      exact ⟨_, .decoded object read⟩
    · exact inductionHypothesis sorted.2 later

/-- The widgets among the items of a decoded widget have been decoded themselves. -/
theorem made_child_of_decoded {document : Json.Document} {members : List (String × Json)}
    (object : document.json = .object members) (decoded : ofJson document.json = .ok widget)
    {child : Widget} (inside : Item.widget child ∈ widget.items) : ∃ given, Made given child := by
  have sorted := document.isSorted
  rw [object] at sorted decoded
  have described := (ofJson_object_iff sorted.1.distinct).mp decoded
  have items := described.items
  cases held : member? "items" members with
  | none =>
    rw [held] at items
    rw [show widget.items = [] from items] at inside
    cases inside
  | some value =>
    rw [held] at items
    obtain ⟨elements, rfl, each⟩ := itemsOfDraft_iff.mp items
    have array : (Json.array elements).IsSorted :=
      Json.membersSorted_iff.mp sorted.2 _ (Json.mem_of_member? held)
    exact made_of_decoded array each inside

/-- A widget among the items of one that has come about has come about itself. -/
theorem Made.child (made : Made put widget) {child : Widget}
    (inside : Item.widget child ∈ widget.items) : ∃ given, Made given child := by
  induction made with
  | begun maker items =>
    rw [maker.items_widget] at inside
    exact ⟨_, items child inside⟩
  | decoded object decoded => exact made_child_of_decoded object decoded inside
  | edited made edit items inductionHypothesis =>
    rcases edit.mem_items_apply inside with old | new
    · exact inductionHypothesis old
    · exact ⟨_, items child new⟩

/-- So has every widget below it. -/
theorem Made.within {part : Widget} (within : Within part widget) (made : Made put widget) :
    ∃ given, Made given part := by
  induction within generalizing put with
  | self => exact ⟨put, made⟩
  | item _ inside inductionHypothesis =>
    obtain ⟨given, child⟩ := made.child inside
    exact inductionHypothesis child

/-! ### What is written -/

/-- The documents of items, one by one. -/
theorem sortedElements_itemsToJson (items : List (Item Widget)) :
    Json.sortedElements (itemsToJson items) = items.map fun item => item.toDocument.json := by
  induction items with
  | nil => rfl
  | cons item rest inductionHypothesis =>
    rw [itemsToJson, Json.sortedElements, inductionHypothesis]
    rfl

/-- What a widget holds under a reserved key is the value of the field, sorted. -/
theorem fieldValue?_of_held {value : Json} (reserved : key ∈ reservedKeys)
    (found : widget.held key = some value) : widget.fieldValue? key = some value.sorted := by
  unfold held at found
  split at found
  case h_12 =>
    rw [property?_of_reserved widget reserved] at found
    cases found
  case h_11 =>
    obtain ⟨-, same⟩ := Option.ite_none_left_eq_some.mp found
    obtain rfl := Option.some.inj same
    rw [Json.sorted, sortedElements_itemsToJson]
    rfl
  all_goals
    obtain ⟨-, same⟩ := Option.ite_none_left_eq_some.mp found
    obtain rfl := Option.some.inj same
    rfl

/-- Whatever stands under a reserved key in the document of a widget is the value of the field. -/
theorem fieldValue?_of_mem {members : List (String × Json)} {value : Json}
    (object : widget.toDocument.json = .object members) (reserved : key ∈ reservedKeys)
    (inside : (key, value) ∈ members) : widget.fieldValue? key = some value := by
  have same : Json.object widget.documentMembers = .object members :=
    widget.sorted_toJson.symm.trans object
  obtain rfl := Json.object.inj same
  have distinct : Json.Distinct widget.documentMembers := (Json.increasing_sortMembers _).distinct
  have found := Json.member?_of_mem distinct inside
  rw [member?_documentMembers] at found
  obtain ⟨plain, held, rfl⟩ := Option.map_eq_some_iff.mp found
  exact fieldValue?_of_held reserved held

/-- The properties of a widget that has come about are guarded. -/
theorem Made.guarded (made : Made put widget) : widget.Guarded put where
  property := made.property?_eq
  free := by
    intro entry inside reserved
    have found : widget.property? entry.1 = some entry.2 :=
      Json.member?_of_mem widget.properties.increasing.distinct inside
    rw [made.property?_eq, if_pos reserved] at found
    cases found
  sets := widget.setsProperty
  written := fun _ object _ reserved _ inside => fieldValue?_of_mem object reserved inside

/-- A reserved key is never the key of a property. Of a widget that has come about, by whatever
edits from whatever maker or document, the properties are exactly what has been put under the free
keys; setting a property is refused under a reserved key, and otherwise changes that property alone;
and what is written under a reserved key is the value of the field. The same holds of every widget
below it.

Proof: one edit keeps the bag at what has been put under the free keys, and a decoded widget begins
with the free members of its document. The widgets below have come about by themselves. -/
theorem guarded_within (made : Made put widget) :
    widget.Guarded put ∧
      ∀ part, Within part widget → ∃ given, Made given part ∧ part.Guarded given := by
  refine ⟨made.guarded, ?_⟩
  intro part within
  obtain ⟨given, partMade⟩ := made.within within
  exact ⟨given, partMade, partMade.guarded⟩

/-- A text that is aligned, with a member that has the name of no field but is reserved, and with an
item that has one as well. -/
def alignedText : Json :=
  .object
    [("align", .string "left"),
     ("items", .array [.object [("properties", .null), ("wrap", .bool true)]]),
     ("properties", .object [("align", .null)]), ("type", .string "text")]

/-- The text is decoded, aligned anew, and told to have another text as a property. Only what is put
under the free key is found. -/
theorem guarded_within_alignedText :
    ∃ put widget, Made put widget ∧
      put "text" = some (Json.document (.string "other")) ∧ (put "properties").isSome = true ∧
      widget.Guarded put ∧
      widget.property? "align" = some (Json.document (.string "right")) ∧
      widget.property? "text" = none ∧ widget.property? "properties" = none := by
  have readable : ∃ widget, ofJson alignedText.document.json = .ok widget := ⟨_, rfl⟩
  obtain ⟨widget, decoded⟩ := readable
  have object : ∃ members, alignedText.document.json = .object members ∧
      (member? "properties" members).isSome = true := ⟨_, rfl, rfl⟩
  obtain ⟨members, object, mentioned⟩ := object
  let align : Edit := .addProperty "align" (Json.document (.string "right"))
  let shadow : Edit := .setProperty "text" (Json.document (.string "other"))
  have made : Made _ widget := .decoded object decoded
  have aligned : Made _ (align.apply widget) :=
    @Made.edited _ _ made align (fun _ _ => none) (by simp [align, Edit.newItems])
  have shadowed : Made _ (shadow.apply (align.apply widget)) :=
    @Made.edited _ _ aligned shadow (fun _ _ => none) (by simp [shadow, Edit.newItems])
  have guarded := (guarded_within shadowed).1
  refine ⟨_, _, shadowed, ?_, ?_, guarded, ?_, ?_, ?_⟩
  · simp [shadow, Edit.puts]
  · simpa [shadow, align, Edit.puts] using mentioned
  · rw [guarded.property]
    simp [shadow, align, Edit.puts, reservedKeys]
  · rw [guarded.property, if_pos (by decide)]
  · rw [guarded.property, if_pos (by decide)]

end Widget

end Dialogs
