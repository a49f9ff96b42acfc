import Dialogs.Proofs.ClientScript
import Dialogs.Proofs.DialogMembers
import Dialogs.Proofs.SessionPipe

/-!
# One dialog in two orders

A window is shown by a client or in a session. The client writes its fields in the order in which
they are declared, with the properties of a widget behind them; the session writes a document, in
which all members are sorted. Both say the same: no key is written twice, so sorting drops nothing,
and what is sorted has the same members as before, at every depth.

What it means that one value is another one sorted is said without the function that sorts. Blanks
and escapes need no care here, because both are printed by the same printer.
-/

namespace Dialogs

namespace Json

/-- No object in the value has a key twice, at any depth. -/
inductive Unrepeated : Json → Prop where
  | null : Unrepeated .null
  | bool (value : Bool) : Unrepeated (.bool value)
  | number (value : Number) : Unrepeated (.number value)
  | string (value : String) : Unrepeated (.string value)
  | array {elements : List Json} (each : ∀ element ∈ elements, Unrepeated element) :
    Unrepeated (.array elements)
  | object {members : List (String × Json)} (distinct : Distinct members)
    (each : ∀ member ∈ members, Unrepeated member.2) : Unrepeated (.object members)

/-- The second value is the first with the members of every object, at every depth, in strictly
increasing order of their keys. The keys are the same, and so are the elements and their order and
everything that is neither an array nor an object. -/
inductive SortsTo : Json → Json → Prop where
  | null : SortsTo .null .null
  | bool (value : Bool) : SortsTo (.bool value) (.bool value)
  | number (value : Number) : SortsTo (.number value) (.number value)
  | string (value : String) : SortsTo (.string value) (.string value)
  | array {elements others : List Json} (each : List.Forall₂ SortsTo elements others) :
    SortsTo (.array elements) (.array others)
  | object {members others : List (String × Json)}
    (keys : (others.map (·.1)).Perm (members.map (·.1))) (ordered : Increasing others)
    (each : ∀ key value other, (key, value) ∈ members → (key, other) ∈ others →
      SortsTo value other) :
    SortsTo (.object members) (.object others)

/-! ### Sorting without loss -/

variable {α : Type}

/-- A key that is not there yet is only added. -/
theorem insertMember_perm {key : String} (value : α) {members : List (String × α)}
    (fresh : key ∉ members.map (·.1)) :
    (insertMember key value members).Perm ((key, value) :: members) := by
  induction members with
  | nil => exact List.Perm.refl _
  | cons head rest inductionHypothesis =>
    obtain ⟨other, held⟩ := head
    simp only [List.map_cons, List.mem_cons, not_or] at fresh
    obtain ⟨different, absent⟩ := fresh
    simp only [insertMember, different, if_false]
    split
    · exact List.Perm.refl _
    · have later : (insertMember key value rest).Perm ((key, value) :: rest) :=
        inductionHypothesis absent
      exact (later.cons (other, held)).trans (List.Perm.swap _ _ _)

/-- Members with distinct keys are sorted without loss.

Proof: by induction over the members that are still to be inserted. None of their keys is among
those that have been inserted, and the first is not among the others. -/
theorem sortMembers_perm {members : List (String × α)} (distinct : Distinct members) :
    (sortMembers members).Perm members := by
  have general : ∀ (rest start : List (String × α)), Distinct (start ++ rest) →
      (rest.foldl (fun sorted member => insertMember member.1 member.2 sorted) start).Perm
        (start ++ rest) := by
    intro rest
    induction rest with
    | nil =>
      intro start _
      rw [List.append_nil]
      exact List.Perm.refl _
    | cons head rest inductionHypothesis =>
      intro start apart
      obtain ⟨key, value⟩ := head
      have moved : (start ++ (key, value) :: rest).Perm ((key, value) :: (start ++ rest)) :=
        List.perm_middle
      have split : key ∉ (start ++ rest).map (·.1) ∧ Distinct (start ++ rest) :=
        distinct_cons.mp ((moved.map Prod.fst).nodup_iff.mp apart)
      have fresh : key ∉ start.map (·.1) := by
        intro inside
        apply split.1
        rw [List.map_append]
        exact List.mem_append_left _ inside
      have inserted : (insertMember key value start ++ rest).Perm
          ((key, value) :: (start ++ rest)) :=
        (insertMember_perm value fresh).append_right rest
      have stillApart : Distinct (insertMember key value start ++ rest) :=
        (inserted.map Prod.fst).nodup_iff.mpr (distinct_cons.mpr split)
      exact (inductionHypothesis _ stillApart).trans (inserted.trans moved.symm)
  exact general members [] distinct

/-- Sorting elements sorts each of them. -/
theorem sortedElements_eq_map (elements : List Json) :
    sortedElements elements = elements.map sorted := by
  induction elements with
  | nil => rfl
  | cons element rest inductionHypothesis =>
    rw [sortedElements, inductionHypothesis, List.map_cons]

/-- Without repeated keys, sorting does nothing but sort.

Proof: by induction over the value. The sorted members of an object have its keys, each once. So a
member and the sorted member of the same key belong together, and the one is the other sorted. -/
theorem Unrepeated.sortsTo {value : Json} (unrepeated : value.Unrepeated) :
    value.SortsTo value.sorted := by
  induction unrepeated with
  | null => exact .null
  | bool value => exact .bool value
  | number value => exact .number value
  | string value => exact .string value
  | @array elements each inductionHypothesis =>
    rw [sorted, sortedElements_eq_map]
    refine .array ?_
    rw [List.forall₂_map_right_iff, List.forall₂_same]
    exact inductionHypothesis
  | @object members distinct each inductionHypothesis =>
    have inDepth : (sortedMembers members).map (·.1) = members.map (·.1) := by
      simp [sortedMembers_eq_map, Function.comp_def]
    have stillDistinct : Distinct (sortedMembers members) := by
      rwa [Distinct, inDepth]
    have same : (sortMembers (sortedMembers members)).Perm (sortedMembers members) :=
      sortMembers_perm stillDistinct
    rw [sorted]
    refine .object ?_ (increasing_sortMembers _) ?_
    · rw [← inDepth]
      exact same.map (·.1)
    · intro key value other inside sortedInside
      have there : (key, other) ∈ sortedMembers members := same.mem_iff.mp sortedInside
      rw [sortedMembers_eq_map] at there
      obtain ⟨⟨_, held⟩, heldInside, equal⟩ := List.mem_map.mp there
      obtain ⟨rfl, rfl⟩ := Prod.mk.inj equal
      have found : some value = some held :=
        (member?_of_mem distinct inside).symm.trans (member?_of_mem distinct heldInside)
      obtain rfl := Option.some.inj found
      exact inductionHypothesis _ inside

mutual

/-- A sorted value has no key twice in any object. -/
theorem unrepeated_of_isSorted : (value : Json) → value.IsSorted → value.Unrepeated
  | .array elements, inside => .array (unrepeated_of_elementsSorted elements inside)
  | .object members, inside =>
    .object inside.1.distinct (unrepeated_of_membersSorted members inside.2)
  | .null, _ => .null
  | .bool value, _ => .bool value
  | .number value, _ => .number value
  | .string value, _ => .string value

/-- Neither have sorted elements. -/
theorem unrepeated_of_elementsSorted : (elements : List Json) → ElementsSorted elements →
    ∀ element ∈ elements, element.Unrepeated
  | [], _ => by simp
  | element :: rest, inside => by
    rw [List.forall_mem_cons]
    exact ⟨unrepeated_of_isSorted element inside.1, unrepeated_of_elementsSorted rest inside.2⟩

/-- Neither have the values of sorted members. -/
theorem unrepeated_of_membersSorted : (members : List (String × Json)) → MembersSorted members →
    ∀ member ∈ members, member.2.Unrepeated
  | [], _ => by simp
  | (key, value) :: rest, inside => by
    rw [List.forall_mem_cons]
    exact ⟨unrepeated_of_isSorted value inside.1, unrepeated_of_membersSorted rest inside.2⟩

end

/-- What is kept unless it is a default has no key twice if the value has none. -/
theorem unrepeated_of_kept {dropped : Prop} [Decidable dropped] {value kept : Json}
    (unrepeated : value.Unrepeated) (found : (if dropped then none else some value) = some kept) :
    kept.Unrepeated := by
  obtain ⟨-, same⟩ := Option.ite_none_left_eq_some.mp found
  obtain rfl := Option.some.inj same
  exact unrepeated

end Json

/-! ### How a dialog is laid out -/

namespace Widget

/-- A widget with its fields in the order of their declaration and its properties behind them, and
with the widgets among its items laid out in the same way. -/
inductive LaidOut : Json → Prop where
  | object {fields properties : List (String × Json)}
    (declared : (fields.map (·.1)).Sublist fieldKeys)
    (free : ∀ property ∈ properties, property.1 ∉ reservedKeys)
    (items : ∀ elements, ("items", .array elements) ∈ fields →
      ∀ element ∈ elements, element.isObject = true → LaidOut element) :
    LaidOut (.object (fields ++ properties))

/-- What a widget holds at a key has no key twice, once its items have none. -/
theorem unrepeated_held {widget : Widget} {key : String} {value : Json}
    (items : ∀ element ∈ itemsToJson widget.items, element.Unrepeated)
    (found : widget.held key = some value) : value.Unrepeated := by
  unfold held at found
  split at found
  case h_6 | h_7 | h_8 => exact Json.unrepeated_of_kept (.number _) found
  case h_9 | h_10 => exact Json.unrepeated_of_kept (.bool _) found
  case h_11 => exact Json.unrepeated_of_kept (.array items) found
  case h_12 =>
    obtain ⟨document, -, rfl⟩ := Option.map_eq_some_iff.mp found
    exact Json.unrepeated_of_isSorted _ document.isSorted
  all_goals exact Json.unrepeated_of_kept (.string _) found

mutual

/-- A widget is written without any key twice. -/
theorem unrepeated_toJson : (widget : Widget) → widget.toJson.Unrepeated
  | ⟨id, kind, title, group, text, value, width, height, enabled, fill, items, properties⟩ => by
    rw [toJson_eq]
    refine .object (distinct_members _) ?_
    intro member inside
    have found := Json.member?_of_mem (distinct_members _) inside
    rw [member?_members] at found
    exact unrepeated_held (unrepeated_itemsToJson items) found

/-- So are items. -/
theorem unrepeated_itemsToJson : (items : List (Item Widget)) →
    ∀ element ∈ itemsToJson items, element.Unrepeated
  | [] => by simp [itemsToJson]
  | item :: rest => by
    rw [itemsToJson, List.forall_mem_cons]
    exact ⟨unrepeated_itemToJson item, unrepeated_itemsToJson rest⟩

/-- So is an item. -/
theorem unrepeated_itemToJson : (item : Item Widget) → (itemToJson item).Unrepeated
  | .widget child => unrepeated_toJson child
  | .text text => .string text

end

/-- The items of a widget are found behind its fields, at their own key. -/
theorem items_of_fieldMembers {widget : Widget} {elements : List Json}
    (inside : ("items", .array elements) ∈ widget.fieldMembers) :
    elements = itemsToJson widget.items := by
  have written : ("items", Json.array elements) ∈ widget.members := by
    rw [members_eq]
    exact List.mem_append_left _ inside
  have found := Json.member?_of_mem (distinct_members _) written
  rw [member?_members] at found
  obtain ⟨-, same⟩ := Option.ite_none_left_eq_some.mp found
  exact (Json.array.inj (Option.some.inj same)).symm

mutual

/-- A widget is laid out as it is declared. -/
theorem laidOut_toJson : (widget : Widget) → LaidOut widget.toJson
  | ⟨id, kind, title, group, text, value, width, height, enabled, fill, items, properties⟩ => by
    rw [toJson_eq, members_eq]
    refine .object (keys_fieldMembers _) ?_ ?_
    · intro property inside
      obtain ⟨entry, member, rfl⟩ := List.mem_map.mp inside
      exact properties.free entry member
    · intro elements inside
      obtain rfl := items_of_fieldMembers inside
      exact laidOut_itemsToJson items

/-- So are the widgets among items. -/
theorem laidOut_itemsToJson : (items : List (Item Widget)) →
    ∀ element ∈ itemsToJson items, element.isObject = true → LaidOut element
  | [] => by simp [itemsToJson]
  | item :: rest => by
    rw [itemsToJson, List.forall_mem_cons]
    exact ⟨laidOut_itemToJson item, laidOut_itemsToJson rest⟩

/-- So is an item that is a widget. A bare text is no object. -/
theorem laidOut_itemToJson : (item : Item Widget) →
    (itemToJson item).isObject = true → LaidOut (itemToJson item)
  | .widget child, _ => laidOut_toJson child
  | .text _, object => by cases object

end

end Widget

namespace Window

/-- A window with its fields in the order of their declaration, and with its body laid out. -/
inductive LaidOut : Json → Prop where
  | object {members : List (String × Json)} (declared : (members.map (·.1)).Sublist fieldKeys)
    (body : ∀ body, ("body", body) ∈ members → Widget.LaidOut body) : LaidOut (.object members)

/-- What a window holds at a key has no key twice. -/
theorem unrepeated_held {window : Window} {key : String} {value : Json}
    (found : window.held key = some value) : value.Unrepeated := by
  unfold held at found
  split at found
  case h_1 =>
    obtain rfl := Option.some.inj found
    exact .string _
  case h_4 | h_5 | h_6 | h_7 => exact Json.unrepeated_of_kept (.number _) found
  case h_8 | h_9 => exact Json.unrepeated_of_kept (.bool _) found
  case h_10 => exact Json.unrepeated_of_kept window.body.unrepeated_toJson found
  case h_11 => cases found
  all_goals exact Json.unrepeated_of_kept (.string _) found

/-- What is written of a window at a key is what the window holds there. -/
theorem held_of_mem {window : Window} {key : String} {value : Json}
    (inside : (key, value) ∈ window.members) : window.held key = some value := by
  rw [← member?_members]
  exact Json.member?_of_mem window.distinct_members inside

/-- A window is written without any key twice. -/
theorem unrepeated_toJson (window : Window) : window.toJson.Unrepeated := by
  rw [toJson_eq]
  exact .object window.distinct_members fun member inside => unrepeated_held (held_of_mem inside)

/-- A window is laid out as it is declared. -/
theorem laidOut_toJson (window : Window) : LaidOut window.toJson := by
  rw [toJson_eq]
  refine .object window.keys_members ?_
  intro body inside
  have found : window.held "body" = some body := held_of_mem inside
  obtain ⟨-, same⟩ := Option.ite_none_left_eq_some.mp found
  obtain rfl := Option.some.inj same
  exact window.body.laidOut_toJson

end Window

/-- The client and the session write the same dialog. What the client hands to the renderer is the
text of the window with its fields in the order of their declaration and the properties behind
them, without any key twice; what the session hands over is one line with the text of the same
value, in which the members of every object are sorted. Of a window that is not valid neither
writes anything.

Proof: the keys of the fields are reserved, so no property repeats one of them, and with distinct
keys sorting keeps every member. Items are widgets again, and properties are sorted already. -/
theorem same_dialog_written (options : GlobalOptions) (window : Window) {session : Session}
    (awaited : session.feed = .awaited) :
    window.toJson.Unrepeated ∧ Window.LaidOut window.toJson ∧
      window.toJson.SortsTo window.toDocument.json ∧
      match window.validate with
      | .ok () =>
        options.showDialogEvents window =
            .exchange ⟨Command.stdin.args options, some window.toJson.compact⟩ eventsOf ∧
          session.HandsOver (.send window) (window.toDocument.json.compact ++ "\n")
      | .error error =>
        options.showDialogEvents window = .refuse (.invalidDialog error) ∧
          session.perform (.send window) =
            some (.handed (.error (.invalidDialog error)), session) := by
  refine ⟨window.unrepeated_toJson, window.laidOut_toJson, window.unrepeated_toJson.sortsTo, ?_⟩
  cases judged : window.validate with
  | ok =>
    have document : Session.Request.document? (.send window) = some window.toDocument.json := by
      simp only [Session.Request.document?, judged]
    exact ⟨by simp only [GlobalOptions.showDialogEvents, judged, GlobalOptions.send],
      Session.handsOver_of_awaited document awaited⟩
  | error error =>
    exact ⟨by simp only [GlobalOptions.showDialogEvents, judged],
      by simp only [Session.perform, Session.send, judged, Option.map_some]⟩

/-- A row of a button and a text. In the order of their declaration the keys are nowhere sorted. -/
def shuffledWindow : Window :=
  (Window.empty.withTitle "Keep?").withBody <|
    Widget.row
      [.widget ((Widget.button "ok" "Yes").withProperty "align" (Json.document (.string "left"))),
       .text "or not"]

/-- The text of the window in the order of declaration. -/
def shuffledText : String :=
  "\x7b\"type\":\"window\",\"title\":\"Keep?\",\"body\":\x7b\"type\":\"row\",\"items\":[" ++
    "\x7b\"id\":\"ok\",\"type\":\"button\",\"text\":\"Yes\",\"align\":\"left\"\x7d,\"or not\"" ++
    "]\x7d\x7d"

/-- The text of the window in the order of the keys. -/
def sortedText : String :=
  "\x7b\"body\":\x7b\"items\":[" ++
    "\x7b\"align\":\"left\",\"id\":\"ok\",\"text\":\"Yes\",\"type\":\"button\"\x7d,\"or not\"" ++
    "],\"type\":\"row\"\x7d,\"title\":\"Keep?\",\"type\":\"window\"\x7d"

/-- The row is written by a client in the one order, and in the other one in a session with a
renderer that never reads it. -/
theorem same_dialog_written_shuffled :
    (Session.start Session.deaf none true).feed = .awaited ∧
      shuffledWindow.toJson.SortsTo shuffledWindow.toDocument.json ∧
      GlobalOptions.showDialogEvents ⟨none, false⟩ shuffledWindow =
        .exchange ⟨["stdin"], some shuffledText⟩ eventsOf ∧
      (Session.start Session.deaf none true).HandsOver (.send shuffledWindow)
        (sortedText ++ "\n") := by
  have awaited : (Session.start Session.deaf none true).feed = .awaited := rfl
  have valid : shuffledWindow.validate = .ok () := rfl
  have declared : shuffledWindow.toJson.compact = shuffledText := by decide +kernel
  have ordered : shuffledWindow.toDocument.json.compact = sortedText := by decide +kernel
  obtain ⟨-, -, sorts, written⟩ := same_dialog_written ⟨none, false⟩ shuffledWindow awaited
  rw [valid, declared, ordered] at written
  exact ⟨awaited, sorts, written⟩

end Dialogs
