import Dialogs.Json.Basic

/-!
# Free-form properties

A widget has fields of its own, and beside them any number of free-form properties that the
renderer interprets. The keys of the fields, and the key `properties`, are reserved, so a property
can never stand where a field is expected. The bag holds its properties in increasing order of
their keys.

Main statements: after setting a free key its value is found there and every other key is as it
was; a reserved key cannot be set.
-/

namespace Dialogs

/-- The keys that no property may have. -/
def reservedKeys : List String :=
  ["id", "type", "title", "group", "text", "value", "width", "height", "enabled", "fill", "items",
   "properties"]

/-- The properties of a widget, in increasing order of their keys. -/
structure PropertyBag where
  entries : List (String × Json.Document)
  increasing : Json.Increasing entries
  free : ∀ entry ∈ entries, entry.1 ∉ reservedKeys

namespace PropertyBag

/-- No properties. -/
def empty : PropertyBag := ⟨[], List.Pairwise.nil, by simp⟩

/-- Whether there are no properties. -/
def isEmpty (bag : PropertyBag) : Bool := bag.entries.isEmpty

/-- The value of a property. -/
def get? (bag : PropertyBag) (key : String) : Option Json.Document :=
  (bag.entries.find? (·.1 == key)).map (·.2)

/-- The bag with a property set, unless its key is reserved. -/
def set? (bag : PropertyBag) (key : String) (value : Json.Document) : Option PropertyBag :=
  if reserved : key ∈ reservedKeys then none
  else some
    { entries := Json.insertMember key value bag.entries
      increasing := Json.increasing_insertMember key value bag.increasing
      free := by
        intro entry member
        rcases Json.mem_insertMember member with rfl | old
        · exact reserved
        · exact bag.free entry old }

/-- The bag with a property set. A reserved key changes nothing. -/
def set (bag : PropertyBag) (key : String) (value : Json.Document) : PropertyBag :=
  (bag.set? key value).getD bag

/-- The properties among members, of properties of one key the last. -/
def ofMembers (members : List (String × Json)) : PropertyBag :=
  members.foldl (fun bag member => bag.set member.1 member.2.document) empty

/-- The properties as members. -/
def toMembers (bag : PropertyBag) : List (String × Json) :=
  bag.entries.map fun (key, value) => (key, value.json)

/-- A reserved key cannot be set. -/
theorem set?_eq_none_iff (bag : PropertyBag) (key : String) (value : Json.Document) :
    bag.set? key value = none ↔ key ∈ reservedKeys := by
  unfold set?
  split <;> simp_all

/-- Looking up a key behind an insertion. -/
theorem find?_insertMember {α : Type} (key sought : String) (value : α)
    (members : List (String × α)) :
    ((Json.insertMember key value members).find? (·.1 == sought)).map (·.2) =
      if key = sought then some value else (members.find? (·.1 == sought)).map (·.2) := by
  induction members with
  | nil =>
    by_cases same : key = sought <;> simp [Json.insertMember, same]
  | cons head rest inductionHypothesis =>
    obtain ⟨other, held⟩ := head
    simp only [Json.insertMember]
    split
    · by_cases same : key = sought <;> simp [same]
    · split
      · rename_i equal
        subst equal
        by_cases same : key = sought <;> simp [same]
      · rename_i different
        by_cases here : other = sought
        · have apart : key ≠ sought := fun same => different (same.trans here.symm)
          simp [here, apart]
        · simp only [List.find?_cons, beq_eq_false_iff_ne.mpr here]
          exact inductionHypothesis

/-- After setting a free key its value is found there, and every other key is as it was. -/
theorem get?_set (bag : PropertyBag) {key : String} (free : key ∉ reservedKeys)
    (value : Json.Document) (sought : String) :
    (bag.set key value).get? sought = if key = sought then some value else bag.get? sought := by
  simp only [set, set?, free, dite_false, Option.getD_some, get?]
  exact find?_insertMember key sought value bag.entries

/-- Bags with the same entries are the same. -/
theorem ext {first second : PropertyBag} (same : first.entries = second.entries) :
    first = second := by
  cases first
  cases second
  cases same
  rfl

end PropertyBag

end Dialogs
