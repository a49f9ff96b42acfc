import Dialogs.Decimal.Double

/-!
# JSON values

A JSON value with its object members in the order in which they are written. `Json.sorted` gives
every object, at every depth, its members in increasing order of their keys, each key once; a
`Document` is a value in that form, which is how a value is held when the order of its members
carries no meaning.

Main statements: sorting yields a sorted value, and a sorted value is left alone.
-/

namespace Dialogs

/-- A JSON number: an integer of the signed or unsigned 64-bit range, or a double. -/
inductive Json.Number where
  | integer (value : Int) (lower : -9223372036854775808 ≤ value)
    (upper : value < 18446744073709551616)
  | double (value : Double)
  deriving DecidableEq, Repr

/-- A JSON value. -/
inductive Json where
  | null
  | bool (value : Bool)
  | number (value : Json.Number)
  | string (value : String)
  | array (elements : List Json)
  | object (members : List (String × Json))
  deriving Repr

namespace Json

/-- The number of a signed 64-bit word. -/
def Number.ofInt64 (value : Int64) : Number :=
  .integer value.toInt (Int64.le_toInt value) (by have := Int64.toInt_lt value; omega)

/-- The number of an unsigned 64-bit word. -/
def Number.ofUInt64 (value : UInt64) : Number :=
  .integer value.toNat (by omega) (by have := UInt64.toNat_lt value; omega)

/-- The value of a signed 64-bit word. -/
def ofInt64 (value : Int64) : Json := .number (.ofInt64 value)

/-- The value of an unsigned 64-bit word. -/
def ofUInt64 (value : UInt64) : Json := .number (.ofUInt64 value)

/-- The name of a value's type, as messages use it. -/
def typeName : Json → String
  | .null => "null"
  | .bool _ => "boolean"
  | .number _ => "number"
  | .string _ => "string"
  | .array _ => "array"
  | .object _ => "object"

/-- Whether the value is an object. -/
def isObject : Json → Bool
  | .object _ => true
  | _ => false

/-- The members with `key` set to `value`, in increasing order of the keys if they were before.
An earlier member of that key is replaced. -/
def insertMember {α : Type} (key : String) (value : α) : List (String × α) → List (String × α)
  | [] => [(key, value)]
  | (other, held) :: rest =>
    if key < other then (key, value) :: (other, held) :: rest
    else if key = other then (key, value) :: rest
    else (other, held) :: insertMember key value rest

/-- The members in increasing order of their keys; of members of one key the last. -/
def sortMembers {α : Type} (members : List (String × α)) : List (String × α) :=
  members.foldl (fun sorted member => insertMember member.1 member.2 sorted) []

mutual

/-- The value with the members of every object in increasing order of their keys, each key
once. -/
def sorted : Json → Json
  | .array elements => .array (sortedElements elements)
  | .object members => .object (sortMembers (sortedMembers members))
  | value => value

/-- Every element sorted. -/
def sortedElements : List Json → List Json
  | [] => []
  | element :: rest => element.sorted :: sortedElements rest

/-- Every member with its value sorted, in the same order. -/
def sortedMembers : List (String × Json) → List (String × Json)
  | [] => []
  | member :: rest => sortedMember member :: sortedMembers rest

/-- A member with its value sorted. -/
def sortedMember : String × Json → String × Json
  | (key, value) => (key, value.sorted)

end

/-- Members in strictly increasing order of their keys. -/
def Increasing {α : Type} (members : List (String × α)) : Prop :=
  members.Pairwise fun a b => a.1 < b.1

mutual

/-- Every object in the value has its members in strictly increasing order of their keys. -/
def IsSorted : Json → Prop
  | .array elements => ElementsSorted elements
  | .object members => Increasing members ∧ MembersSorted members
  | _ => True

/-- Every element is sorted. -/
def ElementsSorted : List Json → Prop
  | [] => True
  | element :: rest => element.IsSorted ∧ ElementsSorted rest

/-- The value of every member is sorted. -/
def MembersSorted : List (String × Json) → Prop
  | [] => True
  | member :: rest => MemberSorted member ∧ MembersSorted rest

/-- The value of the member is sorted. -/
def MemberSorted : String × Json → Prop
  | (_, value) => value.IsSorted

end

/-- The keys after an insertion are the new key and the old ones. -/
theorem mem_insertMember {α : Type} {key : String} {value : α} {members : List (String × α)}
    {found : String × α} (member : found ∈ insertMember key value members) :
    found = (key, value) ∨ found ∈ members := by
  induction members with
  | nil => simpa [insertMember] using member
  | cons head rest inductionHypothesis =>
    obtain ⟨other, held⟩ := head
    simp only [insertMember] at member
    split at member
    · simpa using member
    · split at member
      · rcases List.mem_cons.mp member with same | later
        · exact .inl same
        · exact .inr (List.mem_cons_of_mem _ later)
      · rcases List.mem_cons.mp member with same | later
        · exact .inr (by simp [same])
        · rcases inductionHypothesis later with same | old
          · exact .inl same
          · exact .inr (List.mem_cons_of_mem _ old)

/-- Insertion keeps the keys strictly increasing. -/
theorem increasing_insertMember {α : Type} (key : String) (value : α)
    {members : List (String × α)} (ordered : Increasing members) :
    Increasing (insertMember key value members) := by
  induction members with
  | nil => simp [insertMember, Increasing]
  | cons head rest inductionHypothesis =>
    obtain ⟨other, held⟩ := head
    obtain ⟨above, tail⟩ := List.pairwise_cons.mp ordered
    simp only [insertMember]
    split
    · rename_i less
      refine List.pairwise_cons.mpr ⟨?_, ordered⟩
      intro found member
      rcases List.mem_cons.mp member with rfl | later
      · exact less
      · exact String.lt_trans less (above found later)
    · rename_i notLess
      split
      · rename_i same
        subst same
        exact List.pairwise_cons.mpr ⟨above, tail⟩
      · rename_i different
        refine List.pairwise_cons.mpr ⟨?_, inductionHypothesis tail⟩
        intro found member
        rcases mem_insertMember member with rfl | old
        · refine Decidable.byContradiction fun notBelow => different ?_
          exact String.le_antisymm (String.not_lt.mp notBelow) (String.not_lt.mp notLess)
        · exact above found old

/-- Inserting a key above all others puts its member at the end. -/
theorem insertMember_of_above {α : Type} {key : String} {value : α}
    {members : List (String × α)} (above : ∀ member ∈ members, member.1 < key) :
    insertMember key value members = members ++ [(key, value)] := by
  induction members with
  | nil => rfl
  | cons head rest inductionHypothesis =>
    obtain ⟨other, held⟩ := head
    have less : other < key := above (other, held) (by simp)
    have notLess : ¬ key < other := fun more => String.lt_irrefl _ (String.lt_trans less more)
    have different : key ≠ other := fun same => String.lt_irrefl _ (same ▸ less)
    simp [insertMember, notLess, different,
      inductionHypothesis fun member inside => above member (List.mem_cons_of_mem _ inside)]

/-- What the sorted members hold comes from the members. -/
theorem mem_foldl_insertMember {α : Type} {members start : List (String × α)}
    {found : String × α}
    (member : found ∈
      members.foldl (fun sorted member => insertMember member.1 member.2 sorted) start) :
    found ∈ start ∨ found ∈ members := by
  induction members generalizing start with
  | nil => exact .inl member
  | cons head rest inductionHypothesis =>
    rcases inductionHypothesis member with early | late
    · rcases mem_insertMember early with same | old
      · exact .inr (by simp [same])
      · exact .inl old
    · exact .inr (List.mem_cons_of_mem _ late)

/-- Sorted members are among the members. -/
theorem mem_of_mem_sortMembers {α : Type} {members : List (String × α)} {found : String × α}
    (member : found ∈ sortMembers members) : found ∈ members := by
  simpa using mem_foldl_insertMember member

/-- Sorting puts the keys in strictly increasing order. -/
theorem increasing_sortMembers {α : Type} (members : List (String × α)) :
    Increasing (sortMembers members) := by
  have general : ∀ (rest start : List (String × α)), Increasing start →
      Increasing (rest.foldl (fun sorted member => insertMember member.1 member.2 sorted) start) := by
    intro rest
    induction rest with
    | nil => exact fun _ ordered => ordered
    | cons head rest inductionHypothesis =>
      exact fun start ordered => inductionHypothesis _ (increasing_insertMember _ _ ordered)
  exact general members [] List.Pairwise.nil

/-- Members in strictly increasing order are left alone. -/
theorem sortMembers_of_increasing {α : Type} {members : List (String × α)}
    (ordered : Increasing members) : sortMembers members = members := by
  have general : ∀ (rest start : List (String × α)), Increasing (start ++ rest) →
      rest.foldl (fun sorted member => insertMember member.1 member.2 sorted) start =
        start ++ rest := by
    intro rest
    induction rest with
    | nil => simp
    | cons head rest inductionHypothesis =>
      intro start ordered
      have above : ∀ member ∈ start, member.1 < head.1 := fun member inside =>
        (List.pairwise_append.mp ordered).2.2 member inside head (by simp)
      rw [List.foldl_cons, insertMember_of_above above]
      have regrouped : start ++ head :: rest = (start ++ [head]) ++ rest := by simp
      rw [regrouped] at ordered ⊢
      exact inductionHypothesis _ ordered
  simpa [sortMembers] using general members [] (by simpa using ordered)

/-- A list of members is sorted in depth when each of its members is. -/
theorem membersSorted_iff {members : List (String × Json)} :
    MembersSorted members ↔ ∀ member ∈ members, member.2.IsSorted := by
  induction members with
  | nil => simp [MembersSorted]
  | cons head rest inductionHypothesis =>
    obtain ⟨key, value⟩ := head
    simp [MembersSorted, MemberSorted, inductionHypothesis]

mutual

/-- Sorting yields a sorted value. -/
theorem isSorted_sorted : (value : Json) → value.sorted.IsSorted
  | .array elements => by
    simpa [sorted, IsSorted] using elementsSorted_sortedElements elements
  | .object members => by
    refine ⟨increasing_sortMembers _, membersSorted_iff.mpr fun member inside => ?_⟩
    exact membersSorted_iff.mp (membersSorted_sortedMembers members) member
      (mem_of_mem_sortMembers inside)
  | .null => trivial
  | .bool _ => trivial
  | .number _ => trivial
  | .string _ => trivial

/-- Sorting elements yields sorted elements. -/
theorem elementsSorted_sortedElements :
    (elements : List Json) → ElementsSorted (sortedElements elements)
  | [] => trivial
  | element :: rest => ⟨isSorted_sorted element, elementsSorted_sortedElements rest⟩

/-- Sorting members yields members of sorted values. -/
theorem membersSorted_sortedMembers :
    (members : List (String × Json)) → MembersSorted (sortedMembers members)
  | [] => trivial
  | member :: rest => ⟨memberSorted_sortedMember member, membersSorted_sortedMembers rest⟩

/-- Sorting a member yields a member of sorted value. -/
theorem memberSorted_sortedMember :
    (member : String × Json) → MemberSorted (sortedMember member)
  | (_, value) => isSorted_sorted value

end

mutual

/-- A sorted value is left alone. -/
theorem sorted_of_isSorted : (value : Json) → value.IsSorted → value.sorted = value
  | .array elements, inside => by
    simp only [sorted, sortedElements_of_elementsSorted elements inside]
  | .object members, inside => by
    simp only [sorted, sortedMembers_of_membersSorted members inside.2,
      sortMembers_of_increasing inside.1]
  | .null, _ => rfl
  | .bool _, _ => rfl
  | .number _, _ => rfl
  | .string _, _ => rfl

/-- Sorted elements are left alone. -/
theorem sortedElements_of_elementsSorted :
    (elements : List Json) → ElementsSorted elements → sortedElements elements = elements
  | [], _ => rfl
  | element :: rest, inside => by
    simp only [sortedElements, sorted_of_isSorted element inside.1,
      sortedElements_of_elementsSorted rest inside.2]

/-- Members of sorted values are left alone. -/
theorem sortedMembers_of_membersSorted :
    (members : List (String × Json)) → MembersSorted members → sortedMembers members = members
  | [], _ => rfl
  | member :: rest, inside => by
    simp only [sortedMembers, sortedMember_of_memberSorted member inside.1,
      sortedMembers_of_membersSorted rest inside.2]

/-- A member of sorted value is left alone. -/
theorem sortedMember_of_memberSorted :
    (member : String × Json) → MemberSorted member → sortedMember member = member
  | (key, value), inside => by
    simp only [sortedMember, sorted_of_isSorted value inside]

end

/-- A value whose order of members carries no meaning: every object has its members in increasing
order of their keys, each key once. -/
structure Document where
  json : Json
  isSorted : json.IsSorted

/-- The document of a value. -/
def document (value : Json) : Document := ⟨value.sorted, isSorted_sorted value⟩

/-- A document is the document of its own value. -/
theorem document_json (held : Document) : held.json.document = held := by
  obtain ⟨value, ordered⟩ := held
  simp [document, sorted_of_isSorted value ordered]

end Json

end Dialogs
