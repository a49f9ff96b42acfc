import Mathlib.Data.List.Nodup
import Mathlib.Logic.Function.Basic
import Dialogs.Widget.Properties

/-!
# Looking up members

An object is known by what it holds at each key. With every key once, neither the order of the
members nor sorting them changes what is found, and two lists in increasing order of their keys
are the same as soon as they hold the same at every key.

The laws do not look into the values, so they serve the members of an object as well as the
entries of a property bag. A repeated key is not covered: there sorting keeps the last member and
looking up finds the first.
-/

namespace Dialogs.Json

variable {α : Type}

/-- What is held at a key: the value of the first member with it. -/
def member? (key : String) (members : List (String × α)) : Option α :=
  (members.find? (·.1 == key)).map (·.2)

/-- No key occurs twice. -/
def Distinct (members : List (String × α)) : Prop := (members.map (·.1)).Nodup

/-- Keys are distinct when the first comes no more behind it and the others are distinct. -/
theorem distinct_cons {key : String} {value : α} {rest : List (String × α)} :
    Distinct ((key, value) :: rest) ↔ key ∉ rest.map (·.1) ∧ Distinct rest := by
  simp only [Distinct, List.map_cons, List.nodup_cons]

/-- Members whose keys have not been seen are still unseen behind a member with another key. -/
theorem unseen_cons {key : String} {rest : List (String × α)} {seen : List String}
    (apart : key ∉ rest.map (·.1)) (unseen : ∀ member ∈ rest, member.1 ∉ seen) :
    ∀ member ∈ rest, member.1 ∉ key :: seen := by
  intro member inside repeated
  rcases List.mem_cons.mp repeated with same | earlier
  · exact apart (same ▸ List.mem_map_of_mem (f := (·.1)) inside)
  · exact unseen member inside earlier

@[simp] theorem member?_nil (key : String) : member? key ([] : List (String × α)) = none := rfl

/-- The first member decides about its own key and no other. -/
theorem member?_cons (sought key : String) (value : α) (rest : List (String × α)) :
    member? sought ((key, value) :: rest) =
      if key = sought then some value else member? sought rest := by
  by_cases same : key = sought <;> simp [member?, same]

/-- A single member is held at its key. -/
@[simp] theorem member?_singleton (sought key : String) (value : α) :
    member? sought [(key, value)] = if sought = key then some value else none := by
  simp [member?_cons, eq_comm]

/-- In two lists of members the first is looked at first. -/
@[simp] theorem member?_append (sought : String) (first second : List (String × α)) :
    member? sought (first ++ second) = (member? sought first).or (member? sought second) := by
  induction first with
  | nil => simp
  | cons head rest inductionHypothesis =>
    obtain ⟨key, value⟩ := head
    simp only [List.cons_append, member?_cons]
    split
    · rfl
    · exact inductionHypothesis

/-- What is held at a key belongs to a member with that key. -/
theorem mem_of_member? {sought : String} {value : α} {members : List (String × α)}
    (found : member? sought members = some value) : (sought, value) ∈ members := by
  induction members with
  | nil => simp at found
  | cons head rest inductionHypothesis =>
    obtain ⟨key, held⟩ := head
    rw [member?_cons] at found
    split at found
    · rename_i same
      subst same
      obtain rfl := Option.some.inj found
      exact List.mem_cons_self
    · exact List.mem_cons_of_mem _ (inductionHypothesis found)

/-- Nothing is held at a key that no member has. -/
theorem member?_eq_none_iff {sought : String} {members : List (String × α)} :
    member? sought members = none ↔ sought ∉ members.map (·.1) := by
  induction members with
  | nil => simp
  | cons head rest inductionHypothesis =>
    obtain ⟨key, held⟩ := head
    rw [member?_cons]
    by_cases same : key = sought
    · simp [same]
    · have apart : sought ≠ key := fun equal => same equal.symm
      simp only [same, if_false, inductionHypothesis, List.map_cons, List.mem_cons, apart,
        false_or]

/-- With distinct keys every member is found. -/
theorem member?_of_mem {sought : String} {value : α} {members : List (String × α)}
    (distinct : Distinct members) (inside : (sought, value) ∈ members) :
    member? sought members = some value := by
  induction members with
  | nil => simp at inside
  | cons head rest inductionHypothesis =>
    obtain ⟨key, held⟩ := head
    obtain ⟨fresh, restDistinct⟩ := distinct_cons.mp distinct
    rw [member?_cons]
    rcases List.mem_cons.mp inside with same | later
    · obtain ⟨rfl, rfl⟩ := Prod.mk.inj same
      simp
    · have apart : key ≠ sought := by
        rintro rfl
        exact fresh (List.mem_map_of_mem (f := (·.1)) later)
      simp only [apart, if_false, inductionHypothesis restDistinct later]

/-- Putting the first of distinct members over what is held, and the rest over both, is putting
all members over what is held. -/
theorem holdings_cons {key : String} {value : α} {rest : List (String × α)}
    (held : String → Option α) (fresh : key ∉ rest.map (·.1)) :
    (fun sought => (member? sought rest).or (Function.update held key (some value) sought)) =
      fun sought => (member? sought ((key, value) :: rest)).or (held sought) := by
  funext sought
  rw [member?_cons]
  by_cases same : key = sought
  · subst same
    simp [member?_eq_none_iff.mpr fresh]
  · have apart : sought ≠ key := fun equal => same equal.symm
    simp [same, Function.update_of_ne apart]

/-- Changing the values of the members changes what is found in the same way. -/
theorem member?_map {β : Type} (change : α → β) (sought : String) (members : List (String × α)) :
    member? sought (members.map fun member => (member.1, change member.2)) =
      (member? sought members).map change := by
  induction members with
  | nil => rfl
  | cons head rest inductionHypothesis =>
    obtain ⟨key, held⟩ := head
    simp only [List.map_cons, member?_cons, inductionHypothesis]
    split <;> rfl

/-- Dropping or changing members by key and value, without renaming any, acts on what is found.
With a key twice the second member could take the place of a dropped first. -/
theorem member?_filterMap {β : Type} (change : String → α → Option β) (sought : String)
    {members : List (String × α)} (distinct : Distinct members) :
    member? sought (members.filterMap fun member => (change member.1 member.2).map (member.1, ·)) =
      (member? sought members).bind (change sought) := by
  induction members with
  | nil => rfl
  | cons head rest inductionHypothesis =>
    obtain ⟨key, held⟩ := head
    obtain ⟨fresh, restDistinct⟩ := distinct_cons.mp distinct
    have later := inductionHypothesis restDistinct
    by_cases same : key = sought
    · subst same
      have absent : member? key rest = none := member?_eq_none_iff.mpr fresh
      cases changed : change key held with
      | none => simp [changed, member?_cons, later, absent]
      | some value => simp [changed, member?_cons]
    · cases changed : change key held with
      | none => simp [changed, member?_cons, later, same]
      | some value => simp [changed, member?_cons, later, same]

/-- Members made for some of the keys of a list hold at each of these keys what was made for it. -/
theorem member?_filterMap_keys (make : String → Option α) (sought : String) {keys : List String}
    (distinct : keys.Nodup) :
    member? sought (keys.filterMap fun key => (make key).map (key, ·)) =
      if sought ∈ keys then make sought else none := by
  induction keys with
  | nil => rfl
  | cons key rest inductionHypothesis =>
    obtain ⟨fresh, restDistinct⟩ := List.nodup_cons.mp distinct
    have later := inductionHypothesis restDistinct
    by_cases same : key = sought
    · subst same
      cases made : make key with
      | none => simp [made, later, fresh]
      | some value => simp [made, member?_cons]
    · have apart : sought ≠ key := fun equal => same equal.symm
      cases made : make key with
      | none => simp [made, later, apart]
      | some value => simp [made, later, member?_cons, same, apart]

/-- Members made for some of the keys of an increasing list are in increasing order. -/
theorem increasing_filterMap_keys (make : String → Option α) {keys : List String}
    (ordered : keys.Pairwise (· < ·)) :
    Increasing (keys.filterMap fun key => (make key).map (key, ·)) := by
  refine List.Pairwise.filterMap _ ?_ ordered
  intro first second less left leftMade right rightMade
  obtain ⟨_, -, rfl⟩ := Option.map_eq_some_iff.mp leftMade
  obtain ⟨_, -, rfl⟩ := Option.map_eq_some_iff.mp rightMade
  exact less

/-- Members in increasing order have distinct keys. -/
theorem Increasing.distinct {members : List (String × α)} (ordered : Increasing members) :
    Distinct members := by
  have apart : members.Pairwise fun first second => first.1 ≠ second.1 := by
    refine List.Pairwise.imp ?_ ordered
    intro first second less same
    exact String.lt_irrefl _ (same ▸ less)
  simpa only [Distinct, List.Nodup, List.pairwise_map] using apart

/-- Inserting members one by one: each new key is found with its new value, and the others as
before. -/
theorem member?_foldl_insertMember (sought : String) {members : List (String × α)}
    (distinct : Distinct members) (start : List (String × α)) :
    member? sought
        (members.foldl (fun sorted member => insertMember member.1 member.2 sorted) start) =
      (member? sought members).or (member? sought start) := by
  induction members generalizing start with
  | nil => simp
  | cons head rest inductionHypothesis =>
    obtain ⟨key, held⟩ := head
    obtain ⟨fresh, restDistinct⟩ := distinct_cons.mp distinct
    have inserted : member? sought (insertMember key held start) =
        if key = sought then some held else member? sought start :=
      PropertyBag.find?_insertMember key sought held start
    rw [List.foldl_cons, inductionHypothesis restDistinct, inserted, member?_cons]
    by_cases same : key = sought
    · subst same
      simp [member?_eq_none_iff.mpr fresh]
    · simp [same]

/-- Sorting members with distinct keys changes nothing that is found. -/
theorem member?_sortMembers (sought : String) {members : List (String × α)}
    (distinct : Distinct members) :
    member? sought (sortMembers members) = member? sought members := by
  simp [sortMembers, member?_foldl_insertMember sought distinct]

/-- Members in increasing order are determined by what is held at each key. Both lists start with
the least of the keys, so they start with the same member, and the rest follows by induction. -/
theorem eq_of_member?_eq {first second : List (String × α)} (firstOrdered : Increasing first)
    (secondOrdered : Increasing second) (same : ∀ key, member? key first = member? key second) :
    first = second := by
  induction first generalizing second with
  | nil =>
    cases second with
    | nil => rfl
    | cons head rest =>
      obtain ⟨key, held⟩ := head
      have found := same key
      simp [member?_cons] at found
  | cons head rest inductionHypothesis =>
    obtain ⟨key, held⟩ := head
    cases second with
    | nil =>
      have found := same key
      simp [member?_cons] at found
    | cons other later =>
      obtain ⟨otherKey, otherHeld⟩ := other
      obtain ⟨above, restOrdered⟩ := List.pairwise_cons.mp firstOrdered
      obtain ⟨otherAbove, laterOrdered⟩ := List.pairwise_cons.mp secondOrdered
      have keys : key = otherKey := by
        by_contra different
        have here := same key
        have there := same otherKey
        have reversed : otherKey ≠ key := fun equal => different equal.symm
        rw [member?_cons, member?_cons, if_pos rfl, if_neg reversed] at here
        rw [member?_cons, member?_cons, if_pos rfl, if_neg different] at there
        have below : otherKey < key := otherAbove _ (mem_of_member? here.symm)
        have beyond : key < otherKey := above _ (mem_of_member? there)
        exact String.lt_irrefl _ (String.lt_trans below beyond)
      subst keys
      have values : held = otherHeld := by simpa [member?_cons] using same key
      subst values
      have rests : ∀ sought, member? sought rest = member? sought later := by
        intro sought
        by_cases reached : key = sought
        · subst reached
          have inRest : key ∉ rest.map (·.1) := (distinct_cons.mp firstOrdered.distinct).1
          have inLater : key ∉ later.map (·.1) := (distinct_cons.mp secondOrdered.distinct).1
          rw [member?_eq_none_iff.mpr inRest, member?_eq_none_iff.mpr inLater]
        · simpa [member?_cons, reached] using same sought
      rw [inductionHypothesis restOrdered laterOrdered rests]

/-- Sorting in depth keeps the keys in their order and sorts the value of each member. -/
theorem sortedMembers_eq_map (members : List (String × Json)) :
    sortedMembers members = members.map fun member => (member.1, member.2.sorted) := by
  induction members with
  | nil => rfl
  | cons head rest inductionHypothesis =>
    obtain ⟨key, held⟩ := head
    simp only [sortedMembers, sortedMember, inductionHypothesis, List.map_cons]

/-- What a sorted object holds at a key is the sorted value of what the object holds there. -/
theorem member?_sorted (sought : String) {members : List (String × Json)}
    (distinct : Distinct members) :
    member? sought (sortMembers (sortedMembers members)) =
      (member? sought members).map Json.sorted := by
  have keys : Distinct (sortedMembers members) := by
    simpa [Distinct, sortedMembers_eq_map, Function.comp_def] using distinct
  rw [member?_sortMembers sought keys, sortedMembers_eq_map, member?_map]

end Dialogs.Json
