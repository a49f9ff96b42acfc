import Dialogs.Proofs.Members
import Dialogs.Json.Record

/-!
# What an object says of a record

The members of an object are read into a record in the order in which they stand. A relation
between what is held at each key and the record, which each field keeps when it is read and which
other keys do not touch, therefore holds of the decoded record. Conversely an object whose members
can be read, and in which no required field is missing, does decode. The elements of an array are
read into the fields in their order, and each field has to get one.
-/

namespace Dialogs

namespace Json

variable {α : Type}

/-- A change of an outcome succeeds only on a success. -/
theorem ok_of_map {ε β : Type} {change : α → β} {outcome : Except ε α} {result : β}
    (mapped : outcome.map change = .ok result) :
    ∃ value, outcome = .ok value ∧ change value = result := by
  cases outcome with
  | error cause => simp [Except.map] at mapped
  | ok value => exact ⟨value, rfl, by simpa [Except.map] using mapped⟩

/-- A chain of steps succeeds only if its first step does, and then as the others do. -/
theorem ok_of_bind {ε β : Type} {next : α → Except ε β} {outcome : Except ε α} {result : β}
    (chained : (outcome >>= next) = .ok result) :
    ∃ value, outcome = .ok value ∧ next value = .ok result := by
  cases outcome with
  | error cause => simp [bind, Except.bind] at chained
  | ok value => exact ⟨value, rfl, chained⟩

/-- What a field has when `held` is the member at its key: what reading the member gives, or its
default without a member. -/
def Holds (read : Draft → Except Error α) (default : α) : Option Json → α → Prop
  | none, value => value = default
  | some found, value => read found.draft = .ok value

@[simp] theorem holds_none (read : Draft → Except Error α) (default value : α) :
    Holds read default none value ↔ value = default := Iff.rfl

@[simp] theorem holds_some (read : Draft → Except Error α) (default value : α) (found : Json) :
    Holds read default (some found) value ↔ read found.draft = .ok value := Iff.rfl

/-- A field has only one value under the same member. -/
theorem Holds.unique {read : Draft → Except Error α} {default first second : α}
    {held : Option Json} (left : Holds read default held first)
    (right : Holds read default held second) : first = second := by
  cases held with
  | none => exact left.trans right.symm
  | some found => exact Except.ok.inj (left.symm.trans right)

/-- A field whose key is present has the value that reading its member gives. -/
theorem Holds.of_present {read : Draft → Except Error α} {default value : α} {key : String}
    {members : List (String × Json)} (holds : Holds read default (member? key members) value)
    (present : key ∈ members.map (·.1)) :
    ∃ found, member? key members = some found ∧ read found.draft = .ok value := by
  cases shape : member? key members with
  | none => exact absurd present (member?_eq_none_iff.mp shape)
  | some found => exact ⟨found, rfl, by rwa [shape] at holds⟩

/-- Exactly a string reads as a text. -/
theorem toText_draft {value : Json} {text : String} :
    value.draft.toText = .ok text ↔ value = .string text := by
  cases value <;> simp [draft, Draft.toText]

/-- Exactly a truth value reads as one. -/
theorem toBool_draft {value : Json} {truth : Bool} :
    value.draft.toBool = .ok truth ↔ value = .bool truth := by
  cases value <;> simp [draft, Draft.toBool]

/-- Exactly an integer of the signed 64-bit range reads as one. The decoder checks only the upper
end of the range; the lower end is a bound of every integer of a document. -/
theorem toInt64_draft {value : Json} {integer : Int64} :
    value.draft.toInt64 = .ok integer ↔ value = .ofInt64 integer := by
  constructor
  · intro read
    cases value with
    | number found =>
      cases found with
      | integer held lower upper =>
        simp only [draft, Draft.toInt64] at read
        split at read
        · rename_i inRange
          obtain rfl := Except.ok.inj read
          have exact : (Int64.ofInt held).toInt = held := Int64.toInt_ofInt_of_le lower inRange
          simp only [ofInt64, Number.ofInt64, exact]
        · simp at read
      | double held => simp [draft, Draft.toInt64] at read
    | _ => simp [draft, Draft.toInt64] at read
  · rintro rfl
    have inRange : integer.toInt < 9223372036854775808 := Int64.toInt_lt integer
    simp [ofInt64, Number.ofInt64, draft, Draft.toInt64, inRange]

/-- What is not a null is present, and read as itself. -/
theorem Draft.toOption_of_ne_null {decode : Draft → Except Error α} {found : Draft}
    (present : found ≠ .null) : found.toOption decode = (decode found).map some := by
  cases found with
  | null => exact absurd rfl present
  | _ => rfl

namespace Record

variable {σ : Type} {record : Record σ} {seen : List String} {members : List (String × Json)}

/-- A relation that holds of the initial record, is kept by every field when a member is put at its
key, and does not depend on what is held at other keys. -/
structure Keeps (record : Record σ) (relation : (String → Option Json) → σ → Prop) : Prop where
  initial : relation (fun _ => none) record.initial
  field : ∀ field ∈ record.fields, ∀ held value set target,
    field.decode .value value.draft = .ok set → relation held target →
      relation (Function.update held field.key (some value)) (set target)
  other : ∀ key ∉ record.keys, ∀ held value target, relation held target →
    relation (Function.update held key (some value)) target

/-- Looking up a key of a field gives a field with that key. -/
theorem field?_eq_some {key : String} {field : Field σ} (found : record.field? key = some field) :
    field ∈ record.fields ∧ field.key = key :=
  ⟨List.mem_of_find?_eq_some found, by simpa using List.find?_some found⟩

/-- Looking up any other key gives nothing. -/
theorem field?_eq_none_iff {key : String} : record.field? key = none ↔ key ∉ record.keys := by
  simp [field?, keys]

/-- A kept relation holds of what is read from members with distinct keys. -/
theorem Keeps.walk {relation : (String → Option Json) → σ → Prop} (kept : record.Keeps relation)
    (distinct : Distinct members) {held : String → Option Json} {start result : σ}
    (related : relation held start)
    (read : record.ofMembers .value none seen start (membersDrafts members) = .ok result) :
    relation (fun sought => (member? sought members).or (held sought)) result := by
  induction members generalizing held seen start with
  | nil =>
    simp only [membersDrafts, ofMembers] at read
    obtain ⟨_, -, read⟩ := ok_of_bind read
    obtain ⟨_, -, same⟩ := ok_of_bind read
    obtain rfl := Except.ok.inj same
    simpa using related
  | cons head rest inductionHypothesis =>
    obtain ⟨key, value⟩ := head
    obtain ⟨fresh, restDistinct⟩ := distinct_cons.mp distinct
    rw [← holdings_cons held fresh]
    simp only [membersDrafts, memberDraft, ofMembers] at read
    split at read
    · rename_i field found
      obtain ⟨known, rfl⟩ := field?_eq_some found
      split at read
      · simp at read
      · obtain ⟨set, decoded, read⟩ := ok_of_bind read
        exact inductionHypothesis restDistinct
          (kept.field field known held value set start decoded related) read
    · rename_i unknown
      split at read
      · simp at read
      · obtain ⟨_, -, read⟩ := ok_of_bind read
        exact inductionHypothesis restDistinct
          (kept.other key (field?_eq_none_iff.mp unknown) held value start related) read

/-- A member of a field that has not been seen sets the field, and the walk goes on. -/
theorem ofMembers_field {origin : Origin} {ending : Option Fault} {key : String}
    {field : Field σ} {held : Draft} {set : σ → σ} (found : record.field? key = some field)
    (unseen : key ∉ seen) (decoded : field.decode origin held = .ok set) (start : σ)
    (rest : List (Except SyntaxError String × Draft)) :
    record.ofMembers origin ending seen start ((.ok key, held) :: rest) =
      record.ofMembers origin ending (key :: seen) (set start) rest := by
  simp only [ofMembers, found, List.contains_eq_mem, unseen, decide_false, Bool.false_eq_true,
    if_false, decoded]
  rfl

/-- Nothing is missing when every required field has been seen. -/
theorem checkMissing_of_present
    (present : ∀ field ∈ record.fields, field.required = true → field.key ∈ seen) :
    record.checkMissing seen = .ok () := by
  have complete : (record.fields.find? fun field => field.required && !seen.contains field.key) =
      none := by
    refine List.find?_eq_none.mpr ?_
    intro field inside
    by_cases required : field.required = true
    · simp [required, present field inside required]
    · simp [required]
  simp only [checkMissing, complete]

/-- Every required field has been seen when nothing is missing. -/
theorem present_of_checkMissing (complete : record.checkMissing seen = .ok ()) :
    ∀ field ∈ record.fields, field.required = true → field.key ∈ seen := by
  intro field inside required
  rw [checkMissing] at complete
  split at complete
  · cases complete
  · rename_i nothing
    simpa [required] using List.find?_eq_none.mp nothing field inside

/-- Members with distinct keys decode when those of fields can be read, a strict record has a field
for each of them, and the required fields are among them or have been seen before. -/
theorem ofMembers_ok (start : σ) (distinct : Distinct members)
    (fresh : ∀ member ∈ members, member.1 ∉ seen)
    (admitted : record.strict = true → ∀ member ∈ members, member.1 ∈ record.keys)
    (readable : ∀ member ∈ members, ∀ field, record.field? member.1 = some field →
      ∃ set, field.decode .value member.2.draft = .ok set)
    (present : ∀ field ∈ record.fields, field.required = true →
      field.key ∈ seen ∨ field.key ∈ members.map (·.1)) :
    ∃ result, record.ofMembers .value none seen start (membersDrafts members) = .ok result := by
  induction members generalizing seen start with
  | nil =>
    have complete : record.checkMissing seen = .ok () := by
      refine checkMissing_of_present fun field inside required => ?_
      simpa using present field inside required
    exact ⟨start, by simp only [membersDrafts, ofMembers, complete]; rfl⟩
  | cons head rest inductionHypothesis =>
    obtain ⟨key, value⟩ := head
    obtain ⟨first, restDistinct⟩ := distinct_cons.mp distinct
    have restAdmitted : record.strict = true → ∀ member ∈ rest, member.1 ∈ record.keys :=
      fun strict member inside => admitted strict member (List.mem_cons_of_mem _ inside)
    have restReadable : ∀ member ∈ rest, ∀ field, record.field? member.1 = some field →
        ∃ set, field.decode .value member.2.draft = .ok set :=
      fun member inside => readable member (List.mem_cons_of_mem _ inside)
    have unseen : key ∉ seen := fresh (key, value) List.mem_cons_self
    cases found : record.field? key with
    | some field =>
      obtain ⟨set, decoded⟩ := readable (key, value) List.mem_cons_self field found
      have restFresh : ∀ member ∈ rest, member.1 ∉ key :: seen :=
        unseen_cons first fun member inside => fresh member (List.mem_cons_of_mem _ inside)
      have restPresent : ∀ field ∈ record.fields, field.required = true →
          field.key ∈ key :: seen ∨ field.key ∈ rest.map (·.1) := by
        intro field inside required
        have somewhere := present field inside required
        simp only [List.map_cons, List.mem_cons] at somewhere ⊢
        tauto
      obtain ⟨result, read⟩ :=
        inductionHypothesis (set start) restDistinct restFresh restAdmitted restReadable restPresent
      refine ⟨result, ?_⟩
      rw [membersDrafts, memberDraft, ofMembers_field found unseen decoded]
      exact read
    | none =>
      have unknown : key ∉ record.keys := field?_eq_none_iff.mp found
      have lenient : record.strict = false := by
        by_contra strict
        exact unknown (admitted (by simpa using strict) (key, value) List.mem_cons_self)
      have restPresent : ∀ field ∈ record.fields, field.required = true →
          field.key ∈ seen ∨ field.key ∈ rest.map (·.1) := by
        intro field inside required
        have apart : field.key ≠ key := by
          rintro rfl
          exact unknown (List.mem_map_of_mem (f := (·.key)) inside)
        simpa [apart] using present field inside required
      obtain ⟨result, read⟩ := inductionHypothesis start restDistinct
        (fun member inside => fresh member (List.mem_cons_of_mem _ inside)) restAdmitted
        restReadable restPresent
      refine ⟨result, ?_⟩
      simp only [membersDrafts, memberDraft, ofMembers, found, lenient, Bool.false_eq_true,
        if_false, Draft.skip_draft]
      exact read

/-- Members that decode can be read, each at the field with its key. A strict record has a field for
each of them, and the required fields are among them or have been seen before. -/
theorem conditions_of_ofMembers {start result : σ}
    (read : record.ofMembers .value none seen start (membersDrafts members) = .ok result) :
    (record.strict = true → ∀ member ∈ members, member.1 ∈ record.keys) ∧
      (∀ member ∈ members, ∀ field, record.field? member.1 = some field →
        ∃ set, field.decode .value member.2.draft = .ok set) ∧
      ∀ field ∈ record.fields, field.required = true →
        field.key ∈ seen ∨ field.key ∈ members.map (·.1) := by
  induction members generalizing seen start with
  | nil =>
    simp only [membersDrafts, ofMembers] at read
    obtain ⟨_, -, read⟩ := ok_of_bind read
    obtain ⟨_, complete, -⟩ := ok_of_bind read
    refine ⟨by simp, by simp, fun field inside required => .inl ?_⟩
    exact present_of_checkMissing complete field inside required
  | cons head rest inductionHypothesis =>
    obtain ⟨key, value⟩ := head
    simp only [membersDrafts, memberDraft, ofMembers] at read
    simp only [List.forall_mem_cons, List.map_cons]
    split at read
    · rename_i field found
      obtain ⟨inside, rfl⟩ := field?_eq_some found
      split at read
      · cases read
      · obtain ⟨set, decoded, read⟩ := ok_of_bind read
        obtain ⟨admitted, readable, present⟩ := inductionHypothesis read
        refine ⟨fun strict => ⟨List.mem_map_of_mem inside, admitted strict⟩,
          ⟨fun other known => ?_, readable⟩, fun other known required => ?_⟩
        · obtain rfl := Option.some.inj (found.symm.trans known)
          exact ⟨set, decoded⟩
        · have somewhere := present other known required
          simp only [List.mem_cons] at somewhere ⊢
          tauto
    · rename_i unknown
      split at read
      · cases read
      · rename_i lenient
        obtain ⟨_, -, read⟩ := ok_of_bind read
        obtain ⟨-, readable, present⟩ := inductionHypothesis read
        refine ⟨fun strict => absurd strict lenient, ⟨fun other known => ?_, readable⟩,
          fun other known required => ?_⟩
        · cases unknown.symm.trans known
        · exact (present other known required).imp_right (List.mem_cons_of_mem _)

/-- Members that decode can be read, each at the field with its key. -/
theorem readable_of_ofMembers {start result : σ}
    (read : record.ofMembers .value none seen start (membersDrafts members) = .ok result) :
    ∀ member ∈ members, ∀ field, record.field? member.1 = some field →
      ∃ set, field.decode .value member.2.draft = .ok set :=
  (conditions_of_ofMembers read).2.1

/-- Members that decode as a strict record without optional fields have exactly the keys of its
fields. -/
theorem keys_of_ofMembers {start result : σ} (strict : record.strict = true)
    (required : ∀ field ∈ record.fields, field.required = true)
    (read : record.ofMembers .value none [] start (membersDrafts members) = .ok result)
    (key : String) : key ∈ members.map (·.1) ↔ key ∈ record.keys := by
  obtain ⟨admitted, -, present⟩ := conditions_of_ofMembers read
  constructor
  · intro inside
    obtain ⟨member, listed, rfl⟩ := List.mem_map.mp inside
    exact admitted strict member listed
  · intro inside
    obtain ⟨field, listed, rfl⟩ := List.mem_map.mp inside
    exact (present field listed (required field listed)).resolve_left List.not_mem_nil

/-- A relation that says as which record an object is read: each field keeps it, it holds of one
record only, and a member of a field of which it speaks can be read. -/
structure Determines (record : Record σ) (relation : (String → Option Json) → σ → Prop) : Prop
    extends record.Keeps relation where
  unique : ∀ held first second, relation held first → relation held second → first = second
  readable : ∀ held value, relation held value → ∀ field ∈ record.fields, ∀ found,
    held field.key = some found → ∃ set, field.decode .value found.draft = .ok set

/-- An object decodes as exactly the record that it determines, as long as there is a member for
each required field, and in a strict record a field for each member. -/
theorem Determines.decode_object_iff {relation : (String → Option Json) → σ → Prop} {value : σ}
    (determines : record.Determines relation) (distinct : Distinct members) :
    decodeValue record.decode (.object members) = .ok value ↔
      relation (fun key => member? key members) value ∧
        (record.strict = true → ∀ member ∈ members, member.1 ∈ record.keys) ∧
        ∀ field ∈ record.fields, field.required = true → field.key ∈ members.map (·.1) := by
  have related : ∀ {result}, decodeValue record.decode (.object members) = .ok result →
      relation (fun key => member? key members) result := by
    intro result decoded
    simpa using determines.walk distinct determines.initial decoded
  constructor
  · intro decoded
    obtain ⟨admitted, -, present⟩ := conditions_of_ofMembers decoded
    exact ⟨related decoded, admitted, by simpa using present⟩
  · rintro ⟨determined, admitted, present⟩
    obtain ⟨result, decoded⟩ : ∃ result,
        decodeValue record.decode (.object members) = .ok result := by
      refine ofMembers_ok record.initial distinct (fun _ _ => List.not_mem_nil) admitted ?_ ?_
      · rintro ⟨key, found⟩ inside field known
        obtain ⟨inRecord, rfl⟩ := field?_eq_some known
        exact determines.readable _ _ determined field inRecord found
          (member?_of_mem distinct inside)
      · exact fun field inRecord required => .inr (present field inRecord required)
    rw [decoded, determines.unique _ _ _ (related decoded) determined]

/-- The elements of an array fill fields in their order, each element one field. -/
inductive Fills : List (Field σ) → List Json → σ → σ → Prop where
  | done (value : σ) : Fills [] [] value value
  | field {field : Field σ} {fields : List (Field σ)} {element : Json} {elements : List Json}
    {set : σ → σ} {start result : σ} (decoded : field.decode .value element.draft = .ok set)
    (later : Fills fields elements (set start) result) :
    Fills (field :: fields) (element :: elements) start result

/-- Elements are read into required fields exactly if they fill them. -/
theorem ofElements_eq_ok_iff {fields : List (Field σ)} {length index : Nat} {start result : σ}
    {elements : List Json} (required : ∀ field ∈ fields, field.required = true) :
    record.ofElements .value none length fields index start (elementsDrafts elements) =
      .ok result ↔ Fills fields elements start result := by
  induction fields generalizing elements index start with
  | nil =>
    cases elements with
    | nil =>
      constructor
      · intro read
        obtain rfl : start = result := Except.ok.inj read
        exact .done start
      · rintro ⟨-⟩
        rfl
    | cons element elements => exact ⟨fun read => (by cases read), fun fills => (by cases fills)⟩
  | cons field fields inductionHypothesis =>
    obtain ⟨here, later⟩ := List.forall_mem_cons.mp required
    cases elements with
    | nil =>
      constructor
      · intro read
        obtain ⟨_, -, read⟩ := ok_of_bind read
        -- A required field is left without an element.
        rw [if_pos here] at read
        cases read
      · rintro ⟨-⟩
    | cons element elements =>
      rw [elementsDrafts, ofElements]
      constructor
      · intro read
        obtain ⟨set, decoded, read⟩ := ok_of_bind read
        exact .field decoded ((inductionHypothesis later).mp read)
      · intro fills
        cases fills with
        | field decoded rest =>
          rw [decoded]
          exact (inductionHypothesis later).mpr rest

/-- An array decodes as a record without optional fields exactly if its elements fill the fields. -/
theorem decode_array_iff {elements : List Json} {result : σ}
    (required : ∀ field ∈ record.fields, field.required = true) :
    decodeValue record.decode (.array elements) = .ok result ↔
      Fills record.fields elements record.initial result :=
  ofElements_eq_ok_iff required

/-! ### Invariants

What the initial record has and every field keeps, every decoded record has, from whatever draft it
is read: an object or an array, of a value or of a text. -/

/-- An invariant of a record: the initial record has it, and setting a field keeps it. -/
structure Preserves (record : Record σ) (invariant : σ → Prop) : Prop where
  initial : invariant record.initial
  field : ∀ field ∈ record.fields, ∀ origin held set target,
    field.decode origin held = .ok set → invariant target → invariant (set target)

variable {invariant : σ → Prop} {origin : Origin} {ending : Option Fault} {result : σ}

/-- Members keep an invariant. -/
theorem Preserves.ofMembers (preserved : record.Preserves invariant)
    {drafts : List (Except SyntaxError String × Draft)} {start : σ} (before : invariant start)
    (read : record.ofMembers origin ending seen start drafts = .ok result) : invariant result := by
  induction drafts generalizing seen start with
  | nil =>
    obtain ⟨_, -, read⟩ := ok_of_bind read
    obtain ⟨_, -, same⟩ := ok_of_bind read
    obtain rfl := Except.ok.inj same
    exact before
  | cons head rest inductionHypothesis =>
    obtain ⟨key | key, held⟩ := head
    · cases read
    · simp only [Record.ofMembers] at read
      split at read
      · rename_i field found
        split at read
        · cases read
        · obtain ⟨set, decoded, read⟩ := ok_of_bind read
          have inside := (field?_eq_some found).1
          exact inductionHypothesis (preserved.field field inside _ _ _ _ decoded before) read
      · split at read
        · cases read
        · obtain ⟨_, -, read⟩ := ok_of_bind read
          exact inductionHypothesis before read

/-- Elements keep an invariant. -/
theorem Preserves.ofElements (preserved : record.Preserves invariant) {length index : Nat}
    {fields : List (Field σ)} (known : fields ⊆ record.fields) {drafts : List Draft} {start : σ}
    (before : invariant start)
    (read : record.ofElements origin ending length fields index start drafts = .ok result) :
    invariant result := by
  induction fields generalizing index start drafts with
  | nil =>
    obtain ⟨_, -, same⟩ := ok_of_bind read
    obtain rfl := Except.ok.inj same
    exact before
  | cons field fields inductionHypothesis =>
    obtain ⟨inside, others⟩ := List.cons_subset.mp known
    cases drafts with
    | nil =>
      obtain ⟨_, -, read⟩ := ok_of_bind read
      split at read
      · cases read
      · exact inductionHypothesis others before read
    | cons held rest =>
      obtain ⟨set, decoded, read⟩ := ok_of_bind read
      exact inductionHypothesis others (preserved.field field inside _ _ _ _ decoded before) read

/-- A decoded record has every invariant. -/
theorem Preserves.decode (preserved : record.Preserves invariant) {draft : Draft}
    (read : record.decode origin draft = .ok result) : invariant result := by
  cases draft with
  | object members ending =>
    obtain ⟨_, -, read⟩ := ok_of_bind read
    exact preserved.ofMembers preserved.initial read
  | array elements ending =>
    obtain ⟨_, -, read⟩ := ok_of_bind read
    exact preserved.ofElements (List.Subset.refl _) preserved.initial read
  | _ => cases read

end Record

end Json

end Dialogs
