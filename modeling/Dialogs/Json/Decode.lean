import Dialogs.Json.Draft
import Dialogs.Json.Error

/-!
# Decoding

Decoding walks a draft in the order of the text and stops at the first problem, be it a fault of
the text or a part of the wrong shape. What is wanted is read; the members that nobody asked for
are skipped. A text may nest arrays and objects only to a limited depth; a value may nest to any.

Main statements: reading the draft of a value gives the value, if there is room for its depth, and
skipping it never fails.
-/

namespace Dialogs.Json

/-- Where a draft comes from: a text, in which one level less than `room` may still be opened, or a
value. -/
inductive Origin where
  | text (room : Nat)
  | value
  deriving DecidableEq

/-- The nesting at which a text is refused. -/
def nestingLimit : Nat := 128

/-- The origin of the parts of an array or object. -/
def Origin.enter : Origin → Except Error Origin
  | .value => .ok .value
  | .text room => if room ≤ 1 then .error (.malformed .recursionLimit) else .ok (.text (room - 1))

/-- An origin in which as many levels as a value has may still be opened. -/
def Origin.Fits : Origin → Nat → Prop
  | .value, _ => True
  | .text room, levels => levels < room

mutual

/-- The number of arrays and objects around the innermost part of a value. -/
def depth : Json → Nat
  | .array elements => elementsDepth elements + 1
  | .object members => membersDepth members + 1
  | _ => 0

/-- The largest depth of the elements. -/
def elementsDepth : List Json → Nat
  | [] => 0
  | element :: rest => max element.depth (elementsDepth rest)

/-- The largest depth of the members. -/
def membersDepth : List (String × Json) → Nat
  | [] => 0
  | member :: rest => max (memberDepth member) (membersDepth rest)

/-- The depth of the member. -/
def memberDepth : String × Json → Nat
  | (_, value) => value.depth

end

namespace Draft

/-- The error of finding a draft where something else is expected. A broken scalar is noticed
first. -/
def mismatch (expected : String) : Draft → Error
  | .null => .invalidType .null expected
  | .bool value => .invalidType (.bool value) expected
  | .number value => .invalidType (.number value) expected
  | .string value => .invalidType (.string value) expected
  | .array _ _ => .invalidType .sequence expected
  | .object _ _ => .invalidType .map expected
  | .broken fault => .malformed fault.whenRead

/-- Reads a text. -/
def toText : Draft → Except Error String
  | .string value => .ok value
  | found => .error (found.mismatch "a string")

/-- Reads a truth value. -/
def toBool : Draft → Except Error Bool
  | .bool value => .ok value
  | found => .error (found.mismatch "a boolean")

/-- Reads an integer of the signed 64-bit range. -/
def toInt64 : Draft → Except Error Int64
  | .number (.integer value _ _) =>
    if value < 9223372036854775808 then .ok (Int64.ofInt value) else .error (.outOfRange value "i64")
  | found => .error (found.mismatch "i64")

/-- Reads an integer of the unsigned 64-bit range. -/
def toUInt64 : Draft → Except Error UInt64
  | .number (.integer value _ _) =>
    if 0 ≤ value then .ok (UInt64.ofNat value.toNat) else .error (.outOfRange value "u64")
  | found => .error (found.mismatch "u64")

/-- Reads a value that may be absent: nothing for a null. -/
def toOption {α : Type} (decode : Draft → Except Error α) : Draft → Except Error (Option α)
  | .null => .ok none
  | found => (decode found).map some

/-- Fails with the fault that stands in place of an end, if there is one. -/
def checkEnd : Option Fault → Except Error Unit
  | none => .ok ()
  | some fault => .error (.malformed fault.whenRead)

/-- Decodes the elements of an array, in order. -/
def toList {α : Type} (decode : Draft → Except Error α) (origin : Origin) :
    Draft → Except Error (List α)
  | .array elements ending => do
    discard origin.enter
    let decoded ← elements.mapM decode
    checkEnd ending
    return decoded
  | found => .error (found.mismatch "a sequence")

mutual

/-- Reads a draft as the value that it spells. -/
def toJson (origin : Origin) : Draft → Except Error Json
  | .null => .ok .null
  | .bool value => .ok (.bool value)
  | .number value => .ok (.number value)
  | .string value => .ok (.string value)
  | .array elements ending => do
    let inner ← origin.enter
    let values ← elementsToJson inner elements
    checkEnd ending
    return .array values
  | .object members ending => do
    let inner ← origin.enter
    let values ← membersToJson inner members
    checkEnd ending
    return .object values
  | .broken fault => .error (.malformed fault.whenRead)

/-- Reads elements as values. -/
def elementsToJson (origin : Origin) : List Draft → Except Error (List Json)
  | [] => .ok []
  | element :: rest => do
    let value ← element.toJson origin
    let values ← elementsToJson origin rest
    return value :: values

/-- Reads members as values with their keys. -/
def membersToJson (origin : Origin) :
    List (Except SyntaxError String × Draft) → Except Error (List (String × Json))
  | [] => .ok []
  | member :: rest => do
    let value ← memberToJson origin member
    let values ← membersToJson origin rest
    return value :: values

/-- Reads a member as a value with its key. -/
def memberToJson (origin : Origin) :
    Except SyntaxError String × Draft → Except Error (String × Json)
  | (.error cause, _) => .error (.malformed cause)
  | (.ok key, value) => do return (key, ← value.toJson origin)

end

mutual

/-- Skips a draft: fails where it cannot be skipped. -/
def skip : Draft → Except Error Unit
  | .array elements ending => do
    skipElements elements
    skipFault ending
  | .object members ending => do
    skipMembers members
    skipFault ending
  | .broken fault => skipFault (some fault)
  | _ => .ok ()

/-- Skips elements. -/
def skipElements : List Draft → Except Error Unit
  | [] => .ok ()
  | element :: rest => do
    element.skip
    skipElements rest

/-- Skips members. -/
def skipMembers : List (Except SyntaxError String × Draft) → Except Error Unit
  | [] => .ok ()
  | member :: rest => do
    skipMember member
    skipMembers rest

/-- Skips a member. -/
def skipMember : Except SyntaxError String × Draft → Except Error Unit
  | (_, value) => value.skip

/-- Fails with a fault that skipping notices. -/
def skipFault : Option Fault → Except Error Unit
  | some ⟨_, some cause⟩ => .error (.malformed cause)
  | _ => .ok ()

end

/-- An origin leaves room for the parts of what it has room for. -/
theorem enter_of_fits {origin : Origin} {levels : Nat} (fits : origin.Fits (levels + 1)) :
    ∃ inner, origin.enter = .ok inner ∧ inner.Fits levels := by
  cases origin with
  | value => exact ⟨.value, rfl, trivial⟩
  | text room =>
    have more : ¬ room ≤ 1 := Nat.not_le.mpr (Nat.lt_of_le_of_lt (Nat.le_add_left 1 levels) fits)
    exact ⟨.text (room - 1), if_neg more, Nat.lt_sub_of_add_lt fits⟩

/-- An origin has room for the deeper of two values when it has room for both. -/
theorem fits_max {origin : Origin} {first second : Nat} (fits : origin.Fits (max first second)) :
    origin.Fits first ∧ origin.Fits second := by
  cases origin with
  | value => exact ⟨trivial, trivial⟩
  | text room => exact Nat.max_lt.mp fits

mutual

/-- The draft of a value reads as the value, if the origin has room for it. -/
theorem toJson_draft_of_fits {origin : Origin} : (value : Json) → origin.Fits value.depth →
    value.draft.toJson origin = .ok value
  | .null, _ => rfl
  | .bool _, _ => rfl
  | .number _, _ => rfl
  | .string _, _ => rfl
  | .array elements, fits => by
    obtain ⟨inner, entered, inside⟩ := enter_of_fits fits
    simp [draft, toJson, entered, checkEnd, bind, Except.bind, pure, Except.pure,
      elementsToJson_drafts elements inside]
  | .object members, fits => by
    obtain ⟨inner, entered, inside⟩ := enter_of_fits fits
    simp [draft, toJson, entered, checkEnd, bind, Except.bind, pure, Except.pure,
      membersToJson_drafts members inside]

/-- The drafts of elements read as the elements. -/
theorem elementsToJson_drafts {origin : Origin} : (elements : List Json) →
    origin.Fits (elementsDepth elements) →
      elementsToJson origin (elementsDrafts elements) = .ok elements
  | [], _ => rfl
  | element :: rest, fits => by
    obtain ⟨here, later⟩ := fits_max fits
    simp [elementsDrafts, elementsToJson, bind, Except.bind, pure, Except.pure,
      toJson_draft_of_fits element here, elementsToJson_drafts rest later]

/-- The drafts of members read as the members. -/
theorem membersToJson_drafts {origin : Origin} : (members : List (String × Json)) →
    origin.Fits (membersDepth members) →
      membersToJson origin (membersDrafts members) = .ok members
  | [], _ => rfl
  | member :: rest, fits => by
    obtain ⟨here, later⟩ := fits_max fits
    simp [membersDrafts, membersToJson, bind, Except.bind, pure, Except.pure,
      memberToJson_draft member here, membersToJson_drafts rest later]

/-- The draft of a member reads as the member. -/
theorem memberToJson_draft {origin : Origin} : (member : String × Json) →
    origin.Fits (memberDepth member) →
      memberToJson origin (memberDraft member) = .ok member
  | (key, value), fits => by
    simp [memberDraft, memberToJson, bind, Except.bind, pure, Except.pure,
      toJson_draft_of_fits value fits]

end

/-- The draft of a value reads as the value. -/
theorem toJson_draft (value : Json) : value.draft.toJson .value = .ok value :=
  toJson_draft_of_fits value trivial

mutual

/-- The draft of a value can be skipped. -/
theorem skip_draft : (value : Json) → value.draft.skip = .ok ()
  | .null => rfl
  | .bool _ => rfl
  | .number _ => rfl
  | .string _ => rfl
  | .array elements => by
    simp [draft, skip, skipFault, bind, Except.bind, skipElements_drafts elements]
  | .object members => by
    simp [draft, skip, skipFault, bind, Except.bind, skipMembers_drafts members]

/-- The drafts of elements can be skipped. -/
theorem skipElements_drafts :
    (elements : List Json) → skipElements (elementsDrafts elements) = .ok ()
  | [] => rfl
  | element :: rest => by
    simp [elementsDrafts, skipElements, bind, Except.bind, skip_draft element,
      skipElements_drafts rest]

/-- The drafts of members can be skipped. -/
theorem skipMembers_drafts :
    (members : List (String × Json)) → skipMembers (membersDrafts members) = .ok ()
  | [] => rfl
  | member :: rest => by
    simp [membersDrafts, skipMembers, bind, Except.bind, skipMember_draft member,
      skipMembers_drafts rest]

/-- The draft of a member can be skipped. -/
theorem skipMember_draft :
    (member : String × Json) → skipMember (memberDraft member) = .ok ()
  | (_, value) => skip_draft value

end

end Draft

/-- Decodes a text: the document, and then nothing behind it. -/
def decodeText {α : Type} (decode : Origin → Draft → Except Error α) (text : String) :
    Except Error α := do
  let reading := read text
  let decoded ← decode (.text nestingLimit) reading.draft
  if reading.trailing then .error (.malformed .trailingCharacters) else .ok decoded

/-- Decodes a value. -/
def decodeValue {α : Type} (decode : Origin → Draft → Except Error α) (value : Json) :
    Except Error α :=
  decode .value value.draft

/-- Reads a draft as a document. -/
def Draft.toDocument (origin : Origin) (draft : Draft) : Except Error Document :=
  (draft.toJson origin).map Json.document

/-- Reads a text as a document. -/
def documentOfText (text : String) : Except Error Document := decodeText Draft.toDocument text

end Dialogs.Json
