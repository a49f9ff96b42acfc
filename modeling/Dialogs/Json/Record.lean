import Dialogs.Json.Decode

/-!
# Records

A record type is described by its fields, in the order in which they are declared. It can be
written as an object, whose members may come in any order, or as an array of the fields in order.
A field that is not required keeps the value of the initial record when it is absent. Members with
other keys are skipped, or refused by a strict record.
-/

namespace Dialogs.Json

/-- A field of a record of type `σ`: its key, and what reading its value does to the record. -/
structure Field (σ : Type) where
  key : String
  decode : Origin → Draft → Except Error (σ → σ)
  required : Bool

/-- The description of a record type `σ`. -/
structure Record (σ : Type) where
  name : String
  fields : List (Field σ)
  initial : σ
  strict : Bool

namespace Record

variable {σ : Type}

/-- The keys of the fields, in the order of declaration. -/
def keys (record : Record σ) : List String := record.fields.map (·.key)

/-- The field with a key. -/
def field? (record : Record σ) (key : String) : Option (Field σ) :=
  record.fields.find? (·.key == key)

/-- Fails with the first required field that has not been seen. -/
def checkMissing (record : Record σ) (seen : List String) : Except Error Unit :=
  match record.fields.find? fun field => field.required && !seen.contains field.key with
  | some field => .error (.missingField field.key)
  | none => .ok ()

/-- Decodes the members of an object into a record. `seen` are the keys of the fields that have
been read. -/
def ofMembers (record : Record σ) (origin : Origin) (ending : Option Fault) :
    (seen : List String) → (value : σ) → List (Except SyntaxError String × Draft) → Except Error σ
  | seen, value, [] => do
    Draft.checkEnd ending
    record.checkMissing seen
    return value
  | _, _, (.error cause, _) :: _ => .error (.malformed cause)
  | seen, value, (.ok key, held) :: rest =>
    match record.field? key with
    | some field =>
      if seen.contains key then .error (.duplicateField key)
      else do
        let set ← field.decode origin held
        record.ofMembers origin ending (key :: seen) (set value) rest
    | none =>
      if record.strict then .error (.unknownField key record.keys)
      else do
        held.skip
        record.ofMembers origin ending seen value rest

/-- The wording of a record that is written as an array. -/
def arrayShape (record : Record σ) : String :=
  "struct " ++ record.name ++ " with " ++ toString record.fields.length ++
    if record.fields.length = 1 then " element" else " elements"

/-- What is left of an array behind the last field: nothing, or a problem. In a text the array has
to close there, so only a missing bracket and a trailing comma keep their own name. -/
def checkLeftover (origin : Origin) (length : Nat) (rest : List Draft) (ending : Option Fault) :
    Except Error Unit :=
  match origin, rest, ending with
  | _, [], none => .ok ()
  | .value, _, _ => .error (.invalidLength length "fewer elements in array")
  | .text _, [], some ⟨.endInArray, _⟩ => .error (.malformed .endInArray)
  | .text _, [], some ⟨.trailingComma, _⟩ => .error (.malformed .trailingComma)
  | .text _, _, _ => .error (.malformed .trailingCharacters)

/-- Decodes the elements of an array into a record. `length` is the number of elements of the whole
array, and `index` the number of fields that have been read from it. -/
def ofElements (record : Record σ) (origin : Origin) (ending : Option Fault) (length : Nat) :
    (fields : List (Field σ)) → (index : Nat) → (value : σ) → List Draft → Except Error σ
  | [], _, value, rest => do
    checkLeftover origin length rest ending
    return value
  | field :: fields, index, value, [] => do
    Draft.checkEnd ending
    if field.required then .error (.invalidLength index record.arrayShape)
    else record.ofElements origin ending length fields (index + 1) value []
  | field :: fields, index, value, held :: rest => do
    let set ← field.decode origin held
    record.ofElements origin ending length fields (index + 1) (set value) rest

/-- Decodes a record. -/
def decode (record : Record σ) (origin : Origin) : Draft → Except Error σ
  | .object members ending => do
    let inner ← origin.enter
    record.ofMembers inner ending [] record.initial members
  | .array elements ending => do
    let inner ← origin.enter
    record.ofElements inner ending elements.length record.fields 0 record.initial elements
  | found => .error (found.mismatch ("struct " ++ record.name))

end Record

/-- A field that is read without regard to where it comes from. -/
def Field.plain {σ α : Type} (key : String) (required : Bool) (decode : Draft → Except Error α)
    (set : α → σ → σ) : Field σ :=
  { key, required, decode := fun _ held => (decode held).map set }

end Dialogs.Json
