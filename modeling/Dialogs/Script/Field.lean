import Dialogs.Script.Pattern

/-!
# Fields of a script

What a word expands to is cut into fields where an expansion that was not quoted has a separator.
Bytes remember whether they were quoted, for the patterns that are made of them.
-/

namespace Dialogs.Script

/-- A piece of what a word expands to. -/
inductive Bit where
  /-- A byte; it `splits` if it comes from an expansion that was not quoted. -/
  | byte (value : UInt8) (quoted splits : Bool)
  /-- One field ends here and another begins. -/
  | border
  /-- There is a field, even if it stays empty. -/
  | present
  deriving DecidableEq, Repr

namespace Bit

/-- The bytes of a text. -/
def ofText (quoted splits : Bool) (text : List UInt8) : List Bit :=
  text.map fun value => .byte value quoted splits

/-- The bytes of a value. -/
def ofValue (quoted : Bool) (value : List UInt8) : List Bit :=
  if quoted then .present :: ofText true false value else ofText false true value

/-- The bytes with the knowledge whether they were quoted; a border becomes a blank. -/
def marked (bits : List Bit) : List (UInt8 × Bool) :=
  bits.filterMap fun bit =>
    match bit with
    | .byte value quoted _ => some (value, quoted)
    | .border => some (32, true)
    | .present => none

/-- The bytes alone. -/
def text (bits : List Bit) : List UInt8 := (marked bits).map Prod.fst

/-- Lets unquoted bytes split as those of an expansion do. -/
def splitting (bits : List Bit) : List Bit :=
  bits.map fun bit =>
    match bit with
    | .byte value false _ => .byte value false true
    | bit => bit

end Bit

/-- The separators when a script sets none. -/
def standardSeparators : List UInt8 := [32, 9, 10]

/-- Fields that have been read, in reverse, and the field that is begun. -/
structure Fields where
  done : List (List UInt8) := []
  begun : Option (List UInt8) := none
  /-- Whether a blank has just ended a field. -/
  afterBlank : Bool := false

namespace Fields

/-- Ends the field that is begun, if there is one. -/
def close (fields : Fields) : Fields :=
  match fields.begun with
  | some field => { done := field.reverse :: fields.done, begun := none }
  | none => fields

/-- Adds a piece. -/
def add (separators : List UInt8) (fields : Fields) : Bit → Fields
  | .border => fields.close
  | .present => { fields with begun := some (fields.begun.getD []), afterBlank := false }
  | .byte value _ splits =>
    if splits && separators.contains value then
      if standardSeparators.contains value then
        match fields.begun with
        | some _ => { fields.close with afterBlank := true }
        | none => fields
      else if fields.afterBlank then { fields with afterBlank := false }
      else { done := (fields.begun.getD []).reverse :: fields.done, begun := none }
    else { fields with begun := some (value :: fields.begun.getD []), afterBlank := false }

/-- The fields of what a word expands to. -/
def ofBits (separators : List UInt8) (bits : List Bit) : List (List UInt8) :=
  (bits.foldl (add separators) {}).close.done.reverse

end Fields

/-- The bytes of a line with the knowledge whether a backslash stood in front, and whether a
backslash at the end joins the next line to it. -/
def unslash (read : List (UInt8 × Bool)) : List UInt8 → List (UInt8 × Bool) × Bool
  | [] => (read.reverse, false)
  | [92] => (read.reverse, true)
  | 92 :: byte :: rest => unslash ((byte, true) :: read) rest
  | byte :: rest => unslash ((byte, false) :: read) rest

/-- The values for variables that a line is cut into: every variable but the last takes a field, and
the last takes what is left. -/
def shareOut (separators : List UInt8) (count : Nat) (line : List (UInt8 × Bool)) :
    List (List UInt8) :=
  let separates : UInt8 × Bool → Bool := fun (byte, quoted) => !quoted && separators.contains byte
  let blank : UInt8 × Bool → Bool := fun (byte, quoted) =>
    !quoted && separators.contains byte && standardSeparators.contains byte
  let line := line.dropWhile blank
  match count with
  | 0 => []
  | 1 => [(line.reverse.dropWhile blank).reverse.map Prod.fst]
  | count + 1 =>
    let field := line.takeWhile fun byte => !separates byte
    let behind := (line.drop field.length).dropWhile blank
    let behind := match behind with
      | byte :: rest => if separates byte then rest else behind
      | [] => []
    field.map Prod.fst :: shareOut separators count behind

end Dialogs.Script
