import Dialogs.Json5.Scalar

/-!
# JSON5 documents

JSON5 is JSON with comments, names as keys, and commas behind last elements. A document denotes a JSON value.
-/

namespace Dialogs.Json5

mutual

/-- A value. -/
def readValue (fuel : Nat) (text : List Char) : Option (Json × List Char) :=
  match fuel with
  | 0 => none
  | fuel + 1 =>
    match text with
    | '[' :: rest => do
      let (elements, rest) ← readElements fuel [] (skip rest)
      return (.array elements, rest)
    | '\x7b' :: rest => do
      let (members, rest) ← readMembers fuel [] (skip rest)
      return (.object members, rest)
    | '"' :: _ | '\'' :: _ => do
      let (value, rest) ← readKey text
      return (.string value, rest)
    | _ =>
      match behindWord? "null" text, behindWord? "true" text, behindWord? "false" text with
      | some rest, _, _ => some (.null, rest)
      | _, some rest, _ => some (.bool true, rest)
      | _, _, some rest => some (.bool false, rest)
      | none, none, none => readNumber text

/-- The elements of an array up to its closing bracket, behind those that have been read. -/
def readElements (fuel : Nat) (read : List Json) (text : List Char) :
    Option (List Json × List Char) :=
  match fuel, text with
  | 0, _ => none
  | _, ']' :: rest => some (read.reverse, rest)
  | fuel + 1, text => do
    let (value, rest) ← readValue fuel text
    match skip rest with
    | ',' :: rest => readElements fuel (value :: read) (skip rest)
    | ']' :: rest => return ((value :: read).reverse, rest)
    | _ => none

/-- The members of an object up to its closing brace, behind those that have been read. -/
def readMembers (fuel : Nat) (read : List (String × Json)) (text : List Char) :
    Option (List (String × Json) × List Char) :=
  match fuel, text with
  | 0, _ => none
  | _, '\x7d' :: rest => some (read.reverse, rest)
  | fuel + 1, text => do
    let (key, rest) ← readKey text
    let ':' :: rest := skip rest | none
    let (value, rest) ← readValue fuel (skip rest)
    match skip rest with
    | ',' :: rest => readMembers fuel ((key, value) :: read) (skip rest)
    | '\x7d' :: rest => return (((key, value) :: read).reverse, rest)
    | _ => none

end

/-- Reads a document. -/
def read? (text : String) : Option Json := do
  let (value, rest) ← readValue (2 * text.length + 1) (skip text.toList)
  if (skip rest).isEmpty then some value else none

end Dialogs.Json5
