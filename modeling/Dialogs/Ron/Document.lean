import Dialogs.Ron.Scalar

/-!
# RON documents

A document is a value: a scalar, a list, a table, or something with a name, which may be a table of its
fields or a list of its parts. Attributes in front of it allow more ways of writing, none of which matters
here. A document is nested at most to a fixed depth.
-/

namespace Dialogs.Ron

/-- A value of RON. -/
inductive Value where
  /-- No value, or the only value of its kind. -/
  | nothing
  /-- A value that might have been missing. -/
  | present (value : Value)
  | flag (value : Bool)
  | number (value : Number)
  | text (value : String)
  | list (elements : List Value)
  | table (entries : List (Value × Value))
  deriving Repr

/-- The rest behind a comma and the gaps around it, and whether there is one. -/
def readComma (text : List Char) : Option (Bool × List Char) := do
  match ← skip text with
  | ',' :: rest => return (true, ← skip rest)
  | rest => return (false, rest)

/-- Whether what is behind a parenthesis and the gaps that follow is a list of parts, and not a table of
fields. -/
def isPartList (text : List Char) : Option Bool :=
  match readName text with
  | none => some true
  | some (_, rest) => do
    match ← skip rest with
    | [] => none
    | c :: _ => return c != ':'

/-- The kinds of tables. -/
inductive TableKind where
  /-- Fields with names, in parentheses. -/
  | fields
  /-- Any values with values, in braces. -/
  | entries
  deriving DecidableEq, Repr

/-- The character that closes a table. -/
def TableKind.closing : TableKind → Char
  | .fields => ')'
  | .entries => '\x7d'

mutual

/-- A value that is nested at most to a depth. -/
def readValue (fuel room : Nat) (text : List Char) : Option (Value × List Char) :=
  match fuel with
  | 0 => none
  | fuel + 1 =>
    match behindWord? "true" text, behindWord? "false" text, behindWord? "Some" text,
      behindWord? "None" text with
    | some rest, _, _, _ => some (.flag true, rest)
    | _, some rest, _, _ => some (.flag false, rest)
    | _, _, some rest, _ => do
      let '(' :: rest ← skip rest | none
      if room = 0 then none
      let (value, rest) ← readValue fuel (room - 1) (← skip rest)
      let (_, rest) ← readComma rest
      let ')' :: rest := rest | none
      return (.present value, rest)
    | _, _, _, some rest => some (.nothing, rest)
    | none, none, none, none =>
      match text with
      | '(' :: ')' :: rest => some (.nothing, rest)
      | _ =>
        match readNamedReal namedReals text, readName text with
        | some (number, rest), _ => some (.number number, rest)
        | none, some (_, rest) => do readNamed fuel room (← skip rest)
        | none, none => readOther fuel room text

/-- What stands behind a name: a list of parts, a table of fields, or nothing. -/
def readNamed (fuel room : Nat) (text : List Char) : Option (Value × List Char) :=
  match fuel, text with
  | 0, _ => none
  | fuel + 1, '(' :: rest => do
    if room = 0 then none
    let rest ← skip rest
    if ← isPartList rest then
      let (parts, rest) ← readElements ')' fuel (room - 1) true [] rest
      return (.list parts, rest)
    else
      let (entries, rest) ← readEntries .fields fuel (room - 1) true [] rest
      return (.table entries, rest)
  | _, text => some (.nothing, text)

/-- A value that begins with no name. -/
def readOther (fuel room : Nat) (text : List Char) : Option (Value × List Char) :=
  match fuel, text with
  | 0, _ | _, [] => none
  | fuel + 1, c :: rest =>
    if c == '(' then readNamed fuel room text
    else if c == '[' then do
      if room = 0 then none
      let (elements, rest) ← readElements ']' fuel (room - 1) true [] rest
      return (.list elements, rest)
    else if c == '\x7b' then do
      if room = 0 then none
      let (entries, rest) ← readEntries .entries fuel (room - 1) true [] rest
      return (.table entries, rest)
    else if c.isDigit || c == '+' || c == '-' then
      (readNumber text).map fun (number, rest) => (.number number, rest)
    else if c == '.' then (readReal text).map fun (number, rest) => (.number number, rest)
    else if c == '"' || c == 'r' then
      (readString text).map fun (value, rest) => (.text value, rest)
    else if c == '\'' then
      (readChar rest).map fun (value, rest) => (.text (String.singleton value), rest)
    else none

/-- Elements up to a closing sign, behind those that have been read, last first. All but the last have a
comma behind them. -/
def readElements (closing : Char) (fuel room : Nat) (separated : Bool) (read : List Value)
    (text : List Char) : Option (List Value × List Char) :=
  match fuel with
  | 0 => none
  | fuel + 1 => do
    match ← skip text with
    | [] => none
    | c :: rest =>
      if c == closing then return (read.reverse, rest)
      else if !separated || room = 0 then none
      else
        let (value, rest) ← readValue fuel (room - 1) (c :: rest)
        let (separated, rest) ← readComma rest
        readElements closing fuel room separated (value :: read) rest

/-- Entries up to a closing sign, behind those that have been read, last first. All but the last have a comma
behind them. -/
def readEntries (kind : TableKind) (fuel room : Nat) (separated : Bool) (read : List (Value × Value))
    (text : List Char) : Option (List (Value × Value) × List Char) :=
  match fuel with
  | 0 => none
  | fuel + 1 => do
    match ← skip text with
    | [] => none
    | c :: rest =>
      if c == kind.closing then return (read.reverse, rest)
      else if !separated || room = 0 then none
      else
        let (key, rest) ← match kind with
          | .fields => (readName (c :: rest)).map fun (name, rest) => (Value.text name, rest)
          | .entries => readValue fuel (room - 1) (c :: rest)
        let ':' :: rest ← skip rest | none
        let (value, rest) ← readValue fuel (room - 1) (← skip rest)
        let (separated, rest) ← readComma rest
        readEntries kind fuel room separated ((key, value) :: read) rest

end

/-- How deep a value may be nested, where a bracket and what is in it count one each. -/
def nestingLimit : Nat := 128

/-- The names of attributes. -/
def attributes : List String := ["unwrap_newtypes", "implicit_some", "unwrap_variant_newtypes"]

/-- The rest behind some signs with gaps between them. -/
def behindSigns? : List String → List Char → Option (List Char)
  | [], text => some text
  | sign :: signs, text => do
    let text ← skip text
    if sign.toList.isPrefixOf text then behindSigns? signs (text.drop sign.length) else none

/-- The rest behind the names of attributes. -/
def skipAttributes (fuel : Nat) (text : List Char) : Option (List Char) :=
  match fuel with
  | 0 => none
  | fuel + 1 => do
    let (name, rest) ← readName text
    if !attributes.contains name then none
    let (separated, rest) ← readComma rest
    let goesOn := rest.head?.any isNamePart
    if goesOn then if separated then skipAttributes fuel rest else none else some rest

/-- The rest behind the groups of attributes at the start of a document. -/
def skipHeader (fuel : Nat) (text : List Char) : Option (List Char) :=
  match fuel, text with
  | fuel + 1, '#' :: _ => do
    let rest ← behindSigns? ["#", "!", "[", "enable", "("] text
    let rest ← skipAttributes rest.length (← skip rest)
    let rest ← behindSigns? [")", "]"] rest
    skipHeader fuel (← skip rest)
  | _, text => some text

/-- Reads a document. -/
def read? (text : String) : Option Value := do
  let body ← skipHeader text.length (← skip text.toList)
  let (value, rest) ← readValue (4 * text.length + 4) nestingLimit body
  if (← skip rest).isEmpty then some value else none

end Dialogs.Ron
