/-!
# Patterns of a script

Two notations describe sets of texts: that of case arms and of cut values, where an asterisk stands
for any text, and that of line searches, where it repeats what is in front of it. Both are made of
the same atoms, which stand for one byte.
-/

namespace Dialogs.Script

/-- A set of bytes. -/
inductive Atom where
  | exactly (byte : UInt8)
  | any
  | among (negated : Bool) (ranges : List (UInt8 × UInt8))
  deriving DecidableEq, Repr

/-- Whether a byte is in the set of an atom. -/
def Atom.accepts (atom : Atom) (byte : UInt8) : Bool :=
  match atom with
  | .exactly expected => byte == expected
  | .any => true
  | .among negated ranges =>
    negated != ranges.any fun (first, last) => first ≤ byte && byte ≤ last

/-- The bytes of a text of ASCII characters. -/
def ascii (text : String) : List UInt8 := text.toList.map Char.toUInt8

/-- The byte of an ASCII character. -/
def code (c : Char) : UInt8 := c.toUInt8

/-- The named classes of bytes. -/
def classRanges (name : List UInt8) : List (UInt8 × UInt8) :=
  let upper := (code 'A', code 'Z')
  let lower := (code 'a', code 'z')
  let digit := (code '0', code '9')
  if name = ascii "upper" then [upper]
  else if name = ascii "lower" then [lower]
  else if name = ascii "alpha" then [upper, lower]
  else if name = ascii "digit" then [digit]
  else if name = ascii "alnum" then [digit, upper, lower]
  else if name = ascii "space" then [(9, 13), (32, 32)]
  else if name = ascii "blank" then [(9, 9), (32, 32)]
  else if name = ascii "xdigit" then [digit, (code 'A', code 'F'), (code 'a', code 'f')]
  else if name = ascii "cntrl" then [(0, 31), (127, 127)]
  else if name = ascii "punct" then [(33, 47), (58, 64), (91, 96), (123, 126)]
  else []

/-- The named class at the start of a text, behind its opening bracket and colon. -/
def classAt (text : List UInt8) : Option (List (UInt8 × UInt8) × List UInt8) :=
  let name := text.takeWhile (· != code ':')
  match text.drop name.length with
  | 58 :: 93 :: rest => some (classRanges name, rest)
  | _ => none

/-- The ranges of a bracket up to the bracket that closes it. -/
def rangesOf (fuel : Nat) (first : Bool) (read : List (UInt8 × UInt8)) (text : List UInt8) :
    Option (List (UInt8 × UInt8) × List UInt8) :=
  match fuel, text with
  | 0, _ | _, [] => none
  | fuel + 1, byte :: rest =>
    if byte == code ']' && !first then some (read.reverse, rest)
    else
      match byte, rest with
      | 91, 58 :: more =>
        match classAt more with
        | some (ranges, rest) => rangesOf fuel false (ranges.reverse ++ read) rest
        | none => rangesOf fuel false ((byte, byte) :: read) rest
      | _, 45 :: last :: more =>
        if last == code ']' then rangesOf fuel false ((byte, byte) :: read) rest
        else rangesOf fuel false ((byte, last) :: read) more
      | _, _ => rangesOf fuel false ((byte, byte) :: read) rest

/-- The bracket behind an opening bracket. -/
def bracketOf (text : List UInt8) : Option (Atom × List UInt8) :=
  match text with
  | [] => none
  | byte :: rest =>
    let negated := byte == code '!' || byte == code '^'
    let start := if negated then rest else text
    (rangesOf (start.length + 1) true [] start).map fun (ranges, rest) =>
      (.among negated ranges, rest)

/-- A pattern of a case arm. -/
inductive Wildcard where
  | one (atom : Atom)
  /-- Any text. -/
  | many
  deriving DecidableEq, Repr

/-- Reads a pattern whose bytes know whether they were quoted; what was quoted stands for itself. -/
def wildcardsOf (fuel : Nat) (text : List (UInt8 × Bool)) : List Wildcard :=
  match fuel, text with
  | 0, _ | _, [] => []
  | fuel + 1, (byte, quoted) :: rest =>
    if quoted then .one (.exactly byte) :: wildcardsOf fuel rest
    else if byte == code '*' then .many :: wildcardsOf fuel rest
    else if byte == code '?' then .one .any :: wildcardsOf fuel rest
    else if byte == code '[' then
      match bracketOf (rest.map Prod.fst) with
      | some (atom, behind) => .one atom :: wildcardsOf fuel (rest.drop (rest.length - behind.length))
      | none => .one (.exactly byte) :: wildcardsOf fuel rest
    else .one (.exactly byte) :: wildcardsOf fuel rest

/-- Whether a text as a whole is in the set of a pattern. -/
def accepts : List Wildcard → List UInt8 → Bool
  | [], text => text.isEmpty
  | .one atom :: pattern, byte :: rest => atom.accepts byte && accepts pattern rest
  | .one _ :: _, [] => false
  | .many :: pattern, [] => accepts pattern []
  | .many :: pattern, byte :: rest =>
    accepts pattern (byte :: rest) || accepts (.many :: pattern) rest
termination_by pattern text => pattern.length + text.length

/-- How often an atom of a line search occurs. -/
inductive Times where
  | once
  | optional
  | some
  | any
  deriving DecidableEq, Repr

/-- A pattern of a line search. -/
structure Search where
  atStart : Bool
  atEnd : Bool
  atoms : List (Atom × Times)
  deriving DecidableEq, Repr

/-- Reads the atoms of a line search. In the extended notation plus and question mark repeat, and in
the basic one they do so behind a backslash. -/
def atomsOf (extended : Bool) (fuel : Nat) (read : List (Atom × Times)) (text : List UInt8) :
    List (Atom × Times) :=
  match fuel, text with
  | 0, _ | _, [] => read.reverse
  | fuel + 1, byte :: rest =>
    let repeated (times : Times) (rest : List UInt8) : List (Atom × Times) :=
      match read with
      | (atom, .once) :: before => atomsOf extended fuel ((atom, times) :: before) rest
      | _ => atomsOf extended fuel ((.exactly byte, .once) :: read) rest
    if byte == code '*' then repeated .any rest
    else if extended && byte == code '+' then repeated .some rest
    else if extended && byte == code '?' then repeated .optional rest
    else if byte == code '.' then atomsOf extended fuel ((.any, .once) :: read) rest
    else if byte == code '[' then
      match bracketOf rest with
      | some (atom, rest) => atomsOf extended fuel ((atom, .once) :: read) rest
      | none => atomsOf extended fuel ((.exactly byte, .once) :: read) rest
    else if byte == code '\\' then
      match rest with
      | next :: rest =>
        if !extended && next == code '+' then repeated .some rest
        else if !extended && next == code '?' then repeated .optional rest
        else atomsOf extended fuel ((.exactly next, .once) :: read) rest
      | [] => ((.exactly byte, .once) :: read).reverse
    else atomsOf extended fuel ((.exactly byte, .once) :: read) rest

/-- Reads a line search. -/
def searchOf (extended : Bool) (text : List UInt8) : Search :=
  let atStart := text.head? == some (code '^')
  let body := if atStart then text.drop 1 else text
  let atEnd := body.getLast? == some (code '$')
  let body := if atEnd then body.dropLast else body
  ⟨atStart, atEnd, atomsOf extended (body.length + 1) [] body⟩

/-- A line search for a text as it is. -/
def literalSearch (text : List UInt8) : Search :=
  ⟨false, false, text.map fun byte => (.exactly byte, .once)⟩

/-- Whether atoms match the start of a text, and all of it if `atEnd`. -/
def matchesHere (atEnd : Bool) : List (Atom × Times) → List UInt8 → Bool
  | [], text => !atEnd || text.isEmpty
  | (atom, .once) :: atoms, byte :: rest => atom.accepts byte && matchesHere atEnd atoms rest
  | (_, .once) :: _, [] => false
  | (atom, .optional) :: atoms, byte :: rest =>
    matchesHere atEnd atoms (byte :: rest) || atom.accepts byte && matchesHere atEnd atoms rest
  | (_, .optional) :: atoms, [] => matchesHere atEnd atoms []
  | (atom, .some) :: atoms, byte :: rest =>
    atom.accepts byte &&
      (matchesHere atEnd atoms rest || matchesHere atEnd ((atom, .some) :: atoms) rest)
  | (_, .some) :: _, [] => false
  | (atom, .any) :: atoms, byte :: rest =>
    matchesHere atEnd atoms (byte :: rest) ||
      atom.accepts byte && matchesHere atEnd ((atom, .any) :: atoms) rest
  | (_, .any) :: atoms, [] => matchesHere atEnd atoms []
termination_by atoms text => atoms.length + text.length

/-- Whether a line search finds something in a line. -/
def Search.finds (search : Search) (line : List UInt8) : Bool :=
  if search.atStart then matchesHere search.atEnd search.atoms line
  else (List.range (line.length + 1)).any fun start =>
    matchesHere search.atEnd search.atoms (line.drop start)

end Dialogs.Script
