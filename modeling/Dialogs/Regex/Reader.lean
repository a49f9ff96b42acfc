import Dialogs.Regex.Basic
import Dialogs.Text.Alphabet
import Dialogs.Text.Blank
import Dialogs.Text.Integer

/-!
# Reading regular expressions

Each reader takes what stands at a cursor, and hands back the cursor behind it. Between the parts of an
expression there may be blanks and comments once a flag has allowed them. What needs a closing brace is not
read: counted repetitions, and names and numbers in braces.
-/

namespace Dialogs.Regex

/-- Where an expression is read. -/
structure Cursor where
  rest : List Char
  /-- Whether blanks and comments are skipped. -/
  spaced : Bool := false
  /-- The names of the groups so far. -/
  names : List String := []

namespace Cursor

/-- The rest of a text behind blanks and comments. -/
def skipBlanks : (inComment : Bool) → List Char → List Char
  | _, [] => []
  | true, c :: rest => skipBlanks (c != '\n') rest
  | false, c :: rest =>
    if Text.isBlank c then skipBlanks false rest
    else if c == '#' then skipBlanks true rest
    else c :: rest

/-- The cursor at another place of the text. -/
def moved (cursor : Cursor) (rest : List Char) : Cursor := { cursor with rest }

/-- The cursor behind blanks and comments, if they are skipped. -/
def skip (cursor : Cursor) : Cursor :=
  if cursor.spaced then cursor.moved (skipBlanks false cursor.rest) else cursor

/-- The next character, and the cursor behind it. -/
def next? (cursor : Cursor) : Option (Char × Cursor) :=
  match cursor.rest with
  | [] => none
  | c :: rest => some (c, cursor.moved rest)

end Cursor

/-- The characters that mean something by themselves. -/
def metaChars : List Char := "\\.+*?()|[]\x7b\x7d^$#&-~".toList

/-- What a letter behind a backslash stands for. -/
def escapes : List (Char × Char) :=
  [('a', '\x07'), ('f', '\x0c'), ('t', '\t'), ('n', '\n'), ('r', '\r'), ('v', '\x0b')]

/-- Whether a character behind a backslash stands for itself: signs of ASCII do, apart from angles. -/
def isEscapable (c : Char) : Bool :=
  metaChars.contains c || (c.toNat < 128 && !c.isAlphanum && c != '<' && c != '>')

/-- The number that some hexadecimal digits denote. -/
def readHexadecimal : (count value : Nat) → Cursor → Option (Nat × Cursor)
  | 0, value, cursor => some (value, cursor.skip)
  | count + 1, value, cursor => do
    let (digit, cursor) ← cursor.skip.next?
    readHexadecimal count (value * 16 + (← Text.hexValue? digit)) cursor

/-- An escape behind its backslash. -/
def readEscape (cursor : Cursor) : Option (Regex × Cursor) := do
  let (c, behind) ← cursor.next?
  let coded (count : Nat) : Option (Regex × Cursor) := do
    let (number, behind) ← readHexadecimal count 0 behind
    return (.literal ⟨← Text.charOfNumber? number, count = 2⟩, behind)
  match c with
  | 'x' => coded 2
  | 'u' => coded 4
  | 'U' => coded 8
  | 'p' | 'P' =>
    let (letter, behind) ← behind.skip.next?
    if letter == '\\' || letter == '\x7b' then none else some (.property, behind.skip)
  | 'd' | 's' | 'w' => some (.common false, behind)
  | 'D' | 'S' | 'W' => some (.common true, behind)
  | 'A' | 'z' => some (.anchor, behind)
  | 'b' | 'B' | '<' | '>' => some (.wordBoundary, behind)
  | _ =>
    if isEscapable c then some (.literal ⟨c, false⟩, behind)
    else (escapes.lookup c).map fun meant => (.literal ⟨meant, false⟩, behind)

/-- The names of the classes of ASCII. -/
def asciiClasses : List String :=
  ["alnum", "alpha", "ascii", "blank", "cntrl", "digit", "graph", "lower", "print", "punct", "space",
   "upper", "word", "xdigit"]

/-- A class of ASCII between brackets and colons. -/
def readAsciiClass (cursor : Cursor) : Option (CharSet × Cursor) :=
  match cursor.rest with
  | '[' :: ':' :: rest =>
    let (negated, rest) := match rest with
      | '^' :: rest => (true, rest)
      | rest => (false, rest)
    let name := rest.takeWhile (· != ':')
    match rest.drop name.length with
    | ':' :: ']' :: rest =>
      if asciiClasses.contains (String.ofList name) then some (.ascii negated, cursor.moved rest)
      else none
    | _ => none
  | _ => none

/-- A character or an escape in brackets. -/
def readSetItem (cursor : Cursor) : Option (Regex × Cursor) := do
  let (c, behind) ← cursor.next?
  if c == '\\' then readEscape behind else some (.literal ⟨c, false⟩, behind)

/-- The set of an item in brackets, if it can stand there. -/
def setOfItem? : Regex → Option CharSet
  | .literal given => some (.literal given)
  | .common negated => some (.common negated)
  | .property => some .property
  | _ => none

/-- An item or a range of characters in brackets. A dash in front of the closing bracket or of another dash
begins no range. -/
def readSetRange (cursor : Cursor) : Option (CharSet × Cursor) := do
  let (first, behind) ← readSetItem cursor
  let behind := behind.skip
  match behind.rest with
  | [] => none
  | '-' :: rest =>
    let ahead := (behind.moved rest).skip
    if ahead.rest.head?.any fun c => c == ']' || c == '-' then
      return (← setOfItem? first, behind)
    else
      let (last, ahead) ← readSetItem ahead
      match first, last with
      | .literal first, .literal last =>
        if first.character ≤ last.character then some (.range first last, ahead) else none
      | _, _ => none
  | _ => return (← setOfItem? first, behind)

/-- The opening of a set behind its bracket: whether it is negated, and what its first characters stand for
themselves: dashes, or else a closing bracket. -/
def readSetOpening (cursor : Cursor) : Bool × List CharSet × Cursor :=
  let cursor := cursor.skip
  let (negated, cursor) := match cursor.rest with
    | '^' :: rest => (true, (cursor.moved rest).skip)
    | _ => (false, cursor)
  readDashes cursor.rest.length negated [] cursor
where
  /-- The dashes at the start of a set. -/
  readDashes (fuel : Nat) (negated : Bool) (parts : List CharSet) (cursor : Cursor) :
      Bool × List CharSet × Cursor :=
    match fuel, cursor.rest with
    | fuel + 1, '-' :: rest =>
      readDashes fuel negated (.literal ⟨'-', false⟩ :: parts) (cursor.moved rest).skip
    | _, ']' :: rest =>
      if parts.isEmpty then (negated, [.literal ⟨']', false⟩], (cursor.moved rest).skip)
      else (negated, parts, cursor)
    | _, _ => (negated, parts, cursor)

/-- What stands at the left of a sign between sets. -/
abbrev Pending := Option (CharSet × Combination)

/-- The set that some parts, last first, make up with what is at their left. -/
def Pending.complete (pending : Pending) (parts : List CharSet) : CharSet :=
  let right := CharSet.ofParts parts.reverse
  match pending with
  | none => right
  | some (left, how) => .combined how left right

/-- A set behind its opening, up to its closing bracket. -/
def readSet (fuel : Nat) (pending : Pending) (parts : List CharSet) (cursor : Cursor) :
    Option (CharSet × Cursor) :=
  match fuel with
  | 0 => none
  | fuel + 1 =>
    let cursor := cursor.skip
    let combine (how : Combination) (rest : List Char) : Option (CharSet × Cursor) :=
      readSet fuel (some (pending.complete parts, how)) [] (cursor.moved rest)
    match cursor.rest with
    | ']' :: rest => some (pending.complete parts, cursor.moved rest)
    | '&' :: '&' :: rest => combine .intersection rest
    | '-' :: '-' :: rest => combine .difference rest
    | '~' :: '~' :: rest => combine .symmetricDifference rest
    | '[' :: rest =>
      match readAsciiClass cursor with
      | some (set, cursor) => readSet fuel pending (set :: parts) cursor
      | none => do
        let (negated, opening, inside) := readSetOpening (cursor.moved rest)
        let (inner, cursor) ← readSet fuel none opening inside
        readSet fuel pending (.bracketed negated inner :: parts) cursor
    | _ => do
      let (set, cursor) ← readSetRange cursor
      readSet fuel pending (set :: parts) cursor

/-- The flag of a letter. -/
def flagOf? : Char → Option Flag
  | 'i' => some .caseless
  | 'm' => some .multiline
  | 's' => some .dotAll
  | 'U' => some .lazy
  | 'u' => some .wide
  | 'R' => some .carriageReturns
  | 'x' => some .spaced
  | _ => none

/-- Flags up to a colon or a closing parenthesis. Each is there once, and one is behind the dash, if there is
a dash. -/
def readFlags (dash : Bool) (read : Flags) : List Char → Option (Flags × List Char)
  | [] => none
  | c :: rest =>
    if c == ':' || c == ')' then
      if dash && read.all Prod.snd then none else some (read.reverse, c :: rest)
    else if c == '-' then if dash then none else readFlags true read rest
    else do
      let flag ← flagOf? c
      if read.any fun (other, _) => other = flag then none
      readFlags dash ((flag, !dash) :: read) rest

/-- The name of a group up to its closing angle. -/
def readName (text : List Char) : Option (String × List Char) :=
  let name := text.takeWhile (· != '>')
  let isFirst (c : Char) : Bool := c == '_' || Text.isAlphabetic c
  let isNext (c : Char) : Bool := ['_', '.', '[', ']'].contains c || Text.isAlphanumeric c
  match text.drop name.length with
  | '>' :: rest =>
    if name.head?.any isFirst && name.tail.all isNext then some (String.ofList name, rest) else none
  | _ => none

/-- The opening of a group behind its parenthesis. -/
inductive Opening where
  /-- Flags without a group. -/
  | flags (flags : Flags) (cursor : Cursor)
  | group (flags : Flags) (cursor : Cursor)

/-- Reads the opening of a group. What looks ahead or behind is refused. -/
def readOpening (cursor : Cursor) : Option Opening :=
  let cursor := cursor.skip
  let named (text : List Char) : Option Opening := do
    let (name, rest) ← readName text
    if cursor.names.contains name then none
    return .group [] { cursor with rest, names := name :: cursor.names }
  match cursor.rest with
  | '?' :: '=' :: _ | '?' :: '!' :: _ | '?' :: '<' :: '=' :: _ | '?' :: '<' :: '!' :: _ => none
  | '?' :: 'P' :: '<' :: rest | '?' :: '<' :: rest => named rest
  | '?' :: rest => do
    let (changes, rest) ← readFlags false [] rest
    match rest with
    | ')' :: rest => if changes.isEmpty then none else some (.flags changes (cursor.moved rest))
    | ':' :: rest => some (.group changes (cursor.moved rest))
    | _ => none
  | _ => some (.group [] cursor)

/-- The cursor with what some flags say about blanks. -/
def Cursor.withFlags (cursor : Cursor) (flags : Flags) : Cursor :=
  { cursor with spaced := flags.apply .spaced cursor.spaced }

/-- Repeats the last of some parts, which come last first. Flags cannot be repeated. -/
def repeatLast? : List Regex → Option (List Regex)
  | [] | .flags _ :: _ => none
  | part :: parts => some (.repeated part :: parts)

/-- Reads a group up to its closing parenthesis or the end of the text. The branches and the parts of the
current branch that have been read come last first. -/
def readGroup (fuel : Nat) (branches parts : List Regex) (cursor : Cursor) : Option (Regex × Cursor) :=
  match fuel with
  | 0 => none
  | fuel + 1 =>
    let cursor := cursor.skip
    let go (part : Regex) (cursor : Cursor) : Option (Regex × Cursor) :=
      readGroup fuel branches (part :: parts) cursor
    match cursor.rest with
    | [] | ')' :: _ => some (ofBranches ((ofParts parts.reverse :: branches).reverse), cursor)
    | '|' :: rest => readGroup fuel (ofParts parts.reverse :: branches) [] (cursor.moved rest)
    | '(' :: rest => do
      match ← readOpening (cursor.moved rest) with
      | .flags changes behind => go (.flags changes) (behind.withFlags changes)
      | .group changes behind =>
        let (inner, behind) ← readGroup fuel [] [] (behind.withFlags changes)
        match behind.rest with
        | ')' :: rest => go (.group changes inner) { behind with rest, spaced := cursor.spaced }
        | _ => none
    | '?' :: rest | '*' :: rest | '+' :: rest => do
      let parts ← repeatLast? parts
      let rest := if rest.head? == some '?' then rest.tail else rest
      readGroup fuel branches parts (cursor.moved rest)
    | '\x7b' :: _ => none
    | '[' :: rest => do
      let (negated, opening, inside) := readSetOpening (cursor.moved rest)
      let (inner, behind) ← readSet (2 * rest.length + 2) none opening inside
      go (.charSet (.bracketed negated inner)) behind
    | '\\' :: rest => do
      let (part, behind) ← readEscape (cursor.moved rest)
      go part behind
    | '.' :: rest => go .dot (cursor.moved rest)
    | '^' :: rest | '$' :: rest => go .anchor (cursor.moved rest)
    | c :: rest => go (.literal ⟨c, false⟩) (cursor.moved rest)

/-- Reads an expression. -/
def read? (text : String) : Option Regex := do
  let (regex, behind) ← readGroup (2 * text.length + 2) [] [] { rest := text.toList }
  if behind.rest.isEmpty then some regex else none

/-- Checks that there is an automaton for the expression of a text. -/
def checkText (text : String) : Except RegexFault Unit :=
  match read? text with
  | some regex => regex.check
  | none => .error .unbuildable

end Dialogs.Regex
