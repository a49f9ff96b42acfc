import Dialogs.Text.Utf8

/-!
# Places in a YAML text

A cursor is a place in a text: what is left, and the line and column. Behind the end of the text it sees
the character U+0000, which no text holds.
-/

namespace Dialogs.Yaml

/-- The character that stands for the end of the text. -/
def endMark : Char := '\x00'

/-- Whether a character may occur in a text. -/
def isAllowed (c : Char) : Bool :=
  let code := c.toNat
  c == '\t' || c == '\n' || c == '\r' || (0x20 ≤ code && code ≤ 0x7E) || code == 0x85 ||
    (0xA0 ≤ code && code ≤ 0xD7FF) || (0xE000 ≤ code && code ≤ 0xFFFD) || 0x10000 ≤ code

/-- Whether a character ends a line. -/
def isBreak (c : Char) : Bool := ['\n', '\r', '\x85', '\u2028', '\u2029'].contains c

/-- Whether a character is a space or a tab. -/
def isBlank (c : Char) : Bool := c == ' ' || c == '\t'

/-- Whether a line ends at a character. -/
def isBreakOrEnd (c : Char) : Bool := isBreak c || c == endMark

/-- Whether a word ends at a character. -/
def isBlankOrEnd (c : Char) : Bool := isBlank c || isBreakOrEnd c

/-- A place in a text. -/
structure Cursor where
  rest : List Char
  index : Nat
  line : Nat
  column : Nat
  deriving Repr

namespace Cursor

/-- The start of a text. A byte order mark is not part of it. -/
def start (text : List Char) : Cursor :=
  ⟨Text.Utf8.withoutMark text, 0, 0, 0⟩

/-- The character at a distance. -/
def peek (cursor : Cursor) (distance : Nat) : Char := (cursor.rest.drop distance).headD endMark

/-- The next character. -/
def next (cursor : Cursor) : Char := cursor.rest.headD endMark

/-- The place behind the next character, which does not end a line. -/
def skip (cursor : Cursor) : Cursor :=
  { cursor with rest := cursor.rest.tail, index := cursor.index + 1, column := cursor.column + 1 }

/-- The place behind some characters, none of which ends a line. -/
def skipMany (cursor : Cursor) (count : Nat) : Cursor :=
  { cursor with
    rest := cursor.rest.drop count
    index := cursor.index + count
    column := cursor.column + count }

/-- Reads the end of a line: the character that it stands for, and the place behind it. Nothing is read
at the end of the text. -/
def readBreak (cursor : Cursor) : List Char × Cursor :=
  let behind (rest : List Char) (count : Nat) : Cursor :=
    ⟨rest, cursor.index + count, cursor.line + 1, 0⟩
  match cursor.rest with
  | '\r' :: '\n' :: rest => (['\n'], behind rest 2)
  | c :: rest =>
    if c == '\r' || c == '\n' || c == '\x85' then (['\n'], behind rest 1)
    else if isBreak c then ([c], behind rest 1)
    else ([], cursor)
  | [] => ([], cursor)

/-- The place behind the characters at the front that have a property, none of which ends a line. -/
def skipWhile (cursor : Cursor) (property : Char → Bool) : Cursor :=
  cursor.skipMany (cursor.rest.takeWhile property).length

/-- Whether a line begins with three marks that stand alone, as those between documents do. -/
def isAtMarks (cursor : Cursor) (mark : Char) : Bool :=
  cursor.column == 0 && cursor.peek 0 == mark && cursor.peek 1 == mark && cursor.peek 2 == mark &&
    isBlankOrEnd (cursor.peek 3)

/-- Whether a document begins or ends here. -/
def isAtBoundary (cursor : Cursor) : Bool := cursor.isAtMarks '-' || cursor.isAtMarks '.'

end Cursor

end Dialogs.Yaml
