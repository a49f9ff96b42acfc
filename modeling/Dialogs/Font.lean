import Dialogs.DialogError
import Dialogs.Text.Blank
import Dialogs.Text.Pieces
import Dialogs.Text.Integer

/-!
# Font descriptions

A font is described by its family and, behind it, its size: `Sans 12`. A family that is empty or
has blanks in it stands between single quotes: `'Noto Serif' 11`. There are no escapes, so a quoted
family ends at the first quote, and an unquoted one at the first space.
-/

namespace Dialogs

/-- A font: its family and its size, if one is asked for. -/
structure Font where
  family : String
  size : Option Int32
  deriving DecidableEq, Repr

namespace Font

/-- The size in the text behind a family. Nothing but blanks means that there is none; anything
else has to be an integer of the signed 32-bit range, up to the end. -/
def parseSize? (text : List Char) : Option (Option Int32) :=
  match Text.trimStartChars text with
  | [] => some none
  | digits =>
    match Text.readInteger (Text.largestSigned32 + 1) Text.largestSigned32 digits with
    | .ok size => some (some (Int32.ofInt size))
    | .error _ => none

/-- The font of a family and the text behind it. -/
def ofParts? (family rest : List Char) : Option Font :=
  (parseSize? rest).map fun size => ⟨String.ofList family, size⟩

/-- The font that a text describes. -/
def parse? (text : String) : Option Font :=
  match text.toList with
  | [] => none
  | '\'' :: quoted =>
    match Text.splitOnceChars '\'' quoted with
    | none => none
    | some (family, rest) => ofParts? family rest
  | unquoted => ofParts? (unquoted.takeWhile (· != ' ')) (unquoted.dropWhile (· != ' '))

/-- Reads the description of a font. A text that describes none is reported as it stands. -/
def read (text : String) : Except DialogError Font :=
  match parse? text with
  | some font => .ok font
  | none => .error (.invalidFont text)

/-- Whether a family has to stand between quotes. -/
def needsQuotes (family : String) : Bool :=
  family.isEmpty || family.toList.any Text.isBlank

/-- The description of a font. -/
def text (font : Font) : String :=
  (if needsQuotes font.family then "'" ++ font.family ++ "'" else font.family) ++
    match font.size with
    | none => ""
    | some size => " " ++ toString size.toInt

end Font

end Dialogs
