/-!
# UTF-8

A stream of bytes is read as a stream of glyphs: characters, and faults where bytes do not encode
one. A fault covers the longest run of bytes that begins some character, so that reading goes on at
the earliest byte that can begin another. The reader is a small machine that is folded over the
bytes; it never looks ahead, so a stream may arrive in pieces.
-/

namespace Dialogs.Text

/-- What the bytes of a stream stand for. -/
inductive Glyph where
  | char (character : Char)
  /-- A number of bytes that begin no character which goes on as they do. -/
  | invalid (length : Nat)
  /-- A number of bytes that begin a character, at the end of the stream. -/
  | incomplete (length : Nat)
  deriving DecidableEq, Repr

namespace Glyph

/-- The character that is shown for bytes that encode none. -/
def replacement : Char := '\uFFFD'

/-- The glyph as a character, if need be the replacement. -/
def toChar : Glyph → Char
  | .char character => character
  | .invalid _ | .incomplete _ => replacement

/-- Whether a glyph is a character. -/
def isChar : Glyph → Bool
  | .char _ => true
  | _ => false

/-- The number of bytes that a glyph takes. -/
def size : Glyph → Nat
  | .char character => character.utf8Size
  | .invalid length | .incomplete length => length

end Glyph

/-- A character of which some bytes have been read. -/
structure Begun where
  /-- The number of bytes read. -/
  length : Nat
  /-- The number of bytes that are missing. -/
  missing : Nat
  /-- The bits read. -/
  bits : Nat
  /-- The range of the next byte. -/
  low : UInt8
  high : UInt8
  deriving DecidableEq, Repr

namespace Utf8

/-- Between characters, what a byte is: a character, a fault, or the first byte of a character.
The ranges of second bytes leave out overlong forms, surrogates, and what lies above U+10FFFF. -/
def enter (byte : UInt8) : List Glyph × Option Begun :=
  if byte < 0x80 then ([.char (Char.ofNat byte.toNat)], none)
  else if 0xC2 ≤ byte && byte ≤ 0xDF then ([], some ⟨1, 1, byte.toNat - 0xC0, 0x80, 0xBF⟩)
  else if byte == 0xE0 then ([], some ⟨1, 2, 0, 0xA0, 0xBF⟩)
  else if byte == 0xED then ([], some ⟨1, 2, 0xD, 0x80, 0x9F⟩)
  else if 0xE1 ≤ byte && byte ≤ 0xEF then ([], some ⟨1, 2, byte.toNat - 0xE0, 0x80, 0xBF⟩)
  else if byte == 0xF0 then ([], some ⟨1, 3, 0, 0x90, 0xBF⟩)
  else if byte == 0xF4 then ([], some ⟨1, 3, 4, 0x80, 0x8F⟩)
  else if 0xF1 ≤ byte && byte ≤ 0xF3 then ([], some ⟨1, 3, byte.toNat - 0xF0, 0x80, 0xBF⟩)
  else ([.invalid 1], none)

/-- Reads one byte: the glyphs that it completes, and the character that is begun after it. -/
def step (begun : Option Begun) (byte : UInt8) : List Glyph × Option Begun :=
  match begun with
  | none => enter byte
  | some begun =>
    if begun.low ≤ byte && byte ≤ begun.high then
      let bits := begun.bits * 64 + (byte.toNat - 0x80)
      if begun.missing ≤ 1 then ([.char (Char.ofNat bits)], none)
      else ([], some ⟨begun.length + 1, begun.missing - 1, bits, 0x80, 0xBF⟩)
    else
      let (glyphs, next) := enter byte
      (.invalid begun.length :: glyphs, next)

/-- What is left when the stream ends. -/
def finish : Option Begun → List Glyph
  | none => []
  | some begun => [.incomplete begun.length]

/-- The glyphs of a stream, last first, and the character that is begun at its end. -/
def scan (state : List Glyph × Option Begun) (bytes : List UInt8) : List Glyph × Option Begun :=
  bytes.foldl
    (fun (read, begun) byte =>
      let (glyphs, next) := step begun byte
      (glyphs.reverse ++ read, next))
    state

/-- The glyphs of a stream that has ended. -/
def glyphs (bytes : List UInt8) : List Glyph :=
  let (read, begun) := scan ([], none) bytes
  (finish begun).foldl (fun read glyph => glyph :: read) read |>.reverse

/-- The bytes of a text. -/
def bytes (text : String) : List UInt8 := text.toUTF8.toList

/-- The text of a stream, with replacements for what is not UTF-8. -/
def lenient (bytes : List UInt8) : String := String.ofList ((glyphs bytes).map Glyph.toChar)

example : glyphs [0x61, 0xE2, 0x82, 0xAC] = [.char 'a', .char '€'] := by decide +kernel

example : glyphs [0xED, 0xA0, 0x80] = [.invalid 1, .invalid 1, .invalid 1] := by decide +kernel

example : glyphs [0xF0, 0x9F, 0x98, 0x0A, 0xC3] = [.invalid 3, .char '\n', .incomplete 1] := by
  decide +kernel

/-- A text without the byte order mark at its start. -/
def withoutMark : List Char → List Char
  | '\uFEFF' :: rest => rest
  | text => text

end Utf8

end Dialogs.Text
