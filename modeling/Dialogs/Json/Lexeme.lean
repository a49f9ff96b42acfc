import Dialogs.Json.Numeral
import Dialogs.Text.Integer

/-!
# Lexemes of JSON text

A text is cut into brackets, commas, colons, strings and other scalars; blanks between them vanish.
A scalar whose text is faulty is still a lexeme, because its fault counts only if a scalar is
wanted where it stands. The list of lexemes ends behind a fault that skipping notices too and
behind a character that starts no lexeme.

Main statement: every lexeme takes at least one character from the text.
-/

namespace Dialogs.Json

/-- A unit of JSON text. -/
inductive Lexeme where
  | openArray
  | closeArray
  | openObject
  | closeObject
  | comma
  | colon
  | string (found : Except Fault String)
  | scalar (found : Except Fault Json)
  | other

/-- The blanks of JSON text. -/
def isGap (c : Char) : Bool := c == ' ' || c == '\t' || c == '\n' || c == '\r'

/-- The code of four hexadecimal digits at the start of a text. With fewer than four bytes left the
text has ended in a string. -/
def hexCode (text : List Char) : Except SyntaxError Nat :=
  if (text.take 4).foldl (fun size c => size + c.utf8Size) 0 < 4 then .error .endInString
  else match Text.hexNumber? (text.take 4) with
    | some code => .ok code
    | none => .error .invalidEscape

/-- The character that a backslash and a letter stand for. -/
def simpleEscape? (c : Char) : Option Char :=
  match c with
  | '"' => some '"'
  | '\\' => some '\\'
  | '/' => some '/'
  | 'b' => some '\x08'
  | 'f' => some '\x0c'
  | 'n' => some '\n'
  | 'r' => some '\r'
  | 't' => some '\t'
  | _ => none

/-- The character that a code of an escape stands for, with the number of further characters that
belong to the escape: a code of the upper half of a surrogate pair takes the escape behind it. The
text is the one behind the code. -/
def unitCharacter (code : Nat) (text : List Char) : Except Fault (Char × Nat) :=
  if 0xDC00 ≤ code ∧ code ≤ 0xDFFF then .error (.reading .loneSurrogate)
  else if code < 0xD800 ∨ 0xDBFF < code then .ok (Char.ofNat code, 0)
  else match text with
    | [] => .error (.always .endInString)
    | ['\\'] => .error (.always .endInString)
    | '\\' :: 'u' :: rest =>
      match hexCode rest with
      | .error cause => .error (.always cause)
      | .ok low =>
        if 0xDC00 ≤ low ∧ low ≤ 0xDFFF then
          .ok (Char.ofNat (0x10000 + (code - 0xD800) * 0x400 + (low - 0xDC00)), 6)
        else .error (.reading .loneSurrogate)
    | _ => .error (.reading .endOfHexEscape)

/-- A string that breaks off: skipping notices `cause`, and so does reading unless something has
been `noticed` earlier. -/
def brokenString (noticed : Option SyntaxError) (cause : SyntaxError) : Scan String :=
  ⟨.error ⟨noticed.getD cause, some cause⟩, []⟩

/-- Scans a string behind its opening quote. `read` are its characters so far, reversed; `noticed`
is a fault that only reading notices. -/
def scanString (read : List Char) (noticed : Option SyntaxError) : List Char → Scan String
  | [] => brokenString noticed .endInString
  | '"' :: rest =>
    match noticed with
    | none => ⟨.ok (String.ofList read.reverse), rest⟩
    | some cause => ⟨.error (.reading cause), rest⟩
  | '\\' :: rest =>
    match rest with
    | [] => brokenString noticed .endInString
    | 'u' :: behind =>
      match hexCode behind with
      | .error cause => brokenString noticed cause
      | .ok code =>
        match unitCharacter code (behind.drop 4) with
        | .ok (c, further) => scanString (c :: read) noticed (behind.drop (4 + further))
        | .error ⟨cause, none⟩ => scanString read (noticed <|> some cause) (behind.drop 4)
        | .error ⟨_, some cause⟩ => brokenString noticed cause
    | c :: behind =>
      match simpleEscape? c with
      | some meant => scanString (meant :: read) noticed behind
      | none => brokenString noticed .invalidEscape
  | c :: rest =>
    if c < ' ' then brokenString noticed .controlCharacter
    else scanString (c :: read) noticed rest
termination_by text => text.length
decreasing_by all_goals simp <;> omega

/-- Scans the letters of a word behind its first. -/
def scanWord (value : Json) : (expected text : List Char) → Scan Json
  | [], text => ⟨.ok value, text⟩
  | _ :: _, [] => ⟨.error (.always .endInValue), []⟩
  | letter :: expected, c :: rest =>
    if c = letter then scanWord value expected rest else ⟨.error (.always .expectedIdent), rest⟩

/-- The lexeme of a character that is one by itself. -/
def punctuation? (c : Char) : Option Lexeme :=
  match c with
  | '[' => some .openArray
  | ']' => some .closeArray
  | '\x7b' => some .openObject
  | '\x7d' => some .closeObject
  | ',' => some .comma
  | ':' => some .colon
  | _ => none

/-- The value of the word that starts with a letter, and the letters behind it. -/
def word? (c : Char) : Option (Json × List Char) :=
  match c with
  | 'n' => some (.null, ['u', 'l', 'l'])
  | 't' => some (.bool true, ['r', 'u', 'e'])
  | 'f' => some (.bool false, ['a', 'l', 's', 'e'])
  | _ => none

/-- The lexeme that starts with a character, and the text behind it. -/
def scanLexeme (first : Char) (rest : List Char) : Lexeme × List Char :=
  match punctuation? first, word? first with
  | some lexeme, _ => (lexeme, rest)
  | none, some (value, letters) =>
    ((.scalar (scanWord value letters rest).found), (scanWord value letters rest).rest)
  | none, none =>
    if first = '"' then
      (.string (scanString [] none rest).found, (scanString [] none rest).rest)
    else if first = '-' ∨ first.isDigit = true then
      (.scalar ((scanNumber (first :: rest)).found.map .number), (scanNumber (first :: rest)).rest)
    else (.other, rest)

/-- Whether the text can be read on behind a lexeme. -/
def Lexeme.isLast : Lexeme → Bool
  | .string (.error fault) => fault.whenSkipped.isSome
  | .scalar (.error fault) => fault.whenSkipped.isSome
  | .other => true
  | _ => false

/-- A string leaves no more than the text it starts. -/
theorem length_scanString_le (read : List Char) (noticed : Option SyntaxError)
    (text : List Char) : (scanString read noticed text).rest.length ≤ text.length := by
  fun_induction scanString read noticed text <;> simp_all [brokenString] <;> omega

/-- A word leaves no more than the text it starts. -/
theorem length_scanWord_le (value : Json) (expected text : List Char) :
    (scanWord value expected text).rest.length ≤ text.length := by
  fun_induction scanWord value expected text with
  | case1 text => exact Nat.le_refl _
  | case2 letter expected => exact Nat.le_refl _
  | case3 letter expected rest inductionHypothesis => exact Nat.le_succ_of_le inductionHypothesis
  | case4 letter expected c rest other => exact Nat.le_succ _

/-- A lexeme takes its first character. -/
theorem length_scanLexeme_le (first : Char) (rest : List Char) :
    (scanLexeme first rest).2.length ≤ rest.length := by
  unfold scanLexeme
  split
  · exact Nat.le_refl _
  · exact length_scanWord_le _ _ _
  · split
    · exact length_scanString_le _ _ _
    · split
      · rename_i starts
        exact length_scanNumber_cons_le starts rest
      · exact Nat.le_refl _

/-- The lexemes of a text. -/
def lexemes : List Char → List Lexeme
  | [] => []
  | first :: rest =>
    if isGap first then lexemes rest
    else
      let scanned := scanLexeme first rest
      if scanned.1.isLast then [scanned.1]
      else scanned.1 :: lexemes scanned.2
termination_by text => text.length
decreasing_by
  · simp
  · exact Nat.lt_succ_of_le (length_scanLexeme_le first rest)

end Dialogs.Json
