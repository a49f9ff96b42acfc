/-!
# Words of a script

A word is written as text, quoted or not, with expansions between. Quoting matters after the
script has been read, since only what was not quoted is cut into fields and has special characters
in patterns; so every part of a word knows whether it was quoted.
-/

namespace Dialogs.Script

/-- What an expansion `$\x7bname…\x7d` does with the value of its parameter. -/
inductive Use where
  | value
  | length
  /-- The value, or else the word; with a colon, an empty value counts as none. -/
  | orElse (colon : Bool)
  /-- The value, or else the word, which is then assigned. -/
  | orAssign (colon : Bool)
  /-- The value, or else the script ends with the word as its complaint. -/
  | orFail (colon : Bool)
  /-- The word if there is a value. -/
  | instead (colon : Bool)
  /-- The value without what the pattern matches at its start. -/
  | dropStart (longest : Bool)
  /-- The value without what the pattern matches at its end. -/
  | dropEnd (longest : Bool)
  deriving DecidableEq, Repr

/-- A part of a word. -/
inductive Part where
  | text (characters : List Char) (quoted : Bool)
  | parameter (name : String) (use : Use) (word : List Part) (quoted : Bool)
  /-- The output of a script. -/
  | command (script : List Char) (quoted : Bool)
  | arithmetic (expression : List Part) (quoted : Bool)
  deriving Repr

/-- A word of a script. -/
abbrev Word := List Part

/-- The text of a word that consists of unquoted text only, as reserved words and operators of the
language do. -/
def Word.bare? : Word → Option String
  | [.text characters false] => some (String.ofList characters)
  | _ => none

/-- Whether a character may be part of a name. -/
def isNameChar (c : Char) : Bool := c == '_' || c.isAlphanum

/-- Whether a text is a name. -/
def isName : List Char → Bool
  | [] => false
  | c :: rest => !c.isDigit && isNameChar c && rest.all isNameChar

end Dialogs.Script
