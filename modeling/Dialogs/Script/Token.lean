import Dialogs.Script.Word

/-!
# Tokens of a script

A script is cut into words, operators and newlines. The lines of a document that is written into the
script are taken out of the text where their line begins, and go to the operator that announced
them.

The scanner gives up at the first thing that is never closed. What stands in front is still a
script, and runs.
-/

namespace Dialogs.Script

/-- An operator in front of a file or descriptor. -/
inductive Arrow where
  | input
  | output
  | append
  | inputFrom
  | outputTo
  deriving DecidableEq, Repr

/-- A lexical unit of a script. -/
inductive Symbol where
  | word (word : Word)
  | operator (text : String)
  | redirect (descriptor : Option Nat) (arrow : Arrow)
  /-- A document within the script, as the input of a descriptor. -/
  | document (descriptor : Option Nat) (content : Word)
  | newline
  deriving Repr

/-- A lexical unit, and the line on which it stands. -/
structure Token where
  line : Nat
  symbol : Symbol
  deriving Repr

/-- What ends a stretch of text. -/
inductive Stop where
  /-- A blank, a newline or an operator. -/
  | separator
  /-- A double quote. -/
  | quote
  /-- A closing brace. The flag tells whether the expansion is quoted. -/
  | brace (quoted : Bool)
  /-- The end of the text. -/
  | never
  deriving DecidableEq, Repr

/-- Whether text is quoted in a stretch. -/
def Stop.isQuoted : Stop → Bool
  | .quote | .never | .brace true => true
  | .separator | .brace false => false

/-- Whether a character separates words. -/
def isSeparator (c : Char) : Bool := [' ', '\t', '\n', ';', '&', '|', '<', '>', '(', ')'].contains c

/-- Whether a stretch ends in front of a character. -/
def Stop.isAt (stop : Stop) (c : Char) : Bool :=
  match stop with
  | .separator => isSeparator c
  | .quote => c == '"'
  | .brace _ => c == '\x7d'
  | .never => false

/-- The characters that a backslash takes the meaning from within double quotes. -/
def isEscapable (c : Char) : Bool := ['$', '\x60', '"', '\\'].contains c

/-- The text up to a single quote, and the text behind that. -/
def untilQuote : List Char → List Char → Option (List Char × List Char)
  | _, [] => none
  | read, '\'' :: rest => some (read.reverse, rest)
  | read, c :: rest => untilQuote (c :: read) rest

/-- The text up to a back quote, and the text behind that. A backslash keeps a back quote, a backslash
or a dollar sign, and within double quotes a double quote too. -/
def untilBackQuote (quoted : Bool) : List Char → List Char → Option (List Char × List Char)
  | _, [] => none
  | read, '\x60' :: rest => some (read.reverse, rest)
  | read, '\\' :: c :: rest =>
    if ['\x60', '\\', '$'].contains c || quoted && c == '"' then
      untilBackQuote quoted (c :: read) rest
    else untilBackQuote quoted (c :: '\\' :: read) rest
  | read, c :: rest => untilBackQuote quoted (c :: read) rest

/-- Where a character within parentheses stands. -/
inductive Nest where
  | plain
  /-- Behind a backslash. -/
  | escaped
  /-- Within single quotes. -/
  | single
  /-- Within double quotes. -/
  | double
  /-- Behind a backslash within double quotes. -/
  | doubleEscaped
  deriving DecidableEq, Repr

/-- Where the character behind another stands. -/
def Nest.after (nest : Nest) (c : Char) : Nest :=
  match nest, c with
  | .plain, '\\' => .escaped
  | .plain, '\'' => .single
  | .plain, '"' => .double
  | .single, '\'' => .plain
  | .double, '"' => .plain
  | .double, '\\' => .doubleEscaped
  | .escaped, _ => .plain
  | .doubleEscaped, _ => .double
  | nest, _ => nest

/-- The text up to the parenthesis that closes the outermost of those that are open, `depth` of them
within it, and the text behind that. Parentheses in quotes do not count. -/
def untilParenthesis (nest : Nest) (depth : Nat) (read : List Char) :
    List Char → Option (List Char × List Char)
  | [] => none
  | c :: rest =>
    if nest = .plain && c == ')' then
      if depth == 0 then some (read.reverse, rest)
      else untilParenthesis .plain (depth - 1) (c :: read) rest
    else
      let depth := if nest = .plain && c == '(' then depth + 1 else depth
      untilParenthesis (nest.after c) depth (c :: read) rest

/-- Adds a character to the text at the end of parts, which are in reverse. -/
def pushChar (quoted : Bool) (c : Char) : List Part → List Part
  | .text characters before :: rest =>
    if before = quoted then .text (c :: characters) quoted :: rest
    else .text [c] quoted :: .text characters before :: rest
  | parts => .text [c] quoted :: parts

/-- Parts in their order, from parts in reverse whose texts are in reverse too. -/
def inOrder (parts : List Part) : List Part :=
  parts.foldl
    (fun ordered part =>
      match part with
      | .text characters quoted => .text characters.reverse quoted :: ordered
      | part => part :: ordered)
    []

/-- The special parameters, which have one character for a name. -/
def isSpecialParameter (c : Char) : Bool := ['@', '*', '#', '?', '-', '$', '!'].contains c

/-- How an expansion goes on behind the name of its parameter. -/
def useOf : List Char → Option (Use × List Char)
  | ':' :: '-' :: rest => some (.orElse true, rest)
  | '-' :: rest => some (.orElse false, rest)
  | ':' :: '=' :: rest => some (.orAssign true, rest)
  | '=' :: rest => some (.orAssign false, rest)
  | ':' :: '?' :: rest => some (.orFail true, rest)
  | '?' :: rest => some (.orFail false, rest)
  | ':' :: '+' :: rest => some (.instead true, rest)
  | '+' :: rest => some (.instead false, rest)
  | '#' :: '#' :: rest => some (.dropStart true, rest)
  | '#' :: rest => some (.dropStart false, rest)
  | '%' :: '%' :: rest => some (.dropEnd true, rest)
  | '%' :: rest => some (.dropEnd false, rest)
  | _ => none

/-- The name at the start of a text, if there is one. -/
def nameOf (text : List Char) : Option (String × List Char) :=
  match text with
  | [] => none
  | c :: rest =>
    if isSpecialParameter c then some (String.singleton c, rest)
    else if c.isDigit then
      let digits := (c :: rest).takeWhile Char.isDigit
      some (String.ofList digits, text.drop digits.length)
    else if isNameChar c then
      let name := text.takeWhile isNameChar
      some (String.ofList name, text.drop name.length)
    else none

mutual

/-- The parts of a stretch of text, with those in front of it in reverse, and the text from where the
stretch ends. `fuel` bounds the characters that are left. -/
def scanParts (fuel : Nat) (stop : Stop) (parts : List Part) (text : List Char) :
    Option (List Part × List Char) :=
  match fuel with
  | 0 => none
  | fuel + 1 =>
    match text with
    | [] => if stop == .separator || stop == .never then some (inOrder parts, []) else none
    | c :: rest =>
      let quoted := stop.isQuoted
      if stop.isAt c then some (inOrder parts, text)
      else
        match c, rest with
        | '\\', d :: more =>
          if d == '\n' then scanParts fuel stop parts more
          else if !quoted || isEscapable d && !(stop == .never && d == '"') ||
              stop == .brace true && d == '\x7d' then
            scanParts fuel stop (pushChar true d parts) more
          else scanParts fuel stop (pushChar true '\\' parts) rest
        | '\x60', _ => do
          let (script, rest) ← untilBackQuote quoted [] rest
          scanParts fuel stop (.command script quoted :: parts) rest
        | '$', _ => do
          let (part, rest) ← scanExpansion fuel quoted rest
          match part with
          | some part => scanParts fuel stop (part :: parts) rest
          | none => scanParts fuel stop (pushChar quoted '$' parts) rest
        | '"', _ =>
          if stop == .never || stop == .brace true then
            scanParts fuel stop (pushChar true c parts) rest
          else do
            let (inner, rest) ← scanParts fuel .quote [] rest
            let quotedParts := if inner.isEmpty then [.text [] true] else inner
            let turned := quotedParts.map fun part =>
              match part with
              | .text characters quoted => .text characters.reverse quoted
              | part => part
            scanParts fuel stop (turned.reverse ++ parts) (rest.drop 1)
        | '\'', _ =>
          if quoted then scanParts fuel stop (pushChar true c parts) rest
          else do
            let (inner, rest) ← untilQuote [] rest
            scanParts fuel stop (.text inner.reverse true :: parts) rest
        | _, _ => scanParts fuel stop (pushChar quoted c parts) rest

/-- The expansion behind a dollar sign, if one stands there, and the text behind it. -/
def scanExpansion (fuel : Nat) (quoted : Bool) (text : List Char) :
    Option (Option Part × List Char) :=
  match fuel with
  | 0 => none
  | fuel + 1 =>
    match text with
    | '(' :: '(' :: rest => do
      let (inner, behind) ← untilParenthesis .plain 1 [] rest
      match inner.getLast?, behind with
      | some ')', _ => do
        let (parts, _) ← scanParts fuel .never [] inner.dropLast
        return (some (.arithmetic parts quoted), behind)
      | _, _ => do
        let (script, behind) ← untilParenthesis .plain 0 [] ('(' :: rest)
        return (some (.command script quoted), behind)
    | '(' :: rest => do
      let (script, behind) ← untilParenthesis .plain 0 [] rest
      return (some (.command script quoted), behind)
    | '\x7b' :: '#' :: '\x7d' :: rest => some (some (.parameter "#" .value [] quoted), rest)
    | '\x7b' :: '#' :: rest => do
      let (name, rest) ← nameOf rest
      match rest with
      | '\x7d' :: rest => return (some (.parameter name .length [] quoted), rest)
      | _ => none
    | '\x7b' :: rest => do
      let (name, rest) ← nameOf rest
      match rest with
      | '\x7d' :: rest => return (some (.parameter name .value [] quoted), rest)
      | _ =>
        let (use, rest) ← useOf rest
        let (word, rest) ← scanParts fuel (.brace quoted) [] rest
        return (some (.parameter name use word quoted), rest.drop 1)
    | c :: rest =>
      if c.isDigit || isSpecialParameter c then
        some (some (.parameter (String.singleton c) .value [] quoted), rest)
      else if isNameChar c then
        let name := text.takeWhile isNameChar
        some (some (.parameter (String.ofList name) .value [] quoted), text.drop name.length)
      else some (none, text)
    | [] => some (none, [])

end

/-- The parts of a document whose delimiter is not quoted. -/
def documentParts (text : List Char) : Option Word :=
  (scanParts (2 * text.length + 2) .never [] text).map Prod.fst

/-- The first line of a text, and the rest behind its newline. -/
def firstLine (text : List Char) : List Char × List Char :=
  let line := text.takeWhile (· != '\n')
  (line, text.drop (line.length + 1))

/-- A document that has been announced: the index of its token, its delimiter, whether that was
quoted, and whether tabs at the start of lines are dropped. -/
structure Announced where
  descriptor : Option Nat
  delimiter : List Char
  literal : Bool
  unindented : Bool
  deriving Repr

/-- The lines of a document up to its delimiter, the text behind that, and the number of lines. -/
def takeDocument (fuel : Nat) (announced : Announced) (read : List Char) (count : Nat)
    (text : List Char) : List Char × List Char × Nat :=
  match fuel, text with
  | 0, _ | _, [] => (read.reverse, text, count)
  | fuel + 1, _ =>
    let (line, rest) := firstLine text
    let line := if announced.unindented then line.dropWhile (· == '\t') else line
    if line == announced.delimiter then (read.reverse, rest, count + 1)
    else takeDocument fuel announced ('\n' :: (line.reverse ++ read)) (count + 1) rest

/-- The content of an announced document. -/
def Announced.content (announced : Announced) (text : List Char) : Word :=
  if announced.literal then [.text text true]
  else (documentParts text).getD [.text text true]

/-- Fills in the documents that were announced on a line, oldest first. -/
def fillDocuments (line : Nat) (tokens : List Token) (announced : List Announced)
    (text : List Char) : List Token × List Char × Nat :=
  match announced with
  | [] => (tokens, text, line)
  | first :: rest =>
    let (content, text, count) := takeDocument (text.length + 1) first [] 0 text
    let token : Token := ⟨line, .document first.descriptor (first.content content)⟩
    fillDocuments (line + count) (place token tokens) rest text
where
  /-- Puts a token in the place that is kept for the oldest document. Tokens are in reverse. -/
  place (token : Token) (tokens : List Token) : List Token :=
    match tokens.reverse.span fun token => !isKept token.symbol with
    | (before, _ :: after) => (before ++ token :: after).reverse
    | (before, []) => (before ++ [token]).reverse
  /-- The place of a document that has not been read yet. -/
  isKept : Symbol → Bool
    | .operator "<<" => true
    | _ => false

/-- The plain text of a word, and whether any of it was quoted. -/
def delimiterOf (word : Word) : List Char × Bool :=
  word.foldl
    (fun (text, literal) part =>
      match part with
      | .text characters quoted => (text ++ characters, literal || quoted)
      | _ => (text, literal))
    ([], false)

/-- The operators of more than one character, longest first, and then those of one. -/
def operatorAt : List Char → Option (Symbol × List Char)
  | ';' :: ';' :: rest => some (.operator ";;", rest)
  | ';' :: rest => some (.operator ";", rest)
  | '&' :: '&' :: rest => some (.operator "&&", rest)
  | '&' :: rest => some (.operator "&", rest)
  | '|' :: '|' :: rest => some (.operator "||", rest)
  | '|' :: rest => some (.operator "|", rest)
  | '(' :: rest => some (.operator "(", rest)
  | ')' :: rest => some (.operator ")", rest)
  | _ => none

/-- The operators in front of a file or descriptor. -/
def arrowAt (descriptor : Option Nat) : List Char → Option (Symbol × List Char)
  | '<' :: '&' :: rest => some (.redirect descriptor .inputFrom, rest)
  | '<' :: rest => some (.redirect descriptor .input, rest)
  | '>' :: '&' :: rest => some (.redirect descriptor .outputTo, rest)
  | '>' :: '>' :: rest => some (.redirect descriptor .append, rest)
  | '>' :: '|' :: rest => some (.redirect descriptor .output, rest)
  | '>' :: rest => some (.redirect descriptor .output, rest)
  | _ => none

/-- What remains of a script that cannot be read to its end. -/
inductive Unread where
  /-- All of it is read. -/
  | nothing
  /-- Something that is opened on a line is never closed. -/
  | unterminated (line : Nat)
  deriving DecidableEq, Repr

/-- The number of newlines in a text that was read: what is in front of the rest. -/
def newlines (text rest : List Char) : Nat :=
  (text.take (text.length - rest.length)).count '\n'

/-- The tokens of a script, with those in front of it in reverse. -/
def scanTokens (fuel : Nat) (line : Nat) (announced : List Announced) (tokens : List Token)
    (text : List Char) : List Token × Unread :=
  match fuel with
  | 0 => (tokens.reverse, .nothing)
  | fuel + 1 =>
    match text with
    | [] => (tokens.reverse, .nothing)
    | '\n' :: rest =>
      let (tokens, rest, next) := fillDocuments (line + 1) tokens announced rest
      scanTokens fuel next [] (⟨line, .newline⟩ :: tokens) rest
    | '\\' :: '\n' :: rest => scanTokens fuel (line + 1) announced tokens rest
    | '#' :: rest => scanTokens fuel line announced tokens (rest.dropWhile (· != '\n'))
    | c :: rest =>
      if c == ' ' || c == '\t' then scanTokens fuel line announced tokens rest
      else
        match operatorAt text with
        | some (symbol, rest) => scanTokens fuel line announced (⟨line, symbol⟩ :: tokens) rest
        | none =>
          let digits := text.takeWhile Char.isDigit
          let behind := text.drop digits.length
          let descriptor := if digits.isEmpty then none else (String.ofList digits).toNat?
          match behind with
          | '<' :: '<' :: behind =>
            let (unindented, behind) := match behind with
              | '-' :: behind => (true, behind)
              | _ => (false, behind)
            let start := behind.dropWhile fun c => c == ' ' || c == '\t'
            match scanParts (2 * start.length + 2) .separator [] start with
            | none => (tokens.reverse, .unterminated line)
            | some (word, rest) =>
              let (delimiter, literal) := delimiterOf word
              scanTokens fuel line (announced ++ [⟨descriptor, delimiter, literal, unindented⟩])
                (⟨line, .operator "<<"⟩ :: tokens) rest
          | _ =>
            match arrowAt descriptor behind with
            | some (symbol, rest) =>
              scanTokens fuel line announced (⟨line, symbol⟩ :: tokens) rest
            | none =>
              match scanParts (2 * text.length + 2) .separator [] text with
              | none => (tokens.reverse, .unterminated line)
              | some (word, rest) =>
                scanTokens fuel (line + newlines text rest) announced
                  (⟨line, .word word⟩ :: tokens) rest

/-- The tokens of a script, and what remains of it. -/
def tokensOf (script : List Char) : List Token × Unread :=
  scanTokens (script.length + 1) 1 [] [] script

end Dialogs.Script
