import Dialogs.Text.Alphabet
import Dialogs.Text.Blank
import Dialogs.Text.Utf8

/-!
# Files of variables

A file in the working directory can set variables of the environment, one on a line: a name, an equals
sign and a value. Values may be quoted, then also over several lines, and may refer to other variables.
A variable that is set already keeps its value. The first line that is malformed ends the file; what
stands in front of it counts. A variable cannot be set to a text with a NUL in it; that ends everything.

Main statement: no variable that is set changes.
-/

namespace Dialogs.Cli.VariableFile

/-- Where a line of the file stands at a character. -/
inductive Place where
  | plain
  | blank
  | escape
  | strong
  | strongEscape
  | weak
  | weakEscape
  | comment
  deriving DecidableEq, Repr

/-- The place behind a character. -/
def Place.behind (place : Place) (c : Char) : Place :=
  let fresh : Place :=
    if c == '\\' then .escape else if c == '"' then .weak else if c == '\'' then .strong else .plain
  match place with
  | .plain =>
    if Text.isBlank c && c != '\n' && c != '\r' then .blank else fresh
  | .blank => if c == '#' then .comment else fresh
  | .escape => .plain
  | .strong => if c == '\\' then .strongEscape else if c == '\'' then .plain else .strong
  | .strongEscape => .strong
  | .weak => if c == '\\' then .weakEscape else if c == '"' then .plain else .weak
  | .weakEscape => .weak
  | .comment => .comment

/-- The first line of a text with its newline, and what is behind it. -/
def cutLine (text : List Char) : List Char × List Char :=
  let line := text.takeWhile (· != '\n')
  match text.drop line.length with
  | newline :: rest => (line ++ [newline], rest)
  | [] => (line, [])

/-- A line without its end. -/
def withoutEnd (line : List Char) : List Char :=
  match line.reverse with
  | '\n' :: '\r' :: rest | '\n' :: rest => rest.reverse
  | _ => line

/-- A line up to its comment, and the place at its end. -/
def walk : Place → (read : List Char) → List Char → Place × List Char
  | place, read, [] => (place, read.reverse)
  | place, read, c :: rest =>
    match place.behind c with
    | .comment => (.comment, read.reverse)
    | next => walk next (c :: read) rest

/-- Whether a line is a comment as a whole. -/
def isComment (line : List Char) : Bool := (Text.trimStartChars line).head? == some '#'

/-- Cuts a text into lines, of which one goes on behind a newline that is quoted. Nothing stands for a
line that has no end. -/
def linesOf (fuel : Nat) (place : Place) (begun : List Char) (text : List Char) :
    List (Option (List Char)) :=
  match fuel with
  | 0 => []
  | fuel + 1 =>
    if text.isEmpty then if place = .plain then [] else [none]
    else
      let (line, rest) := cutLine text
      if isComment (begun ++ line) then linesOf fuel .plain [] rest
      else match walk place [] line with
        | (.plain, _) => some (withoutEnd (begun ++ line)) :: linesOf fuel .plain [] rest
        | (.comment, kept) => some (begun ++ kept) :: linesOf fuel .plain [] rest
        | (place, _) => linesOf fuel place (begun ++ line) rest

/-- A reference to a variable that is being read. -/
inductive Reference where
  | none
  /-- Behind a dollar sign. -/
  | bare (name : List Char)
  /-- Behind a dollar sign and a brace. -/
  | braced (name : List Char)
  deriving DecidableEq, Repr

/-- What has been read of a value. -/
structure Value where
  /-- The characters, last first. -/
  read : List Char := []
  strong : Bool := false
  weak : Bool := false
  escaped : Bool := false
  /-- Whether only blanks and a comment may follow. -/
  ended : Bool := false
  commented : Bool := false
  reference : Reference := .none

namespace Value

/-- Adds a character. -/
def push (value : Value) (c : Char) : Value := { value with read := c :: value.read }

/-- Ends a reference with what it stands for. -/
def refer (value : Value) (lookup : String → Option String) (name : List Char) : Value :=
  let meant := (lookup (String.ofList name.reverse)).getD ""
  { value with read := meant.toList.reverse ++ value.read, reference := .none }

/-- Reads a character of a value, unless the value is malformed. -/
def step (lookup : String → Option String) (value : Value) (c : Char) : Option Value :=
  if value.commented then some value
  else if value.ended then
    if c == ' ' || c == '\t' then some value
    else if c == '#' then some { value with commented := true }
    else none
  else if value.escaped then
    let continued := { value with escaped := false }
    if ['\\', '\'', '"', '$', ' '].contains c then some (continued.push c)
    else if c == 'n' then some (continued.push '\n')
    else none
  else if value.strong then
    some (if c == '\'' then { value with strong := false } else value.push c)
  else match value.reference with
    | .bare name =>
      if Text.isAlphanumeric c then some { value with reference := .bare (c :: name) }
      else if c == '\x7b' && name.isEmpty then some { value with reference := .braced [] }
      else
        let referred := value.refer lookup name
        some (if c == '$' then { referred with reference := .bare [] } else referred.push c)
    | .braced name =>
      some (if c == '\x7d' then value.refer lookup name
        else { value with reference := .braced (c :: name) })
    | .none =>
      if c == '$' then some { value with reference := .bare [] }
      else if c == '\\' then some { value with escaped := true }
      else if c == '"' then some { value with weak := !value.weak }
      else if value.weak then some (value.push c)
      else if c == '\'' then some { value with strong := true }
      else if c == ' ' || c == '\t' then some { value with ended := true }
      else some (value.push c)

/-- The text of a value that has been read to its end, unless something in it is still open. -/
def finish (lookup : String → Option String) (value : Value) : Option String :=
  if value.strong || value.weak then none
  else match value.reference with
    | .braced _ => none
    | .bare name => some (String.ofList (value.refer lookup name).read.reverse)
    | .none => some (String.ofList value.read.reverse)

end Value

/-- Reads a value. -/
def readValue (lookup : String → Option String) (text : List Char) : Option String := do
  (← text.foldlM (Value.step lookup) {}).finish lookup

/-- A name at the start of a text, and what is behind it and the blanks that follow. -/
def readName (text : List Char) : Option (String × List Char) :=
  let starts := text.head?.any fun c => c.isAlpha || c == '_'
  let name := text.takeWhile fun c => c.isAlphanum || c == '_' || c == '.'
  if starts then some (String.ofList name, Text.trimStartChars (text.drop name.length)) else none

/-- A name and the text behind its equals sign. The word `export` in front of a name is skipped, but it can
be a name itself. -/
def readTarget (text : List Char) : Option (String × List Char) := do
  let (name, rest) ← readName text
  match rest with
  | '=' :: rest => return (name, rest)
  | _ =>
    if name == "export" then
      let (name, rest) ← readName rest
      match rest with
      | '=' :: rest => return (name, rest)
      | _ => none
    else none

/-- What a line sets. -/
inductive Meaning where
  | nothing
  | malformed
  | set (name value : String)
  deriving DecidableEq, Repr

/-- What a line means. -/
def meaningOf (lookup : String → Option String) (line : List Char) : Meaning :=
  let text := Text.trimChars line
  if text.isEmpty || text.head? == some '#' then .nothing
  else match readTarget text with
    | none => .malformed
    | some (name, rest) =>
      let written := Text.trimStartChars rest
      if written.head? == some '#' then .set name ""
      else match readValue lookup written with
        | some value => .set name value
        | none => .malformed

/-- The value of a variable. -/
def valueOf? (environment : List (String × String)) (name : String) : Option String :=
  (environment.find? fun (other, _) => other == name).map Prod.snd

/-- What the environment holds for the name of a reference. The environment is a list of texts, in each of
which a name and a value stand around an equals sign; a name with such a sign in it can match further into
the text. -/
def referent? (environment : List (String × String)) (name : String) : Option String :=
  if name.isEmpty then none
  else
    let opening := (name ++ "=").toList
    environment.findSome? fun (other, value) =>
      let text := (other ++ "=" ++ value).toList
      if opening.isPrefixOf text then some (String.ofList (text.drop opening.length)) else none

/-- The variables after some lines, unless one cannot be set. What lines have said is remembered in `said`
even where it was not needed. -/
def load (environment said : List (String × String)) :
    List (Option (List Char)) → Option (List (String × String))
  | [] | none :: _ => some environment
  | some line :: rest =>
    let lookup (name : String) : Option String := (referent? environment name).or (valueOf? said name)
    match meaningOf lookup line with
    | .nothing => load environment said rest
    | .malformed => some environment
    | .set name value =>
      if (valueOf? environment name).isSome then load environment ((name, value) :: said) rest
      else if value.contains '\x00' then none
      else load (environment ++ [(name, value)]) ((name, value) :: said) rest

/-- The variables after a file, unless one cannot be set. A byte order mark is not part of the file. -/
def apply (environment : List (String × String)) (text : String) : Option (List (String × String)) :=
  let characters := Text.Utf8.withoutMark text.toList
  load environment [] (linesOf (characters.length + 1) .plain [] characters)

/-- No variable that is set changes when lines are read. -/
theorem valueOf?_load {environment said after : List (String × String)}
    {lines : List (Option (List Char))} {name value : String}
    (loaded : load environment said lines = some after)
    (known : valueOf? environment name = some value) : valueOf? after name = some value := by
  induction lines generalizing environment said with
  | nil =>
    cases loaded
    exact known
  | cons line rest inductionHypothesis =>
    cases line with
    | none =>
      cases loaded
      exact known
    | some line =>
      simp only [load] at loaded
      split at loaded
      · exact inductionHypothesis loaded known
      · cases loaded
        exact known
      · split at loaded
        · exact inductionHypothesis loaded known
        · split at loaded
          · cases loaded
          · refine inductionHypothesis loaded ?_
            simp only [valueOf?, Option.map_eq_some_iff] at known ⊢
            obtain ⟨entry, found, same⟩ := known
            exact ⟨entry, by simp [List.find?_append, found], same⟩

end Dialogs.Cli.VariableFile
