import Dialogs.Script.Token

/-!
# Commands of a script

The tokens of a script make up commands: simple ones, and those that combine others. A script is
read one line at a time, so the commands in front of a mistake are there and run before the mistake
is reported.
-/

namespace Dialogs.Script

/-- What a descriptor is connected to while a command runs. -/
inductive Redirection where
  | arrow (descriptor : Nat) (arrow : Arrow) (target : Word)
  | document (descriptor : Nat) (content : Word)
  deriving Repr

/-- A command of a script. -/
inductive Command where
  | simple (line : Nat) (assignments : List (String × Word)) (words : List Word)
    (redirections : List Redirection)
  | sequence (first second : Command)
  /-- The second command runs if the first succeeds. -/
  | both (first second : Command)
  /-- The second command runs if the first fails. -/
  | either (first second : Command)
  | negated (command : Command)
  | pipe (first second : Command)
  | background (command : Command)
  | choice (condition positive negative : Command)
  | loop (untilDone : Bool) (condition body : Command)
  /-- Without words, the loop runs over the arguments. -/
  | each (name : String) (words : Option (List Word)) (body : Command)
  | select (subject : Word) (arms : List (List Word × Command))
  | definition (name : String) (body : Command)
  | subshell (body : Command)
  | redirected (line : Nat) (body : Command) (redirections : List Redirection)
  | nothing
  deriving Repr

/-- Why a script cannot be read further. -/
inductive Mistake where
  | unexpected (line : Nat) (found : String) (expected : Option String)
  | unterminated (line : Nat)
  deriving DecidableEq, Repr

namespace Mistake

/-- The line on which a mistake is noticed. -/
def line : Mistake → Nat
  | .unexpected line _ _ | .unterminated line => line

/-- The wording of a mistake. -/
def message : Mistake → String
  | .unexpected _ found none => "Syntax error: " ++ found ++ " unexpected"
  | .unexpected _ found (some expected) =>
    "Syntax error: " ++ found ++ " unexpected (expecting \"" ++ expected ++ "\")"
  | .unterminated _ => "Syntax error: Unterminated quoted string"

end Mistake

/-- The words that have a meaning where a command begins. -/
def reservedWords : List String :=
  ["if", "then", "elif", "else", "fi", "do", "done", "case", "esac", "while", "until", "for",
   "\x7b", "\x7d", "!", "in"]

/-- The reserved words that cannot begin a command. -/
def closingWords : List String := ["then", "elif", "else", "fi", "do", "done", "esac", "\x7d"]

/-- A text in double quotes. -/
def inQuotes (text : String) : String := "\"" ++ text ++ "\""

/-- How a complaint calls a token. -/
def Symbol.title : Symbol → String
  | .word written =>
    match Word.bare? written with
    | some text => if reservedWords.contains text then inQuotes text else "word"
    | none => "word"
  | .operator text => inQuotes text
  | .redirect _ _ | .document _ _ => "redirection"
  | .newline => "newline"

/-- A complaint about the next of some tokens. -/
def complain {α : Type} (last : Nat) (expected : Option String) : List Token → Except Mistake α
  | [] => .error (.unexpected last "end of file" expected)
  | token :: _ => .error (.unexpected token.line token.symbol.title expected)

/-- The word at the front of tokens, if it is plain. -/
def bareWord? : List Token → Option String
  | ⟨_, .word word⟩ :: _ => Word.bare? word
  | _ => none

/-- The operator at the front of tokens. -/
def operator? : List Token → Option String
  | ⟨_, .operator text⟩ :: _ => some text
  | _ => none

/-- Tokens without the newlines in front. -/
def skipNewlines (tokens : List Token) : List Token :=
  tokens.dropWhile fun token => match token.symbol with
    | .newline => true
    | _ => false

/-- The redirection at the front of tokens, if there is one. -/
def redirectionOf (last : Nat) : List Token → Except Mistake (Option (Redirection × List Token))
  | ⟨_, .document descriptor content⟩ :: rest =>
    .ok (some (.document (descriptor.getD 0) content, rest))
  | ⟨_, .redirect descriptor arrow⟩ :: rest =>
    match rest with
    | ⟨_, .word target⟩ :: rest =>
      let standard := match arrow with
        | .input | .inputFrom => 0
        | .output | .append | .outputTo => 1
      .ok (some (.arrow (descriptor.getD standard) arrow target, rest))
    | rest => complain last none rest
  | _ => .ok none

/-- The redirections at the front of tokens. -/
def redirectionsOf (last fuel : Nat) (read : List Redirection) (tokens : List Token) :
    Except Mistake (List Redirection × List Token) :=
  match fuel with
  | 0 => .ok (read.reverse, tokens)
  | fuel + 1 =>
    match redirectionOf last tokens with
    | .error mistake => .error mistake
    | .ok none => .ok (read.reverse, tokens)
    | .ok (some (redirection, rest)) => redirectionsOf last fuel (redirection :: read) rest

/-- The assignment that a word is, if it is one. -/
def assignmentOf : Word → Option (String × Word)
  | .text characters false :: rest =>
    let name := characters.takeWhile (· != '=')
    match characters.drop name.length with
    | '=' :: value =>
      if isName name then
        some (String.ofList name, if value.isEmpty then rest else .text value false :: rest)
      else none
    | _ => none
  | _ => none

/-- The parts of a simple command, in reverse. -/
structure Simple where
  assignments : List (String × Word) := []
  words : List Word := []
  redirections : List Redirection := []

/-- Whether nothing has been read of a simple command. -/
def Simple.isEmpty (simple : Simple) : Bool :=
  simple.assignments.isEmpty && simple.words.isEmpty && simple.redirections.isEmpty

/-- A simple command up to the token that ends it. -/
def simpleOf (last fuel : Nat) (simple : Simple) (tokens : List Token) :
    Except Mistake (Simple × List Token) :=
  match fuel with
  | 0 => .ok (simple, tokens)
  | fuel + 1 =>
    match tokens with
    | ⟨_, .word word⟩ :: rest =>
      match assignmentOf word, simple.words with
      | some assignment, [] =>
        simpleOf last fuel { simple with assignments := assignment :: simple.assignments } rest
      | _, words => simpleOf last fuel { simple with words := word :: words } rest
    | tokens =>
      match redirectionOf last tokens with
      | .error mistake => .error mistake
      | .ok none => .ok (simple, tokens)
      | .ok (some (redirection, rest)) =>
        simpleOf last fuel { simple with redirections := redirection :: simple.redirections } rest

/-- The patterns in front of the parenthesis of an arm. -/
def patternsOf (last fuel : Nat) (read : List Word) (tokens : List Token) :
    Except Mistake (List Word × List Token) :=
  match fuel with
  | 0 => complain last (some ")") tokens
  | fuel + 1 =>
    match tokens with
    | ⟨_, .word word⟩ :: ⟨_, .operator "|"⟩ :: rest => patternsOf last fuel (word :: read) rest
    | ⟨_, .word word⟩ :: ⟨_, .operator ")"⟩ :: rest => .ok ((word :: read).reverse, rest)
    | ⟨_, .word _⟩ :: rest => complain last (some ")") rest
    | tokens => complain last (some ")") tokens

/-- The words of a loop over words. -/
def wordsOf (read : List Word) : List Token → List Word × List Token
  | ⟨_, .word word⟩ :: rest => wordsOf (word :: read) rest
  | tokens => (read.reverse, tokens)

/-- Puts a command behind another. -/
def Command.andThen : Command → Command → Command
  | .nothing, command => command
  | command, .nothing => command
  | first, second => .sequence first second

/-- Whether a list of commands cannot go on with some tokens. -/
def listEnds (tokens : List Token) : Bool :=
  match tokens with
  | [] => true
  | ⟨_, .newline⟩ :: _ => true
  | ⟨_, .operator text⟩ :: _ => text == ")" || text == ";;"
  | tokens => (bareWord? tokens).any closingWords.contains

/-- The tokens behind a reserved word that has to come now. -/
def closed (last : Nat) (expected : String) (tokens : List Token) :
    Except Mistake (List Token) :=
  if bareWord? tokens = some expected then .ok (tokens.drop 1)
  else complain last (some expected) tokens

mutual

/-- Commands up to a token that closes them. Newlines go on with the list only within a compound
command. -/
def listOf (last : Nat) (inner : Bool) (fuel : Nat) (tokens : List Token) :
    Except Mistake (Command × List Token) :=
  match fuel with
  | 0 => complain last none tokens
  | fuel + 1 => do
    let tokens := if inner then skipNewlines tokens else tokens
    if listEnds tokens then return (.nothing, tokens)
    let (first, rest) ← chainOf last fuel tokens
    match rest with
    | ⟨_, .operator "&"⟩ :: rest =>
      let (second, rest) ← listOf last inner fuel rest
      return (first.background.andThen second, rest)
    | ⟨_, .operator ";"⟩ :: rest =>
      let (second, rest) ← listOf last inner fuel rest
      return (first.andThen second, rest)
    | ⟨_, .newline⟩ :: _ =>
      if inner then
        let (second, rest) ← listOf last inner fuel rest
        return (first.andThen second, rest)
      else return (first, rest)
    | rest => return (first, rest)

/-- Pipelines that depend on each other's success. -/
def chainOf (last fuel : Nat) (tokens : List Token) : Except Mistake (Command × List Token) :=
  match fuel with
  | 0 => complain last none tokens
  | fuel + 1 => do
    let (first, rest) ← pipelineOf last fuel tokens
    moreChain last fuel first rest

/-- What follows on a pipeline. -/
def moreChain (last fuel : Nat) (first : Command) (tokens : List Token) :
    Except Mistake (Command × List Token) :=
  match fuel with
  | 0 => complain last none tokens
  | fuel + 1 =>
    match tokens with
    | ⟨_, .operator "&&"⟩ :: rest => do
      let (second, rest) ← pipelineOf last fuel (skipNewlines rest)
      moreChain last fuel (.both first second) rest
    | ⟨_, .operator "||"⟩ :: rest => do
      let (second, rest) ← pipelineOf last fuel (skipNewlines rest)
      moreChain last fuel (.either first second) rest
    | tokens => .ok (first, tokens)

/-- Commands of which each reads what the one before it prints. -/
def pipelineOf (last fuel : Nat) (tokens : List Token) : Except Mistake (Command × List Token) :=
  match fuel with
  | 0 => complain last none tokens
  | fuel + 1 =>
    if bareWord? tokens = some "!" then do
      let (command, rest) ← pipelineOf last fuel (tokens.drop 1)
      return (.negated command, rest)
    else do
      let (first, rest) ← commandOf last fuel tokens
      match rest with
      | ⟨_, .operator "|"⟩ :: rest => do
        let (second, rest) ← pipelineOf last fuel (skipNewlines rest)
        return (.pipe first second, rest)
      | rest => return (first, rest)

/-- One command, with its redirections. -/
def commandOf (last fuel : Nat) (tokens : List Token) : Except Mistake (Command × List Token) :=
  match fuel with
  | 0 => complain last none tokens
  | fuel + 1 => do
    let line := (tokens.head?.map Token.line).getD last
    match ← compoundOf last fuel tokens with
    | some (command, rest) =>
      let (redirections, rest) ← redirectionsOf last fuel [] rest
      return (if redirections.isEmpty then command else .redirected line command redirections, rest)
    | none =>
      match tokens with
      | ⟨_, .word word⟩ :: ⟨_, .operator "("⟩ :: rest =>
        match Word.bare? word, rest with
        | some name, ⟨_, .operator ")"⟩ :: rest =>
          let (body, rest) ← commandOf last fuel (skipNewlines rest)
          return (.definition name body, rest)
        | _, rest => complain last (some ")") rest
      | tokens =>
        let (simple, rest) ← simpleOf last (tokens.length + 1) {} tokens
        if simple.isEmpty then complain last none tokens
        else
          return (.simple line simple.assignments.reverse simple.words.reverse
            simple.redirections.reverse, rest)

/-- A command that begins with a reserved word or a parenthesis, if there is one. -/
def compoundOf (last fuel : Nat) (tokens : List Token) :
    Except Mistake (Option (Command × List Token)) :=
  match fuel with
  | 0 => complain last none tokens
  | fuel + 1 =>
    match operator? tokens with
    | some "(" => do
      let (body, rest) ← listOf last true fuel (tokens.drop 1)
      match rest with
      | ⟨_, .operator ")"⟩ :: rest => return some (.subshell body, rest)
      | rest => complain last (some ")") rest
    | some _ => .ok none
    | none =>
      match bareWord? tokens with
      | some "\x7b" => do
        let (body, rest) ← listOf last true fuel (tokens.drop 1)
        let rest ← closed last "\x7d" rest
        return some (body, rest)
      | some "if" => do
        let (command, rest) ← choiceOf last fuel (tokens.drop 1)
        return some (command, rest)
      | some "while" => do
        let (condition, rest) ← listOf last true fuel (tokens.drop 1)
        let (body, rest) ← bodyOf last fuel rest
        return some (.loop false condition body, rest)
      | some "until" => do
        let (condition, rest) ← listOf last true fuel (tokens.drop 1)
        let (body, rest) ← bodyOf last fuel rest
        return some (.loop true condition body, rest)
      | some "for" =>
        match bareWord? (tokens.drop 1) with
        | some name => do
          let rest := skipNewlines (tokens.drop 2)
          let (words, rest) := if bareWord? rest = some "in" then
              let (words, rest) := wordsOf [] (rest.drop 1)
              (some words, rest)
            else (none, rest)
          let rest := if operator? rest = some ";" then rest.drop 1 else rest
          let (body, rest) ← bodyOf last fuel (skipNewlines rest)
          return some (.each name words body, rest)
        | none => complain last none (tokens.drop 1)
      | some "case" =>
        match tokens.drop 1 with
        | ⟨_, .word subject⟩ :: rest => do
          let rest := skipNewlines rest
          if bareWord? rest = some "in" then
            let (arms, rest) ← armsOf last fuel (skipNewlines (rest.drop 1))
            return some (.select subject arms, rest)
          else complain last (some "in") rest
        | rest => complain last none rest
      | some text => if closingWords.contains text then complain last none tokens else .ok none
      | none => .ok none

/-- What follows on `if` or `elif`. -/
def choiceOf (last fuel : Nat) (tokens : List Token) : Except Mistake (Command × List Token) :=
  match fuel with
  | 0 => complain last none tokens
  | fuel + 1 => do
    let (condition, rest) ← listOf last true fuel tokens
    let rest ← closed last "then" rest
    let (positive, rest) ← listOf last true fuel rest
    match bareWord? rest with
    | some "elif" =>
      let (negative, rest) ← choiceOf last fuel (rest.drop 1)
      return (.choice condition positive negative, rest)
    | some "else" =>
      let (negative, rest) ← listOf last true fuel (rest.drop 1)
      let rest ← closed last "fi" rest
      return (.choice condition positive negative, rest)
    | _ =>
      let rest ← closed last "fi" rest
      return (.choice condition positive .nothing, rest)

/-- The body of a loop. -/
def bodyOf (last fuel : Nat) (tokens : List Token) : Except Mistake (Command × List Token) :=
  match fuel with
  | 0 => complain last none tokens
  | fuel + 1 => do
    let rest ← closed last "do" tokens
    let (body, rest) ← listOf last true fuel rest
    let rest ← closed last "done" rest
    return (body, rest)

/-- The arms of a selection. -/
def armsOf (last fuel : Nat) (tokens : List Token) :
    Except Mistake (List (List Word × Command) × List Token) :=
  match fuel with
  | 0 => complain last none tokens
  | fuel + 1 =>
    if bareWord? tokens = some "esac" then .ok ([], tokens.drop 1)
    else do
      let tokens := if operator? tokens = some "(" then tokens.drop 1 else tokens
      let (patterns, rest) ← patternsOf last (tokens.length + 1) [] tokens
      let (body, rest) ← listOf last true fuel rest
      match rest with
      | ⟨_, .operator ";;"⟩ :: rest =>
        let (arms, rest) ← armsOf last fuel (skipNewlines rest)
        return ((patterns, body) :: arms, rest)
      | rest =>
        let rest ← closed last "esac" rest
        return ([(patterns, body)], rest)

end

/-- The commands of some tokens, a line at a time, and the mistake that ends them. -/
def linesOf (last fuel : Nat) (read : List Command) (tokens : List Token) :
    List Command × Option Mistake :=
  match fuel with
  | 0 => (read.reverse, none)
  | fuel + 1 =>
    match skipNewlines tokens with
    | [] => (read.reverse, none)
    | tokens =>
      match listOf last false (8 * tokens.length + 8) tokens with
      | .error mistake => (read.reverse, some mistake)
      | .ok (command, rest) =>
        match rest with
        | [] => ((command :: read).reverse, none)
        | ⟨_, .newline⟩ :: rest => linesOf last fuel (command :: read) rest
        | rest =>
          match complain (α := Unit) last none rest with
          | .error mistake => (read.reverse, some mistake)
          | .ok () => (read.reverse, none)

/-- The commands of a script, and the mistake that ends them if it is not read to its end. -/
def commandsOf (script : List Char) : List Command × Option Mistake :=
  let (tokens, unread) := tokensOf script
  let last := script.count '\n' + 1
  let (commands, mistake) := linesOf last (tokens.length + 1) [] tokens
  match unread with
  | .nothing => (commands, mistake)
  | .unterminated line =>
    /- The line with the open quote is not run, since it is not complete. -/
    let whole := tokens.filter fun token => token.line < line
    let (commands, mistake) := linesOf last (tokens.length + 1) [] whole
    (commands, mistake.orElse fun () => some (.unterminated last))

end Dialogs.Script
