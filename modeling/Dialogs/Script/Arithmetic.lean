import Dialogs.Script.Printf

/-!
# Arithmetic of a script

Integer expressions over 64-bit words, whose operators bind as tightly as their level says. Division
goes toward zero, and division by zero is an error.
-/

namespace Dialogs.Script

/-- A lexical unit of an expression. -/
inductive Term where
  | number (value : Int64)
  | name (name : String)
  | operator (text : String)
  deriving DecidableEq, Repr

/-- The operators of an expression, longer ones first. -/
def arithmeticOperators : List String :=
  ["<<=", ">>=", "+=", "-=", "*=", "/=", "%=", "&=", "|=", "^=", "<<", ">>", "<=", ">=", "==", "!=", "&&", "||", "+", "-", "*", "/", "%", "<", ">", "&", "|", "^",
   "!", "~", "(", ")", "?", ":", "="]

/-- The units of an expression. -/
def termsOf (fuel : Nat) (text : List Char) : Option (List Term) :=
  match fuel, text with
  | _, [] => some []
  | 0, _ => none
  | fuel + 1, c :: rest =>
    if c == ' ' || c == '\t' || c == '\n' then termsOf fuel rest
    else if c.isDigit then do
      let digits := text.takeWhile Char.isAlphanum
      match integerOf (digits.map Char.toUInt8) with
      | (value, none) =>
        let terms ← termsOf fuel (text.drop digits.length)
        return .number (Int64.ofInt value) :: terms
      | _ => none
    else if c == '_' || c.isAlpha then do
      let name := text.takeWhile fun c => c == '_' || c.isAlphanum
      let terms ← termsOf fuel (text.drop name.length)
      return .name (String.ofList name) :: terms
    else do
      let operator ← arithmeticOperators.find? fun operator => operator.toList.isPrefixOf text
      let terms ← termsOf fuel (text.drop operator.length)
      return .operator operator :: terms

/-- How tightly an operator between two operands binds, if it is one. -/
def bindingOf : String → Option Nat
  | "*" | "/" | "%" => some 10
  | "+" | "-" => some 9
  | "<<" | ">>" => some 8
  | "<" | "<=" | ">" | ">=" => some 7
  | "==" | "!=" => some 6
  | "&" => some 5
  | "^" => some 4
  | "|" => some 3
  | "&&" => some 2
  | "||" => some 1
  | _ => none

/-- The number of a truth value. -/
def truth (value : Bool) : Int64 := if value then 1 else 0

/-- The value of an operator between two operands. -/
def combine (operator : String) (first second : Int64) : Option Int64 :=
  match operator with
  | "*" => some (first * second)
  | "/" => if second = 0 then none else some (first / second)
  | "%" => if second = 0 then none else some (first % second)
  | "+" => some (first + second)
  | "-" => some (first - second)
  | "<<" => some (first <<< second)
  | ">>" => some (first >>> second)
  | "<" => some (truth (first < second))
  | "<=" => some (truth (first ≤ second))
  | ">" => some (truth (second < first))
  | ">=" => some (truth (second ≤ first))
  | "==" => some (truth (first = second))
  | "!=" => some (truth (first ≠ second))
  | "&" => some (first &&& second)
  | "^" => some (first ^^^ second)
  | "|" => some (first ||| second)
  | "&&" => some (truth (first ≠ 0 && second ≠ 0))
  | "||" => some (truth (first ≠ 0 || second ≠ 0))
  | _ => none

mutual

/-- The value of an operand at the start of an expression, and the rest. -/
def operandOf (lookup : String → Int64) (fuel : Nat) (terms : List Term) :
    Option (Int64 × List Term) :=
  match fuel with
  | 0 => none
  | fuel + 1 =>
    match terms with
    | .number value :: rest => some (value, rest)
    | .name name :: rest => some (lookup name, rest)
    | .operator "(" :: rest => do
      let (value, rest) ← expressionOf lookup fuel rest
      match rest with
      | .operator ")" :: rest => return (value, rest)
      | _ => none
    | .operator "-" :: rest => do
      let (value, rest) ← operandOf lookup fuel rest
      return (0 - value, rest)
    | .operator "+" :: rest => operandOf lookup fuel rest
    | .operator "!" :: rest => do
      let (value, rest) ← operandOf lookup fuel rest
      return (truth (value = 0), rest)
    | .operator "~" :: rest => do
      let (value, rest) ← operandOf lookup fuel rest
      return (~~~value, rest)
    | _ => none

/-- Goes on with the operators that bind at least as tightly as a level. -/
def operatorsOf (lookup : String → Int64) (fuel level : Nat) (value : Int64) (terms : List Term) :
    Option (Int64 × List Term) :=
  match fuel with
  | 0 => none
  | fuel + 1 =>
    match terms with
    | .operator operator :: rest =>
      match bindingOf operator with
      | none => some (value, terms)
      | some binding =>
        if binding < level then some (value, terms)
        else do
          let (operand, rest) ← operandOf lookup fuel rest
          let (second, rest) ← operatorsOf lookup fuel (binding + 1) operand rest
          let value ← combine operator value second
          operatorsOf lookup fuel level value rest
    | terms => some (value, terms)

/-- The value of an expression, and the rest. -/
def expressionOf (lookup : String → Int64) (fuel : Nat) (terms : List Term) :
    Option (Int64 × List Term) :=
  match fuel with
  | 0 => none
  | fuel + 1 => do
    let (value, rest) ← operandOf lookup fuel terms
    let (value, rest) ← operatorsOf lookup fuel 1 value rest
    match rest with
    | .operator "?" :: rest => do
      let (positive, rest) ← expressionOf lookup fuel rest
      match rest with
      | .operator ":" :: rest => do
        let (negative, rest) ← expressionOf lookup fuel rest
        return (if value = 0 then negative else positive, rest)
      | _ => none
    | rest => return (value, rest)

end

/-- Why an expression has no value. -/
inductive ArithmeticError where
  | malformed
  | divisionByZero
  deriving DecidableEq, Repr

/-- The wording of an error. -/
def ArithmeticError.message : ArithmeticError → String
  | .malformed => "expecting primary"
  | .divisionByZero => "division by zero"

/-- The value of an expression without assignment. -/
def valueOf (lookup : String → Int64) (terms : List Term) : Except ArithmeticError Int64 :=
  match terms with
  | [] => .ok 0
  | terms =>
    match expressionOf lookup (4 * terms.length + 4) terms with
    | some (value, []) => .ok value
    | _ =>
      if terms.contains (.operator "/") || terms.contains (.operator "%") then
        .error .divisionByZero
      else .error .malformed

/-- The value of an expression, and the assignment that it makes. An empty one is zero. -/
def evaluate (lookup : String → Int64) (text : List Char) :
    Except ArithmeticError (Int64 × Option String) :=
  match termsOf (text.length + 1) text with
  | none => .error .malformed
  | some (.name name :: .operator "=" :: rest) => do
    return (← valueOf lookup rest, some name)
  | some (.name name :: .operator operator :: rest) =>
    let plain := operator.dropEnd 1 |>.copy
    if operator.endsWith "=" && !(["<=", ">=", "==", "!="].contains operator) then do
      return (← valueOf lookup (.name name :: .operator plain :: .operator "(" :: rest ++ [.operator ")"]),
        some name)
    else do return (← valueOf lookup (.name name :: .operator operator :: rest), none)
  | some terms => do return (← valueOf lookup terms, none)

end Dialogs.Script
