import Dialogs.Cli.Grammar

/-!
# Reading a level of a command line

The arguments of a level are read one after the other. The value of an option or positional argument is
checked only when the next argument is understood, or at the end; so a value that is malformed goes
unnoticed when an argument that nobody knows follows.
-/

namespace Dialogs.Cli

/-- What has been read but not been checked. -/
inductive Pending where
  | nothing
  /-- An option whose value comes next. -/
  | awaited (name : String) (kind : Kind)
  /-- An argument. -/
  | held (name : String) (kind : Kind) (written : String)
  deriving DecidableEq, Repr

/-- How far a level has been read. -/
structure Progress where
  /-- The arguments that have been accepted, by name, last first. -/
  accepted : List (String × Value)
  pending : Pending
  /-- The positional arguments that are still to come. -/
  slots : List Slot
  /-- Whether only positional arguments follow. -/
  trailing : Bool
  deriving DecidableEq, Repr

namespace Progress

/-- The start of a level. -/
def start (level : Level) : Progress := ⟨[], .nothing, level.slots, false⟩

/-- The value that has been accepted for a name. -/
def value? (progress : Progress) (name : String) : Option Value :=
  (progress.accepted.find? fun (other, _) => other == name).map Prod.snd

/-- Accepts an argument, unless it is there already. -/
def accept (progress : Progress) (name : String) (checked : Except Rejection Value) :
    Except Rejection Progress :=
  if (progress.value? name).isSome then .error .argumentRepeated
  else
    match checked with
    | .ok value => .ok { progress with accepted := (name, value) :: progress.accepted }
    | .error rejection => .error rejection

/-- Checks what has not been checked. -/
def settle (progress : Progress) : Except Rejection Progress :=
  match progress.pending with
  | .nothing => .ok progress
  | .awaited _ _ => .error .valueMissing
  | .held name kind written =>
    { progress with pending := .nothing }.accept name (kind.check written)

/-- Carries out an option without a value. -/
def carryOut (progress : Progress) (switch : Switch) : Except Rejection Progress := do
  let settled ← progress.settle
  match switch.effect with
  | .help => throw .help
  | .version => throw .version
  | .set => settled.accept switch.name (.ok .present)
  | .take kind => return { settled with pending := .awaited switch.name kind }

/-- Carries out an option with a value attached. -/
def carryOutWith (progress : Progress) (switch : Switch) (written : String) :
    Except Rejection Progress :=
  match switch.effect with
  | .take kind => do
    let settled ← progress.settle
    settled.accept switch.name (kind.check written)
  | .set | .help | .version => .error .valueUnwanted

/-- Reads a long option: its name, and behind an equals sign its value. -/
def long (level : Level) (progress : Progress) (body : List Char) : Except Rejection Progress :=
  let name := body.takeWhile (· != '=')
  match level.named? (String.ofList name) with
  | none => .error .argumentUnknown
  | some switch =>
    match body.drop name.length with
    | _ :: value => progress.carryOutWith switch (String.ofList value)
    | [] => progress.carryOut switch

/-- Reads letters of options. One that takes a value takes what follows, without an equals sign in
front, or else the next argument. -/
def letters (level : Level) (progress : Progress) : List Char → Except Rejection Progress
  | [] => .ok progress
  | letter :: rest =>
    match level.lettered? letter with
    | none => .error .argumentUnknown
    | some switch =>
      match switch.effect, rest with
      | .take _, '=' :: value => progress.carryOutWith switch (String.ofList value)
      | .take _, _ :: _ => progress.carryOutWith switch (String.ofList rest)
      | .take _, [] => progress.carryOut switch
      | _, _ => do letters level (← progress.carryOut switch) rest

/-- Reads a positional argument. -/
def place (level : Level) (progress : Progress) (argument : String) :
    Except Rejection Progress := do
  let settled ← progress.settle
  match progress.slots with
  | slot :: slots =>
    return { settled with pending := .held slot.name slot.kind argument, slots }
  | [] =>
    if level.commands.isEmpty || progress.trailing && level.commands.contains argument then
      throw .argumentUnknown
    else throw .commandUnknown

/-- What an argument looks like. -/
inductive Form where
  | escape
  | long (body : List Char)
  | letters (letters : List Char)
  | plain
  deriving DecidableEq, Repr

/-- The form of an argument. A dash alone is plain. -/
def Form.of (argument : String) : Form :=
  match argument.toList with
  | ['-', '-'] => .escape
  | '-' :: '-' :: body => .long body
  | '-' :: letter :: rest => .letters (letter :: rest)
  | _ => .plain

/-- Whether an argument ends the level: it is the name of a command, where no value is awaited. -/
def endsAt (level : Level) (progress : Progress) (argument : String) : Bool :=
  let awaiting := match progress.pending with
    | .awaited _ _ => true
    | _ => false
  !progress.trailing && !awaiting && level.commands.contains argument

/-- Reads an argument that does not end the level. -/
def read (level : Level) (progress : Progress) (argument : String) : Except Rejection Progress :=
  if progress.trailing then progress.place level argument
  else
    match Form.of argument with
    | .escape => .ok { progress with trailing := true }
    | .long body => progress.long level body
    | .letters letters => progress.letters level letters
    | .plain =>
      match progress.pending with
      | .awaited name kind => .ok { progress with pending := .held name kind argument }
      | _ => progress.place level argument

/-- Reads arguments up to the one that ends the level: what has been read, and the end with what is
behind it. -/
def readAll (level : Level) : Progress → List String →
    Except Rejection (Progress × Option (String × List String))
  | progress, [] => .ok (progress, none)
  | progress, argument :: rest =>
    if progress.endsAt level argument then .ok (progress, some (argument, rest))
    else
      match progress.read level argument with
      | .ok progress => readAll level progress rest
      | .error rejection => .error rejection

/-- The end of a level: everything is checked, and nothing that is required is missing. -/
def finish (level : Level) (progress : Progress) : Except Rejection Progress := do
  let settled ← progress.settle
  if level.slots.all fun slot => !slot.required || (settled.value? slot.name).isSome then
    return settled
  else throw .argumentMissing

/-- The text that was given under a name. -/
def text? (progress : Progress) (name : String) : Option String :=
  match progress.value? name with
  | some (.text text) => some text
  | _ => none

/-- The number that was given under a name. -/
def number? (progress : Progress) (name : String) : Option UInt64 :=
  match progress.value? name with
  | some (.number number) => some number
  | _ => none

/-- The icon that was given under a name. -/
def icon? (progress : Progress) (name : String) : Option MessageIcon :=
  match progress.value? name with
  | some (.icon icon) => some icon
  | _ => none

/-- Whether an option was set. -/
def has (progress : Progress) (name : String) : Bool := (progress.value? name).isSome

end Progress

end Dialogs.Cli
