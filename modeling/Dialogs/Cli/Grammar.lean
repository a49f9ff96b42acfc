import Dialogs.Command
import Dialogs.Config

/-!
# Grammar of a command line

A command line has levels: that of the program, whose arguments end with the name of a command, and that
of the command. A level declares options, which begin with dashes and stand anywhere, and positional
arguments, which are told apart by their order.
-/

namespace Dialogs.Cli

/-- What an argument may be. -/
inductive Kind where
  | text
  /-- A path, which may not be empty. -/
  | path
  /-- A whole number of the unsigned 64-bit range. -/
  | number
  | icon
  deriving DecidableEq, Repr

/-- A checked argument. -/
inductive Value where
  | present
  | text (text : String)
  | number (number : UInt64)
  | icon (icon : MessageIcon)
  deriving DecidableEq, Repr

/-- Why a command line is rejected. Asking for help or for the version rejects it too. -/
inductive Rejection where
  | help
  | version
  /-- Nothing at all is asked for. -/
  | empty
  | commandMissing
  | commandUnknown
  | argumentUnknown
  | argumentMissing
  | argumentRepeated
  /-- An option stands without its value, or a path is empty. -/
  | valueMissing
  | valueMalformed
  /-- A value is attached to an option that takes none. -/
  | valueUnwanted
  deriving DecidableEq, Repr

/-- Checks an argument. -/
def Kind.check (kind : Kind) (written : String) : Except Rejection Value :=
  match kind with
  | .text => .ok (.text written)
  | .path => if written.isEmpty then .error .valueMissing else .ok (.text written)
  | .number =>
    match Config.parseTimeout written with
    | .ok seconds => .ok (.number seconds)
    | .error _ => .error .valueMalformed
  | .icon =>
    match MessageIcon.ofName? written with
    | some chosen => .ok (.icon chosen)
    | none => .error .valueMalformed

/-- What an option does. -/
inductive Effect where
  /-- It takes a value. -/
  | take (kind : Kind)
  /-- It is there or not. -/
  | set
  | help
  | version
  deriving DecidableEq, Repr

/-- An option, by its long name and, if it has one, by its letter. -/
structure Switch where
  name : String
  letter : Option Char
  effect : Effect
  deriving DecidableEq, Repr

/-- A positional argument. -/
structure Slot where
  name : String
  kind : Kind
  required : Bool
  deriving DecidableEq, Repr

/-- What the arguments of a level may be. -/
structure Level where
  switches : List Switch
  slots : List Slot
  /-- The names that end the level, those of commands. -/
  commands : List String
  deriving DecidableEq, Repr

/-- The option of a long name. -/
def Level.named? (level : Level) (name : String) : Option Switch :=
  level.switches.find? fun switch => switch.name == name

/-- The option of a letter. -/
def Level.lettered? (level : Level) (letter : Char) : Option Switch :=
  level.switches.find? fun switch => switch.letter == some letter

end Dialogs.Cli
