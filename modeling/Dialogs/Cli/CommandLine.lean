import Dialogs.Cli.Progress

/-!
# Command lines

What the program is asked to do: a command with its own arguments, and options that concern the
renderer and the log. Those options may stand in front of the name of the command and behind it; what
stands behind wins.
-/

namespace Dialogs.Cli

/-- The options that hold for every command. -/
structure Flags where
  executable : Option String
  backend : Option String
  debug : Bool
  timeout : Option UInt64
  logDir : Option String
  deriving DecidableEq, Repr

/-- A command of the program. -/
inductive Request where
  | show (file : Option String) (follow json unchecked : Bool)
  | load (file : String) (json : Bool)
  | message (title text : String) (icon : Option MessageIcon)
  | confirm (title text : String) (icon : Option MessageIcon)
  | input (title : String) (text value : Option String)
  | password (title : String) (text : Option String)
  | selectDir (title dir : Option String)
  | loadFile (title filter dir : Option String)
  | saveFile (title filter dir : Option String)
  | backends
  deriving DecidableEq, Repr

/-- A command line that has been understood. -/
structure CommandLine where
  flags : Flags
  request : Request
  deriving DecidableEq, Repr

/-- The switches that every level has. -/
def globalSwitches : List Switch :=
  [⟨"executable", none, .take .text⟩, ⟨"backend", some 'b', .take .text⟩,
   ⟨"debug", some 'd', .set⟩, ⟨"timeout", none, .take .number⟩, ⟨"log-dir", none, .take .path⟩]

/-- The switch that asks for help. -/
def helpSwitch : Switch := ⟨"help", some 'h', .help⟩

/-- The name of the command that asks for help. -/
def helpCommand : String := "help"

/-- A command: its level, and what is made of its arguments. -/
structure Entry where
  name : String
  switches : List Switch
  slots : List Slot
  request : Progress → Request

/-- The level of a command. -/
def Entry.level (entry : Entry) : Level :=
  ⟨entry.switches ++ globalSwitches ++ [helpSwitch], entry.slots, []⟩

/-- The slots of a message. -/
def messageSlots : List Slot := [⟨"title", .text, true⟩, ⟨"text", .text, true⟩]

/-- The switches of a file picker. -/
def fileSwitches : List Switch :=
  [⟨"title", none, .take .text⟩, ⟨"filter", some 'f', .take .text⟩, ⟨"dir", none, .take .path⟩]

/-- The commands of the program. -/
def entries : List Entry :=
  [{ name := "show"
     switches := [⟨"follow", none, .set⟩, ⟨"json", none, .set⟩, ⟨"unchecked", none, .set⟩]
     slots := [⟨"file", .path, false⟩]
     request := fun given =>
      .show (given.text? "file") (given.has "follow") (given.has "json") (given.has "unchecked") },
   { name := "load"
     switches := [⟨"json", none, .set⟩]
     slots := [⟨"file", .path, true⟩]
     request := fun given => .load ((given.text? "file").getD "") (given.has "json") },
   { name := "message"
     switches := [⟨"icon", some 'i', .take .icon⟩]
     slots := messageSlots
     request := fun given =>
      .message ((given.text? "title").getD "") ((given.text? "text").getD "") (given.icon? "icon") },
   { name := "confirm"
     switches := [⟨"icon", some 'i', .take .icon⟩]
     slots := messageSlots
     request := fun given =>
      .confirm ((given.text? "title").getD "") ((given.text? "text").getD "") (given.icon? "icon") },
   { name := "input"
     switches := [⟨"text", some 't', .take .text⟩, ⟨"value", some 'v', .take .text⟩]
     slots := [⟨"title", .text, true⟩]
     request := fun given =>
      .input ((given.text? "title").getD "") (given.text? "text") (given.text? "value") },
   { name := "password"
     switches := [⟨"text", some 't', .take .text⟩]
     slots := [⟨"title", .text, true⟩]
     request := fun given => .password ((given.text? "title").getD "") (given.text? "text") },
   { name := "select-dir"
     switches := [⟨"title", none, .take .text⟩, ⟨"dir", none, .take .path⟩]
     slots := []
     request := fun given => .selectDir (given.text? "title") (given.text? "dir") },
   { name := "load-file"
     switches := fileSwitches
     slots := []
     request := fun given =>
      .loadFile (given.text? "title") (given.text? "filter") (given.text? "dir") },
   { name := "save-file"
     switches := fileSwitches
     slots := []
     request := fun given =>
      .saveFile (given.text? "title") (given.text? "filter") (given.text? "dir") },
   { name := "backends"
     switches := []
     slots := []
     request := fun _ => .backends }]

/-- The command of a name. -/
def entry? (name : String) : Option Entry := entries.find? fun entry => entry.name == name

/-- The level of the program. -/
def programLevel : Level :=
  ⟨globalSwitches ++ [helpSwitch, ⟨"version", some 'V', .version⟩], [],
    entries.map Entry.name ++ [helpCommand]⟩

/-- The flags that two levels give; what the inner level gives wins. -/
def flagsOf (outer inner : Progress) : Flags :=
  { executable := (inner.text? "executable").or (outer.text? "executable")
    backend := (inner.text? "backend").or (outer.text? "backend")
    debug := inner.has "debug" || outer.has "debug"
    timeout := (inner.number? "timeout").or (outer.number? "timeout")
    logDir := (inner.text? "log-dir").or (outer.text? "log-dir") }

/-- Why a command line without a command is rejected. -/
def withoutCommand (progress : Progress) : Rejection :=
  match progress.settle with
  | .error rejection => rejection
  | .ok settled => if settled.accepted.isEmpty then .empty else .commandMissing

/-- Why a request for help on a command is rejected: help is what rejects it, unless there is no such
command. -/
def helpOn (arguments : List String) : Rejection :=
  match arguments with
  | [] => .help
  | [name] => if programLevel.commands.contains name then .help else .commandUnknown
  | _ => .commandUnknown

/-- Reads the arguments of a command, those of the program in front of them being read. -/
def readCommand (outer : Progress) (entry : Entry) (arguments : List String) :
    Except Rejection CommandLine := do
  let (inner, _) ← (Progress.start entry.level).readAll entry.level arguments
  let inner ← inner.finish entry.level
  let outer ← outer.settle
  return ⟨flagsOf outer inner, entry.request inner⟩

/-- Reads a command line, without the name of the program. -/
def CommandLine.parse (arguments : List String) : Except Rejection CommandLine := do
  let (outer, command) ← (Progress.start programLevel).readAll programLevel arguments
  match command with
  | none => throw (withoutCommand outer)
  | some (name, rest) =>
    match entry? name with
    | some entry => readCommand outer entry rest
    | none => throw (helpOn rest)

end Dialogs.Cli
