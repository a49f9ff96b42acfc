import Dialogs.Filter

/-!
# Renderer commands

The renderer has one mode for each kind of dialog, selected by its first argument. The arguments of
a mode are positional. An optional one can be left out only at the end, so one that is absent in
front of a given one is passed as the empty text. Options that hold for every mode stand behind
the positional arguments.
-/

namespace Dialogs

/-- The icon of a message box. -/
inductive MessageIcon where
  | info
  | question
  | warning
  | error
  deriving DecidableEq, Repr

namespace MessageIcon

/-- Every icon. -/
def all : List MessageIcon := [.info, .question, .warning, .error]

/-- The name of an icon. -/
def name : MessageIcon → String
  | .info => "info"
  | .question => "question"
  | .warning => "warning"
  | .error => "error"

/-- The icon with a name. -/
def ofName? (name : String) : Option MessageIcon := all.find? (·.name == name)

/-- The message about a name that no icon has. -/
def unknownMessage (name : String) : String := "unknown message icon: " ++ name

end MessageIcon

/-- What the renderer is asked to do. -/
inductive Command where
  /-- Show the dialog that is read from the standard input. -/
  | stdin
  /-- Show the dialog in a file. -/
  | load (path : String)
  | message (title text : String) (icon : Option MessageIcon)
  | confirm (title text : String) (icon : Option MessageIcon)
  | input (title : String) (text value : Option String)
  | password (title : String) (text : Option String)
  | selectDir (title dir : Option String)
  | loadFile (title : Option String) (filters : List Filter) (dir : Option String)
  | saveFile (title : Option String) (filters : List Filter) (dir : Option String)
  /-- Print the available backends. -/
  | list
  deriving DecidableEq, Repr

/-- The options that hold for every mode. -/
structure GlobalOptions where
  backend : Option String
  debug : Bool
  deriving DecidableEq, Repr

namespace Command

/-- The name of the mode. -/
def name : Command → String
  | .stdin => "stdin"
  | .load _ => "load"
  | .message _ _ _ => "message"
  | .confirm _ _ _ => "confirm"
  | .input _ _ _ => "input"
  | .password _ _ => "password"
  | .selectDir _ _ => "selectdir"
  | .loadFile _ _ _ => "loadfile"
  | .saveFile _ _ _ => "savefile"
  | .list => "list"

/-- Whether the mode reads a dialog from the standard input. -/
def readsStdin : Command → Bool
  | .stdin => true
  | _ => false

/-- Whether the mode lists the backends, so that no backend can be chosen for it. -/
def isList : Command → Bool
  | .list => true
  | _ => false

/-- Optional positional arguments: up to the last one given, with the empty text for those that are
absent. -/
def positionals : List (Option String) → List String
  | [] => []
  | value :: rest =>
    match value, positionals rest with
    | none, [] => []
    | value, later => value.getD "" :: later

/-- The filter text of filters, if there are any. -/
def filterArgument (filters : List Filter) : Option String :=
  if filters.isEmpty then none else some (Filter.formatAll filters)

/-- The positional arguments of a command. -/
def arguments : Command → List String
  | .stdin | .list => []
  | .load path => [path]
  | .message title text icon | .confirm title text icon =>
    [title, text] ++ (icon.map MessageIcon.name).toList
  | .input title text value => title :: positionals [text, value]
  | .password title text => title :: positionals [text]
  | .selectDir title dir => positionals [title, dir]
  | .loadFile title filters dir | .saveFile title filters dir =>
    positionals [title, filterArgument filters, dir]

/-- The arguments for the options. -/
def optionArguments (command : Command) (options : GlobalOptions) : List String :=
  (match options.backend with
    | some backend => if command.isList then [] else ["--backend", backend]
    | none => []) ++
  if options.debug then ["--debug"] else []

/-- The arguments that the renderer is run with. -/
def args (command : Command) (options : GlobalOptions) : List String :=
  command.name :: (command.arguments ++ command.optionArguments options)

end Command

end Dialogs
