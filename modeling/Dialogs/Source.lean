import Dialogs.Json.Decode
import Dialogs.Text.Pieces
import Dialogs.Yaml.Document

/-!
# Sources of dialog documents

A dialog is read from a text in JSON or YAML. The name of the file decides which: YAML has one of two
extensions, and everything else is JSON, as is what comes without a name.
-/

namespace Dialogs.Source

/-- Why a text is not a document. -/
inductive Fault where
  | json (cause : Json.Error)
  | yaml
  deriving DecidableEq, Repr

/-- The causes of a fault, as far as they can be told. -/
def Fault.causes : Fault → List String
  | .json cause => [cause.message]
  | .yaml => []

/-- The names on a path, without those that stand for the directory itself. -/
def names (path : String) : List String :=
  (Text.pieces '/' path).filter fun name => name != "" && name != "."

/-- The extension of a name: what is behind its last dot, if the dot is not its first character. -/
def extensionOf (name : List Char) : Option String :=
  let behind := (name.reverse.takeWhile (· != '.')).reverse
  if behind.length + 1 < name.length && name != ['.', '.'] then some (String.ofList behind) else none

/-- The extension of the last name on a path. -/
def extension? (path : String) : Option String := do
  extensionOf (← (names path).getLast?).toList

/-- Whether a file holds YAML, by its name. -/
def isYaml (file : Option String) : Bool :=
  match file.bind extension? with
  | some extension => extension == "yaml" || extension == "yml"
  | none => false

/-- Reads a document from the text of a file. -/
def read (contents : String) (file : Option String) : Except Fault Json.Document :=
  if isYaml file then
    match Yaml.jsonOfText contents with
    | some value => .ok value.document
    | none => .error .yaml
  else (Json.documentOfText contents).mapError .json

end Dialogs.Source
