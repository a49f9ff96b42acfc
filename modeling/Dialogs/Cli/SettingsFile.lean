import Dialogs.Cli.Layer
import Dialogs.Ini
import Dialogs.Json.Decode
import Dialogs.Json5.Document
import Dialogs.Ron.Document
import Dialogs.StrictYaml.Value
import Dialogs.Toml.Document

/-!
# Settings files

A settings file holds a table in one of several formats, told apart by the extension of its name. YAML in a
settings file is strict YAML.
-/

namespace Dialogs.Cli

namespace SettingsFile

/-- The name of an entry. -/
def keyOf : StrictYaml.Value → Except SettingsFault String
  | .text name => .ok name
  | .integer value => .ok (toString value)
  | _ => .error .unusableKey

/-- The entries of a table with the last of each name only. -/
def lastOfEach {α : Type} (entries : List (String × α)) : List (String × α) :=
  entries.foldl (fun kept entry => kept.filter (fun (name, _) => name != entry.1) ++ [entry]) []

mutual

/-- What a YAML value holds. A number that is not written in digits is refused, unless its spelling is
common to all numbers. -/
def heldOfYaml : StrictYaml.Value → Except SettingsFault Held
  | .null | .unusable => .ok .nothing
  | .flag value => .ok (.flag value)
  | .integer value => .ok (.integer value)
  | .real text =>
    match Decimal.readDouble text.toList with
    | some value => .ok (.real value)
    | none => .error .malformed
  | .text value => .ok (.text value)
  | .list elements => do return .list (← heldOfYamlElements elements)
  | .table entries => do return .table (lastOfEach (← heldOfYamlEntries entries))

/-- What the elements of a YAML sequence hold. -/
def heldOfYamlElements : List StrictYaml.Value → Except SettingsFault (List Held)
  | [] => .ok []
  | element :: rest => do return (← heldOfYaml element) :: (← heldOfYamlElements rest)

/-- What the entries of a YAML mapping hold. -/
def heldOfYamlEntries :
    List (StrictYaml.Value × StrictYaml.Value) → Except SettingsFault (List (String × Held))
  | [] => .ok []
  | entry :: rest => do return (← heldOfYamlEntry entry) :: (← heldOfYamlEntries rest)

/-- What an entry of a YAML mapping holds. -/
def heldOfYamlEntry : StrictYaml.Value × StrictYaml.Value → Except SettingsFault (String × Held)
  | (key, value) => do return (← keyOf key, ← heldOfYaml value)

end

/-- The layer of something that has to be a table. -/
def layerOf : Held → Except SettingsFault Layer
  | .table entries => .ok entries
  | _ => .error .malformed

/-- Reads a settings file in YAML. A file without a document is an empty table. -/
def ofYaml (text : String) : Except SettingsFault Layer :=
  match StrictYaml.Value.read text with
  | some [] => .ok []
  | some [root] => do layerOf (← heldOfYaml root)
  | _ => .error .malformed

mutual

/-- What a JSON value holds. -/
def heldOfJson : Json → Held
  | .null => .nothing
  | .bool value => .flag value
  | .number (.integer value _ _) =>
    if value ≤ Text.largestSigned64 then .integer value
    else .real ((Double.ofFraction? false value.toNat 1).getD Double.zero)
  | .number (.double value) => .real value
  | .string value => .text value
  | .array elements => .list (heldOfElements elements)
  | .object members => .table (heldOfMembers members)

/-- What JSON elements hold. -/
def heldOfElements : List Json → List Held
  | [] => []
  | element :: rest => heldOfJson element :: heldOfElements rest

/-- What JSON members hold. -/
def heldOfMembers : List (String × Json) → List (String × Held)
  | [] => []
  | member :: rest => heldOfMember member :: heldOfMembers rest

/-- What a JSON member holds. -/
def heldOfMember : String × Json → String × Held
  | (name, value) => (name, heldOfJson value)

end

/-- Reads a settings file in JSON. -/
def ofJson (text : String) : Except SettingsFault Layer :=
  match Json.documentOfText text with
  | .ok document => layerOf (heldOfJson document.json)
  | .error _ => .error .malformed

mutual

/-- What a TOML value holds. -/
def heldOfToml : Toml.Value → Held
  | .flag value => .flag value
  | .integer value => .integer value
  | .real value => .real value
  | .text value => .text value
  | .list elements => .list (heldOfTomlElements elements)
  | .table entries => .table (heldOfTomlEntries entries)

/-- What the elements of a TOML array hold. -/
def heldOfTomlElements : List Toml.Value → List Held
  | [] => []
  | element :: rest => heldOfToml element :: heldOfTomlElements rest

/-- What the entries of a TOML table hold. -/
def heldOfTomlEntries : List (String × Toml.Value) → List (String × Held)
  | [] => []
  | entry :: rest => heldOfTomlEntry entry :: heldOfTomlEntries rest

/-- What an entry of a TOML table holds. -/
def heldOfTomlEntry : String × Toml.Value → String × Held
  | (key, value) => (key, heldOfToml value)

end

/-- Reads a settings file in TOML. -/
def ofToml (text : String) : Except SettingsFault Layer :=
  match Toml.readDocument text with
  | some entries => .ok (heldOfTomlEntries entries)
  | none => .error .malformed

/-- Reads a settings file in JSON5. -/
def ofJson5 (text : String) : Except SettingsFault Layer :=
  match Json5.read? text with
  | some value => layerOf (heldOfJson value.document.json)
  | none => .error .malformed

/-- What some entries hold that are all texts. -/
def heldOfTexts (entries : List (String × String)) : List (String × Held) :=
  lastOfEach (entries.map fun (name, value) => (name, .text value))

/-- Reads a settings file in INI. Of sections with one name the last counts. -/
def ofIni (text : String) : Except SettingsFault Layer :=
  match Ini.read? text with
  | some ini =>
    let sections := ini.sections.map fun (name, entries) => (name, Held.table (heldOfTexts entries))
    .ok (lastOfEach (heldOfTexts ini.entries ++ sections))
  | none => .error .malformed

/-- The name of an entry in RON. -/
def keyOfRon : Ron.Value → Except SettingsFault String
  | .text name => .ok name
  | _ => .error .malformed

mutual

/-- What a RON value holds. -/
def heldOfRon : Ron.Value → Except SettingsFault Held
  | .nothing => .ok .nothing
  | .present value => heldOfRon value
  | .flag value => .ok (.flag value)
  | .number (.integer value) => .ok (.integer value)
  | .number (.real value) => .ok (.real value)
  | .text value => .ok (.text value)
  | .list elements => do return .list (← heldOfRonElements elements)
  | .table entries => do return .table (lastOfEach (← heldOfRonEntries entries))

/-- What the elements of a RON list hold. -/
def heldOfRonElements : List Ron.Value → Except SettingsFault (List Held)
  | [] => .ok []
  | element :: rest => do return (← heldOfRon element) :: (← heldOfRonElements rest)

/-- What the entries of a RON table hold. -/
def heldOfRonEntries : List (Ron.Value × Ron.Value) → Except SettingsFault (List (String × Held))
  | [] => .ok []
  | entry :: rest => do return (← heldOfRonEntry entry) :: (← heldOfRonEntries rest)

/-- What an entry of a RON table holds. -/
def heldOfRonEntry : Ron.Value × Ron.Value → Except SettingsFault (String × Held)
  | (key, value) => do return (← keyOfRon key, ← heldOfRon value)

end

/-- Reads a settings file in RON. -/
def ofRon (text : String) : Except SettingsFault Layer :=
  match Ron.read? text with
  | some value => do layerOf (← heldOfRon value)
  | none => .error .malformed

/-- The formats of settings files, by the extensions of their names. -/
def formats : List (String × (String → Except SettingsFault Layer)) :=
  [("toml", ofToml), ("json", ofJson), ("yaml", ofYaml), ("yml", ofYaml), ("ini", ofIni), ("ron", ofRon),
   ("json5", ofJson5)]

/-- Reads a settings file with an extension. A file of another kind says nothing. -/
def read (extension text : String) : Except SettingsFault Layer :=
  match formats.lookup extension with
  | some reader => reader text
  | none => .ok []

end SettingsFile

end Dialogs.Cli
