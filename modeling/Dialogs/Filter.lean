import Dialogs.Text.Blank
import Dialogs.Text.Pieces
import Dialogs.Json.Record

/-!
# File filters

A file dialog offers filters such as `Images` for `*.png` and `*.jpg`. Many filters are written in
one text, `Images|*.png;*.jpg|All|*`: names and extension lists alternate between bars, and the
extensions of a list stand between semicolons. Blanks around a part do not belong to it, and a part
of nothing but blanks does not count. A name at the end without extensions is dropped.
-/

namespace Dialogs

/-- A filter of a file dialog: what it is called, and the patterns of the files that it shows. -/
structure Filter where
  name : String
  extensions : List String
  deriving DecidableEq, Repr

namespace Filter

/-- The parts of a text between the occurrences of `separator`, trimmed, without the empty ones. -/
def segments (separator : Char) (text : List Char) : List (List Char) :=
  ((Text.piecesChars separator text).map Text.trimChars).filter (!·.isEmpty)

/-- The filter of a name and the text of its extensions. -/
def ofSegments (name extensions : List Char) : Filter :=
  { name := String.ofList name, extensions := (segments ';' extensions).map String.ofList }

/-- How far the reading of a filter text has come: the name that waits for its extensions, if one
does, and the filters that are complete. -/
structure Pairing where
  waiting : Option (List Char)
  filters : List Filter

namespace Pairing

/-- Nothing has been read. -/
def start : Pairing := ⟨none, []⟩

/-- A segment is read: the extensions for the name that waits, or the next name if none does. -/
def take (pairing : Pairing) (segment : List Char) : Pairing :=
  match pairing.waiting with
  | none => { pairing with waiting := some segment }
  | some name => ⟨none, pairing.filters ++ [ofSegments name segment]⟩

/-- Segments are read one after the other. -/
def run (pairing : Pairing) (segments : List (List Char)) : Pairing := segments.foldl take pairing

end Pairing

/-- The filters of a filter text: those that are complete when its segments have been read. -/
def parse (text : String) : List Filter :=
  (Pairing.start.run (segments '|' text.toList)).filters

/-- The text of one filter. -/
def format (filter : Filter) : String := filter.name ++ "|" ++ ";".intercalate filter.extensions

/-- The filter text of filters, as the renderer takes it. -/
def formatAll (filters : List Filter) : String := "|".intercalate (filters.map format)

/-- How a filter is written in JSON. -/
def record : Json.Record Filter :=
  { name := "Filter"
    fields :=
      [.plain "name" true Json.Draft.toText fun name filter => { filter with name },
       { key := "ext", required := true
         decode := fun origin held => do
          let extensions ← held.toList Json.Draft.toText origin
          return fun filter => { filter with extensions } }]
    initial := ⟨"", []⟩
    strict := false }

/-- The JSON value of a filter. -/
def toJson (filter : Filter) : Json :=
  .object [("name", .string filter.name), ("ext", .array (filter.extensions.map .string))]

end Filter

end Dialogs
