import Dialogs.Decimal.Double

/-!
# TOML tables

A TOML document fills a tree of tables. A table is opened by a header, or on the way to a longer header, or
by a key with dots, and how it was opened decides what may still be added to it: nothing is ever said
twice. An array of tables grows by one table with each of its headers.
-/

namespace Dialogs.Toml

/-- A value of TOML. A date is kept as its text. -/
inductive Value where
  | flag (value : Bool)
  | integer (value : Int)
  | real (value : Double)
  | text (value : String)
  | list (elements : List Value)
  | table (entries : List (String × Value))
  deriving Repr

/-- How a table was opened. -/
inductive Opening where
  /-- On the way to a longer header. -/
  | implied
  | headed
  /-- By a key with dots. -/
  | dotted
  deriving DecidableEq, Repr

/-- What stands at a key while a document is being read. -/
inductive Entry where
  | value (value : Value)
  | table (opening : Opening) (entries : List (String × Entry))
  /-- An array of tables, of which the last is the first here. -/
  | tables (elements : List (List (String × Entry)))
  deriving Repr

/-- The entries of a table. -/
abbrev Body := List (String × Entry)

namespace Body

/-- What stands at a key. -/
def get? (body : Body) (key : String) : Option Entry :=
  (body.find? fun (other, _) => other == key).map Prod.snd

/-- Puts something at a key. -/
def put (body : Body) (key : String) (entry : Entry) : Body :=
  (key, entry) :: body.filter fun (other, _) => other != key

/-- Changes the table at a path, of which the missing tables are opened as `fresh` says. Keys with dots
lead through no table that has a header; of an array of tables they take the last. -/
def changeAt (fresh : Opening) (change : Opening → Body → Option Body) :
    List String → Opening → Body → Option Body
  | [], opening, body => change opening body
  | key :: rest, _, body =>
    match body.get? key with
    | none => do
      let entries ← changeAt fresh change rest fresh []
      return body.put key (.table fresh entries)
    | some (.table opening entries) => do
      if fresh = .dotted ∧ opening = .headed then none
      let entries ← changeAt fresh change rest opening entries
      return body.put key (.table opening entries)
    | some (.tables (last :: earlier)) => do
      let last ← changeAt fresh change rest .headed last
      return body.put key (.tables (last :: earlier))
    | some (.tables []) | some (.value _) => none

/-- Opens a table by a header. Only a table on the way to a longer header may be there already. -/
def openTable (path : List String) (key : String) (body : Body) : Option Body :=
  changeAt .implied (fun _ table =>
    match table.get? key with
    | none => some (table.put key (.table .headed []))
    | some (.table .implied entries) => some (table.put key (.table .headed entries))
    | some _ => none) path .headed body

/-- Adds a table to an array of tables. -/
def addTable (path : List String) (key : String) (body : Body) : Option Body :=
  changeAt .implied (fun _ table =>
    match table.get? key with
    | none => some (table.put key (.tables [[]]))
    | some (.tables elements) => some (table.put key (.tables ([] :: elements)))
    | some _ => none) path .headed body

/-- Adds a value at a key with dots. Tables on its path are those of other keys with dots, and the key is
new. -/
def addValue (path : List String) (key : String) (value : Value) (body : Body) : Option Body :=
  changeAt .dotted (fun opening table =>
    if opening = .dotted ↔ path = [] then none
    else match table.get? key with
      | none => some (table.put key (.value value))
      | some _ => none) path .headed body

/-- Adds a value at a key with dots in the table of a header. -/
def addBelow (header : List String) (path : List String) (key : String) (value : Value)
    (body : Body) : Option Body :=
  changeAt .implied (fun _ table => table.addValue path key value) header .headed body

end Body

mutual

/-- The value of an entry, all of it said. -/
def Entry.toValue : Entry → Value
  | .value value => value
  | .table _ entries => .table (valuesOf entries)
  | .tables elements => .list (tablesOf elements)

/-- The values of entries. -/
def valuesOf : List (String × Entry) → List (String × Value)
  | [] => []
  | entry :: rest => namedValue entry :: valuesOf rest

/-- The value of an entry with its key. -/
def namedValue : String × Entry → String × Value
  | (key, entry) => (key, entry.toValue)

/-- The values of the tables of an array, from the last to the first, in their order. -/
def tablesOf : List (List (String × Entry)) → List Value
  | [] => []
  | entries :: earlier => tablesOf earlier ++ [.table (valuesOf entries)]

end

end Dialogs.Toml
