import FormQuery.Json.Reader
import FormQuery.Sample.Cell
import FormQuery.Storage.Connection

/-! A small database: tables of texts, with the two forms of statements that bind their values. Names of tables and
columns are matched in any letter case. It is kept as a JSON document: a list of tables, each with its name, its columns
and its rows. -/

namespace FormQuery

structure Table where
  name : String
  columns : List String
  rows : List (List Value)

abbrev Tables := List Table

/-- A value as a column of texts keeps it: whatever prints as a number becomes that text, and null stays. -/
def Value.asStored : Value → Value
  | .bool value => .text (if value then "1" else "0")
  | .int value => .text (toString value)
  | .float value => .text (Binary.toText value)
  | value => value

def nameParts (name : String) : List String := (name.toList.splitOn '.').map String.ofList

namespace Table

def sameName (left right : String) : Bool :=
  left.toList.map Char.toLower = right.toList.map Char.toLower

def ownName (table : Table) (column : String) : String :=
  match nameParts column with
  | [owner, own] => if sameName owner table.name then own else column
  | _ => column

def place (table : Table) (column : String) : Except Fault Nat :=
  match table.columns.findIdx? (sameName · (table.ownName column)) with
  | some index => .ok index
  | none => .error (.noSuchColumn column)

def sameText : Value → Value → Bool
  | .text left, .text right => left = right
  | _, _ => false

/-- Whether a row meets conditions, given by places. A missing cell meets none. -/
def meets (conditions : List (Nat × Value)) (row : List Value) : Bool :=
  conditions.all fun (index, expected) => sameText (row.getD index .null) expected

def places (table : Table) (conditions : Conditions) : Except Fault (List (Nat × Value)) :=
  conditions.mapM fun (column, expected) => return (← table.place column, expected)

def greatestLimit : Int := Nat.pow 2 63 - 1

def limited {α : Type} (limit : Option Int) (rows : List α) : Except Fault (List α) :=
  match limit with
  | none => .ok rows
  | some limit =>
    if greatestLimit < limit then .error .limitTooLarge
    else .ok (if limit < 0 then rows else rows.take limit.toNat)

def select (table : Table) (selection : Selection) : Except Fault ResultSet := do
  let columns ← selection.columns.mapM table.place
  let conditions ← table.places selection.conditions
  let rows ← limited selection.limit (table.rows.filter (meets conditions))
  return ⟨some selection.columns, rows.map fun row => columns.map (row.getD · .null), -1⟩

/-- The table with a column set in the rows that meet conditions, and the number of these rows. -/
def assign (table : Table) (column : String) (value : Value) (conditions : Conditions) : Except Fault (Table × Nat) := do
  let column ← table.place column
  let conditions ← table.places conditions
  let rows := table.rows.map fun row => if meets conditions row then row.set column value else row
  return ({ table with rows := rows }, (table.rows.filter (meets conditions)).length)

end Table

namespace Tables

def ownName (name : String) : String :=
  match nameParts name with
  | [database, own] => if Table.sameName database "main" then own else name
  | _ => name

def find (tables : Tables) (name : String) : Except Fault Table :=
  match List.find? (fun table => Table.sameName table.name (ownName name)) tables with
  | some table => .ok table
  | none => .error (.noSuchTable name)

def replace (tables : Tables) (changed : Table) : Tables :=
  List.map (fun table => if Table.sameName table.name changed.name then changed else table) tables

end Tables

/-- A database with the changes since the last commit, which are lost if none follows. -/
structure Database where
  committed : Tables
  current : Tables

namespace Database

def ofTables (tables : Tables) : Database := ⟨tables, tables⟩

/-- Runs a statement. Generated SQL is for another kind of database. -/
def execute (tables : Tables) : Statement → Except Fault (ResultSet × Tables)
  | .generated _ => .error (.unavailable "Generated SQL does not run on this database")
  | .fetch selection => do return (← (← tables.find selection.table).select selection, tables)
  | .assign table column value conditions => do
    let (changed, count) ← (← tables.find table).assign column value conditions
    return (⟨none, [], count⟩, tables.replace changed)

def handler : Handler connection Database
  | .execute statement, database =>
    match execute database.current statement with
    | .ok (result, tables) => { result := .ok result, state := { database with current := tables } }
    | .error fault => { result := .error fault, state := database }
  | .commit, database => { result := .ok (), state := ofTables database.current }

end Database

namespace Table

def toValue (table : Table) : Value :=
  .record [("name", .text table.name), ("columns", .list (table.columns.map .text)),
    ("rows", .list (table.rows.map .list))]

def columnOf? : Value → Option String
  | .text name => some name
  | _ => none

def rowOf? : Value → Option (List Value)
  | .list cells => some (cells.map Value.asStored)
  | _ => none

def ofValue? : Value → Option Table
  | .record fields =>
    match Fields.get? fields "name", Fields.get? fields "columns", Fields.get? fields "rows" with
    | some (.text name), some (.list columns), some (.list rows) => do
      return ⟨name, ← columns.mapM columnOf?, ← rows.mapM rowOf?⟩
    | _, _, _ => none
  | _ => none

end Table

namespace Tables

def ofDocument? (document : String) : Option Tables :=
  if document.isEmpty then some []
  else match Json.read document with
    | .ok (.list tables) => tables.mapM Table.ofValue?
    | _ => none

def document (tables : Tables) : Except Fault String :=
  (Value.list (List.map Table.toValue tables)).jsonText .plain

end Tables

end FormQuery
