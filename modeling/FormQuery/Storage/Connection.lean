import FormQuery.Program
import FormQuery.Sql

/-! Connections to a database, the statements that they execute, and a connection that follows a script. Besides
generated SQL there are two forms of statements: fetching rows whose columns have given values, and changing a column of
such rows. Their values are bound, not written into the text. -/

namespace FormQuery

abbrev Conditions := List (String × Value)

structure Selection where
  columns : List String
  table : String
  conditions : Conditions := []
  limit : Option Int := none

inductive Statement where
  /-- Generated SQL, which binds nothing. -/
  | generated (sql : String)
  | fetch (selection : Selection)
  | assign (table column : String) (value : Value) (conditions : Conditions)

namespace Statement

open Sql.Piece

def conditionPieces (placeholder : String) : Conditions → Sql
  | [] => []
  | conditions => code " WHERE " :: Sql.separated " AND "
      (conditions.map fun (column, _) => [name column, code " = ", code placeholder])

/-- The SQL of a statement, with a placeholder for every bound value. -/
def sql (placeholder : String) : Statement → Sql
  | generated sql => [code sql]
  | fetch selection =>
    code "SELECT " :: Sql.separated ", " (selection.columns.map fun column => [name column]) ++
      [code " FROM ", name selection.table] ++ conditionPieces placeholder selection.conditions ++
      match selection.limit with
      | some limit => [code s!" LIMIT {limit}"]
      | none => []
  | assign table column _ conditions =>
    [code "UPDATE ", name table, code " SET ", name column, code " = ", code placeholder] ++
      conditionPieces placeholder conditions

def parameters : Statement → List Value
  | generated _ => []
  | fetch selection => selection.conditions.map Prod.snd
  | assign _ _ value conditions => value :: conditions.map Prod.snd

end Statement

structure ResultSet where
  columns : Option (List String)
  rows : List (List Value)
  rowCount : Int

inductive ConnectionRequest where
  | execute (statement : Statement)
  /-- Makes all changes since the last time permanent. -/
  | commit

def connection : Service where
  Request := ConnectionRequest
  Answer
    | .execute _ => ResultSet
    | .commit => Unit

def execute (statement : Statement) : Program connection ResultSet := .ask connection (.execute statement)

def commit : Program connection Unit := .ask connection .commit

/-- A connection that answers statements by a list of prepared answers, and by an empty result after these. -/
structure Script where
  answers : List (Except Fault ResultSet)
  executed : List Statement := []
  commits : Nat := 0

namespace Script

def handler : Handler connection Script
  | .execute statement, script =>
    let script := { script with executed := script.executed ++ [statement] }
    match script.answers with
    | [] => { result := .ok ⟨none, [], 0⟩, state := script }
    | answer :: rest => { result := answer, state := { script with answers := rest } }
  | .commit, script => { result := .ok (), state := { script with commits := script.commits + 1 } }

end Script

end FormQuery
