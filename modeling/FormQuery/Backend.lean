import FormQuery.Conversion
import FormQuery.Program

/-! Backends: where compiled queries run, with the narrow access to rows that is left when they cannot. -/

namespace FormQuery

abbrev FetchedRow := Fields

/-- What generated SQL gave. A backend may return anything here. -/
structure RawTable where
  columns : Value
  rows : Value

inductive BackendCall where
  | runSql (sql : String)
  | fetchSubmissions (form : String) (limit : Int)
  | fetchSubmission (form rowId : String)
  /-- Writes fields into the document of a submission, and tells how many submissions changed. -/
  | merge (form rowId : String) (patch : Fields)

namespace BackendCall

abbrev Answer : BackendCall → Type
  | runSql _ => RawTable
  | fetchSubmissions .. => List FetchedRow
  | fetchSubmission .. => Option FetchedRow
  | merge .. => Int

end BackendCall

def backend : Service := ⟨BackendCall, BackendCall.Answer⟩

namespace RawTable

def first (value : Value) : Except Fault Value :=
  match value with
  | .list (item :: _) => .ok item
  | .text shown => match shown.toList with
    | c :: _ => .ok (.text c.toString)
    | [] => .error .noFirst
  | .bytes (octet :: _) => .ok (.int octet.toNat)
  | .list [] | .bytes [] => .error .noFirst
  | .record _ => .error (.unknownIndex 0)
  | value => .error (.notIndexable value.kind)

/-- A cell that shows no integer counts as zero; only numbers without end are refused. -/
def countOf (cell : Value) : Except Fault Int :=
  match cell.toInteger with
  | .ok count => .ok count
  | .error .countInfinite => .error .countInfinite
  | .error .limitInfinite => .error .limitInfinite
  | .error _ => .ok 0

def changedRows (table : RawTable) : Except Fault Int := do
  if !table.rows.holds then return 0
  let row ← first table.rows
  if !row.holds then return 0
  countOf (← first row)

end RawTable

end FormQuery
