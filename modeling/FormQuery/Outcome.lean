import FormQuery.Conversion
import FormQuery.Fault

/-! Outcomes of queries. They have one shape, whether a query ran on the database or over a sample, and whether it
succeeded or not. -/

namespace FormQuery

structure OutcomeError where
  kind : DiagnosticKind
  message : String
  position : Option Int := none
  deriving DecidableEq

/-- Rows with names for their columns, or errors, and what produced them. -/
structure Outcome where
  columns : List String := []
  rows : List (List Value) := []
  errors : List OutcomeError := []
  notes : List String := []
  /-- Whether a sample of the submissions was evaluated instead of the database. -/
  fallback : Bool := false
  sql : Option String := none

namespace OutcomeError

def ofDiagnostic (diagnostic : Diagnostic) : OutcomeError :=
  ⟨diagnostic.kind, diagnostic.message, some diagnostic.position⟩

def checkKind (value : Value) : Checked DiagnosticKind :=
  (Conversion.oneOf (DiagnosticKind.all.map DiagnosticKind.label) value).map fun label =>
    (DiagnosticKind.ofLabel? label).getD .execution

def check : Value → Checked OutcomeError :=
  Conversion.record "QueryError" fun fields =>
    OutcomeError.mk <$> Checked.field fields "kind" checkKind none
      <*> Checked.field fields "message" Conversion.text none
      <*> Checked.field fields "position" (Conversion.optional Conversion.integer) (some none)

def ofValue (value : Value) : Except ProblemReport OutcomeError := (check value).toExcept "QueryError"

def toValue (error : OutcomeError) : Value :=
  .record [("kind", .text error.kind.label), ("message", .text error.message),
    ("position", (error.position.map Value.int).getD .null)]

end OutcomeError

namespace Outcome

def ok (outcome : Outcome) : Bool := outcome.errors.isEmpty

def messages (outcome : Outcome) : List String := outcome.errors.map (·.message)

def failure (message : String) (sql : Option String) : Outcome :=
  { errors := [⟨.execution, message, none⟩], sql := sql }

def ofDiagnostics (diagnostics : List Diagnostic) : Outcome := { errors := diagnostics.map .ofDiagnostic }

def checkRow : Value → Checked (List Value) := Conversion.list .good

def checkColumns : Value → Checked (List String) := Conversion.list Conversion.text

def checkRows : Value → Checked (List (List Value)) := Conversion.list checkRow

def check : Value → Checked Outcome :=
  Conversion.record "QueryResult" fun fields =>
    Outcome.mk <$> Checked.field fields "columns" checkColumns (some [])
      <*> Checked.field fields "rows" checkRows (some [])
      <*> Checked.field fields "errors" (Conversion.list OutcomeError.check) (some [])
      <*> Checked.field fields "notes" (Conversion.list Conversion.text) (some [])
      <*> Checked.field fields "fallback" Conversion.truth (some false)
      <*> Checked.field fields "sql" (Conversion.optional Conversion.text) (some none)

def ofValue (value : Value) : Except ProblemReport Outcome := (check value).toExcept "QueryResult"

def toValue (outcome : Outcome) : Value :=
  .record [("columns", .list (outcome.columns.map .text)), ("rows", .list (outcome.rows.map .list)),
    ("errors", .list (outcome.errors.map OutcomeError.toValue)), ("notes", .list (outcome.notes.map .text)),
    ("fallback", .bool outcome.fallback), ("sql", (outcome.sql.map Value.text).getD .null)]

/-- The outcome of a SELECT that ran on the database, which may return anything. -/
def ofRaw (columns rows : Value) (sql : String) : Except ProblemReport Outcome :=
  ((fun columns rows => ({ columns, rows, sql := some sql } : Outcome))
    <$> (checkColumns columns).under (.field "columns") <*> (checkRows rows).under (.field "rows")).toExcept "QueryResult"

end Outcome

end FormQuery
