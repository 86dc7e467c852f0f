import FormQuery.Fault
import FormQuery.Query
import FormQuery.Query.Parser
import FormQuery.Schema.Snapshot
import FormQuery.Sql

/-! Compiling a query text to SQL: reading it, checking its references against a schema and writing SQL. The first of
the steps that finds anything is the last one, and SQL exists only when nothing was found. -/

namespace FormQuery

/-- System columns are identifiers, users and times, so aggregates over numbers do not take them. -/
def Aggregate.needsNumbers : Aggregate → Bool
  | .sum | .avg | .median => true
  | _ => false

namespace Query

def columnFinding? (schema : Snapshot) (table : String) (ref : ColumnRef) : Option Diagnostic :=
  if ref.pseudo || schema.hasColumn table ref.name then none
  else some ⟨.unknownColumn, s!"Unknown field {Text.quoted ref.name} in form {Text.quoted table}", ref.position⟩

def aggregateFinding? (call : AggregateCall) : Option Diagnostic :=
  match call.argument with
  | none => none
  | some ref =>
    if ref.pseudo && call.function.needsNumbers then
      some ⟨.unsupported, s!"{call.function.name} is not supported on system column {Text.quoted ref.name}",
        call.position⟩
    else none

def targetFinding? (target : ColumnRef) : Option Diagnostic :=
  if target.pseudo then
    some ⟨.unsupported, s!"System column {Text.quoted target.name} cannot be updated", target.position⟩
  else none

def systemFindings : Query → List Diagnostic
  | select wanted => wanted.aggregates.filterMap aggregateFinding?
  | update change => (targetFinding? change.target).toList

def check (query : Query) (schema : Snapshot) : List Diagnostic :=
  let table := query.table
  if schema.hasTable table.name then
    query.columnRefs.filterMap (columnFinding? schema table.name) ++ query.systemFindings
  else [⟨.unknownTable, s!"Unknown form {Text.quoted table.name}", table.position⟩]

end Query

/-- What is to be compiled: a text, a query built by a program, or something else, which is no query. -/
inductive QuerySource where
  | text (source : String)
  | built (query : Query)
  | other (kind : String)

def QuerySource.read : QuerySource → Reading
  | text source => Query.read source
  | built query => .accepted query
  | other _ => .ofNothing

inductive Compilation where
  /-- There was no query to read. -/
  | unread (reason : String)
  | rejected (error : SyntaxError)
  | invalid (query : Query) (first : Diagnostic) (rest : List Diagnostic)
  | compiled (query : Query) (sql : Sql)

namespace Compilation

def query? : Compilation → Option Query
  | invalid query .. => some query
  | compiled query _ => some query
  | _ => none

def sql? : Compilation → Option String
  | compiled _ sql => some sql.text
  | _ => none

def diagnostics : Compilation → List Diagnostic
  | unread reason => [⟨.malformed, reason, 0⟩]
  | rejected error => [error.diagnostic]
  | invalid _ first rest => first :: rest
  | compiled .. => []

def ok (compilation : Compilation) : Bool := compilation.sql?.isSome && compilation.diagnostics.isEmpty

def logs : Compilation → List LogRecord
  | unread _ => []
  | rejected error => [.plain loggers.parser .debug s!"Query rejected by parser: {error.message}"]
  | invalid _ _ rest =>
    [.plain loggers.compiler .debug s!"Query failed validation with {rest.length + 1} error(s)"]
  | compiled _ sql => [.plain loggers.compiler .debug s!"Compiled query: {sql.text}"]

def ofQuery (query : Query) (schema : Snapshot) (layout : Layout) : Except Fault Compilation :=
  match query.check schema with
  | first :: rest => .ok (invalid query first rest)
  | [] => (Sql.ofQuery layout query).map fun sql => compiled query sql

end Compilation

/-- Compiles a source. It fails only where the query or the layout was built by a program and lacks what SQL needs. -/
def QuerySource.compile (source : QuerySource) (schema : Snapshot) (layout : Layout) : Except Fault Compilation :=
  match source.read with
  | .refused reason => .ok (.unread reason)
  | .rejected error => .ok (.rejected error)
  | .accepted query => Compilation.ofQuery query schema layout

end FormQuery
