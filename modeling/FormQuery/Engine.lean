import FormQuery.Backend
import FormQuery.Compilation
import FormQuery.Outcome
import FormQuery.Sample.Assignment
import FormQuery.Sample.Projection
import FormQuery.Settings

/-! The engine. It compiles a query, has the backend run it, and evaluates it over fetched rows where the backend does
not run SQL. It reports a state for every stage that a query reaches:

    received, lexing, then rejected or parsed; parsed, then invalid or validated;
    validated, generated, then executed or failed

An outcome is free of errors only when one of the two ways of execution gave a result. -/

namespace FormQuery

inductive QueryState where
  | received
  | lexing
  | rejected
  | parsed
  | invalid
  | validated
  | generated
  | executed
  | failed
  deriving DecidableEq

def QueryState.label : QueryState → String
  | received => "received"
  | lexing => "lexing"
  | rejected => "syntax_error"
  | parsed => "parsed"
  | invalid => "semantic_error"
  | validated => "validated"
  | generated => "generated"
  | executed => "executed"
  | failed => "execution_error"

structure Engine where
  layout : Layout := {}
  /-- Whether queries are evaluated over fetched rows when SQL cannot run. -/
  fallbackEnabled : Bool := true
  /-- The most rows that are fetched for this. -/
  rowLimit : Int := 1000
  /-- Whether result columns go by the labels of fields. -/
  labelColumns : Bool := false
  rowLimit_pos : 0 < rowLimit := by decide

def Engine.ofLimit (layout : Layout) (fallbackEnabled : Bool) (rowLimit : Int) (labelColumns : Bool) :
    Except Fault Engine :=
  if positive : 0 < rowLimit then .ok ⟨layout, fallbackEnabled, rowLimit, labelColumns, positive⟩ else .error .rowLimit

def Engine.ofSettings (settings : Settings) : Except Fault Engine :=
  let execution := settings.execution
  Engine.ofLimit settings.storage.layout execution.fallbackEnabled execution.fallbackRowLimit execution.labelColumns

inductive EngineCall where
  | schema
  | backend (call : BackendCall)

def collaborators : Service where
  Request := EngineCall
  Answer
    | .schema => Snapshot
    | .backend call => call.Answer

namespace Engine

abbrev Work := Program collaborators

def lift {α : Type} (result : Except Fault α) : Work α := .done result

def call (call : BackendCall) : Work call.Answer := .ask collaborators (.backend call)

def stateLog (state : QueryState) (detail : String) (sql : Option String) : LogRecord :=
  let shown := if detail.isEmpty then "" else s!" ({detail})"
  ⟨loggers.engine, .debug, s!"query {state.label}{shown}", some state.label, sql, none⟩

def reach (state : QueryState) : Work Unit := Program.tell (stateLog state "" none)

def reachWith (state : QueryState) (detail : String) (sql : Option String) : Work Unit :=
  Program.tell (stateLog state detail sql)

def warn (message : String) : Work Unit := Program.tell (.plain loggers.engine .warning message)

def complain (message : String) : Work Unit := Program.tell (.plain loggers.engine .error message)

def sourceText : QuerySource → String
  | .text source => Text.quoted source
  | .built (.select _) => "ParsedQuery"
  | .built (.update _) => "UpdateQuery"
  | .other kind => kind

def updatedMessage : String := "Field updated successfully"

def updateColumns : List String := ["message", "updated_rows"]

def notFound : String := "Submission not found"

/-- The outcome of an UPDATE that changed a number of rows. Changing none is a failure. -/
def updateOutcome (changed : Int) (sql : String) : Outcome :=
  if changed ≤ 0 then .failure notFound (some sql)
  else { columns := updateColumns, rows := [[.text updatedMessage, .int changed]], sql := some sql }

def sampleNote (limit : Int) : String :=
  s!"Remote query execution is unavailable; result computed client-side over at most {limit} submissions"

def truncationNote (limit : Int) : String :=
  s!"Submission sample was truncated at {limit} rows; aggregates may be incomplete"

def appliedNote : String := "Remote query execution is unavailable; update applied client-side"

def selectOverRows (engine : Engine) (select : Select) (sql : String) : Work Outcome := do
  let rows ← call (.fetchSubmissions select.table.name engine.rowLimit)
  let table ← lift (select.evaluate rows engine.layout)
  let notes := if engine.rowLimit ≤ rows.length then [truncationNote engine.rowLimit] else []
  return { table with notes := sampleNote engine.rowLimit :: notes, fallback := true, sql := some sql }

def updateOverRow (engine : Engine) (update : Update) (sql : String) : Work Outcome := do
  let form := update.table.name
  let rowId := update.rowId.text
  match ← call (.fetchSubmission form rowId) with
  | none => return .failure notFound (some sql)
  | some row =>
    let patch ← lift (update.patch row engine.layout)
    let changed ← call (.merge form rowId patch)
    let outcome := updateOutcome changed sql
    return { outcome with fallback := true, notes := outcome.notes ++ [appliedNote] }

def overRows (engine : Engine) (query : Query) (sql : String) : Work Outcome := do
  let work := match query with
    | .select wanted => engine.selectOverRows wanted sql
    | .update change => engine.updateOverRow change sql
  match ← work.attempt with
  | .ok outcome => return outcome
  | .error fault =>
    complain s!"Client-side evaluation failed: {fault.message}"
    return .failure fault.message (some sql)

def databaseOutcome (query : Query) (table : RawTable) (sql : String) : Except Fault Outcome :=
  match query with
  | .update _ => do return updateOutcome (← table.changedRows) sql
  | .select _ => (Outcome.ofRaw table.columns table.rows sql).mapError .invalid

def perform (engine : Engine) (query : Query) (sql : String) : Work Outcome := do
  match ← (call (.runSql sql)).attempt with
  | .ok table => lift (databaseOutcome query table sql)
  | .error (.unavailable reason) =>
    if engine.fallbackEnabled then
      warn s!"Remote execution unavailable ({reason}); evaluating client-side"
      engine.overRows query sql
    else return .failure reason (some sql)
  | .error fault =>
    complain s!"Query execution failed: {fault.message}"
    return .failure fault.message (some sql)

def labelOf (form : Form) (column : String) : String :=
  match Fields.get? form.fields column with
  | some field => field.displayName
  | none => column

def labelled (engine : Engine) (query : Query) (schema : Snapshot) (outcome : Outcome) : Outcome :=
  match query, schema.form? query.table.name with
  | .select _, some form =>
    if engine.labelColumns then { outcome with columns := outcome.columns.map (labelOf form) } else outcome
  | _, _ => outcome

def finish (engine : Engine) (query : Query) (sql : String) (schema : Snapshot) : Work Outcome := do
  reach .validated
  reachWith .generated sql (some sql)
  let outcome ← engine.perform query sql
  if outcome.ok then
    let way := if outcome.fallback then " via fallback" else ""
    reachWith .executed s!"{outcome.rows.length} row(s){way}" (some sql)
    return engine.labelled query schema outcome
  else
    reachWith .failed "" (some sql)
    return outcome

/-- Executes a query. It gives an outcome, and fails only where a built query cannot be compiled or a backend returns
what is no result. -/
def execute (engine : Engine) (source : QuerySource) : Work Outcome := do
  reach .received
  match ← (Program.ask collaborators .schema).attempt with
  | .error fault =>
    complain s!"Schema load failed: {fault.message}"
    return .failure s!"Failed to load form schema: {fault.message}" none
  | .ok schema =>
    reachWith .lexing (sourceText source) none
    let compilation ← lift (source.compile schema engine.layout)
    compilation.logs.forM Program.tell
    match compilation with
    | .unread _ | .rejected _ =>
      reach .rejected
      return .ofDiagnostics compilation.diagnostics
    | .invalid .. =>
      reach .parsed
      reachWith .invalid s!"{compilation.diagnostics.length} error(s)" none
      return .ofDiagnostics compilation.diagnostics
    | .compiled query sql =>
      reach .parsed
      engine.finish query sql.text schema

/-- Answers the calls of an engine by a way to get the schema and by a backend, which share a state. -/
def handler {σ : Type} (schema : σ → Handled σ Snapshot) (connected : Handler backend σ) : Handler collaborators σ
  | .schema, state => schema state
  | .backend call, state => connected call state

end Engine

end FormQuery
