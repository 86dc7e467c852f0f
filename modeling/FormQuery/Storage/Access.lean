import FormQuery.Backend
import FormQuery.Sample.Cell
import FormQuery.Schema.Form
import FormQuery.Storage.Connection

/-! Access to stored submissions and forms over a connection, by programs of a few statements each. -/

namespace FormQuery

/-- How submissions are reached: where they are stored, and whether the connection runs generated SQL. -/
structure Access where
  layout : Layout := {}
  runsSql : Bool := true

namespace Access

def lift {α : Type} (result : Except Fault α) : Program connection α := .done result

def fetchedRow (access : Access) (row : List Value) : Except Fault FetchedRow := do
  let cells := Fields.ofPairs (access.layout.recordColumns.zip row)
  let document ← ((Fields.get? cells access.layout.documentColumn).getD .null).decodeDocument
  return Fields.set cells access.layout.documentColumn (.record document)

/-- Runs generated SQL. A statement that is no query is committed and gives the number of changed rows. -/
def runSql (access : Access) (sql : String) : Program connection RawTable := do
  if !access.runsSql then
    lift (.error (.unavailable "Raw query execution is not available on this connection"))
  let result ← execute (.generated sql)
  match result.columns with
  | none =>
    commit
    return ⟨.list [.text "updated_rows"], .list [.list [.int result.rowCount]]⟩
  | some columns => return ⟨.list (columns.map .text), .list (result.rows.map .list)⟩

def ofForm (access : Access) (form : Value) : Conditions := [(access.layout.partitionColumn, form)]

def selection (access : Access) (conditions : Conditions) (limit : Option Int) : Statement :=
  .fetch ⟨access.layout.recordColumns, access.layout.table, conditions, limit⟩

def submissions (access : Access) (form : Value) (limit : Int) : Program connection (List FetchedRow) := do
  let result ← execute (access.selection (access.ofForm form) (some limit))
  lift (result.rows.mapM access.fetchedRow)

def ofRow (access : Access) (form rowId : Value) : Except Fault Conditions := do
  return access.ofForm form ++ [(← access.layout.rowIdColumn, rowId)]

def submission (access : Access) (form rowId : Value) : Program connection (Option FetchedRow) := do
  let result ← execute (access.selection (← lift (access.ofRow form rowId)) none)
  match result.rows with
  | [] => return none
  | row :: _ => return some (← lift (access.fetchedRow row))

def mergeLog (patch : Fields) (rowId : Value) : LogRecord :=
  .plain loggers.backend .debug s!"Merged {patch.length} key(s) into submission {rowId.display}"

/-- Reads the document of a submission, sets fields of it and writes it back. -/
def merge (access : Access) (form rowId : Value) (patch : Fields) : Program connection Int := do
  match ← access.submission form rowId with
  | none => return 0
  | some row =>
    let column := access.layout.documentColumn
    let document := match Fields.get? row column with
      | some (.record fields) => fields
      | _ => []
    let merged ← lift ((Value.record (Fields.override document patch)).jsonText .ascii)
    let result ← execute (.assign access.layout.table column (.text merged) (← lift (access.ofRow form rowId)))
    commit
    Program.tell (mergeLog patch rowId)
    return result.rowCount

def answer (access : Access) : (call : BackendCall) → Program connection call.Answer
  | .runSql sql => access.runSql sql
  | .fetchSubmissions form limit => access.submissions (.text form) limit
  | .fetchSubmission form rowId => access.submission (.text form) (.text rowId)
  | .merge form rowId patch => access.merge (.text form) (.text rowId) patch

def handler {σ : Type} (access : Access) (connected : Handler connection σ) : Handler backend σ :=
  fun call state => ((access.answer call).run connected state).handled

end Access

def formCells : List Value → Except Fault (Value × Value × Value)
  | [id, name, structure_] => .ok (.text id.display, name, structure_)
  | cells => .error (if cells.length < 3 then .tooFewCells 3 cells.length else .tooManyCells 3)

def readForms : List (List Value) → Program connection (List Form)
  | [] => return []
  | row :: rest => do
    let (id, name, structure_) ← Access.lift (formCells row)
    let reading := Form.ofStructure id name structure_
    reading.logs.forM Program.tell
    let form ← Access.lift reading.form
    return form :: (← readForms rest)

def loadForms (table : String) : Program connection (List Form) := do
  let result ← execute (.fetch { columns := ["id", "name", "form_structure"], table := table })
  readForms result.rows

end FormQuery
