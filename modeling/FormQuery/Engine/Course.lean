import FormQuery.Engine
import FormQuery.Program

/-! What an engine may say to its backend for one query, told from the answers that it gets, and the course of a query:
the states that it goes through, and the answers that give it a result. All of it is told apart from the program that
executes queries. -/

namespace FormQuery

namespace QueryState

inductive Next : QueryState → QueryState → Prop
  | lexing : Next received lexing
  | rejected : Next lexing rejected
  | parsed : Next lexing parsed
  | invalid : Next parsed invalid
  | validated : Next parsed validated
  | generated : Next validated generated
  | executed : Next generated executed
  | failed : Next generated failed

/-- The states of a query by what it was compiled to, which is nothing while there is no schema. -/
def course (compiled : Option Compilation) (succeeded : Bool) : List QueryState :=
  match compiled with
  | none => [received]
  | some (.unread _) | some (.rejected _) => [received, lexing, rejected]
  | some (.invalid ..) => [received, lexing, parsed, invalid]
  | some (.compiled ..) => [received, lexing, parsed, validated, generated, if succeeded then executed else failed]

end QueryState

def Move.state? {service : Service} : Move service → Option String
  | report record => record.state
  | exchange _ => none

def reportedStates {service : Service} (moves : List (Move service)) : List String := moves.filterMap Move.state?

namespace Engine

/-- The evaluation of a query over fetched rows. A submission is written to only by an UPDATE, when it was found and the
new value was evaluated, and then in the one field that the UPDATE is about. -/
inductive Evaluation (engine : Engine) : Query → List (Exchange backend) → Prop
  | sample {wanted : Select} (rows : Except Fault (List FetchedRow)) :
      Evaluation engine (.select wanted) [⟨.fetchSubmissions wanted.table.name engine.rowLimit, rows⟩]
  | unwritten {change : Update} {found : Except Fault (Option FetchedRow)}
      (lacking : ∀ row, found = .ok (some row) → ∀ value, change.newValue row engine.layout ≠ .ok value) :
      Evaluation engine (.update change) [⟨.fetchSubmission change.table.name change.rowId.text, found⟩]
  | written {change : Update} {row : FetchedRow} {value : Value}
      (evaluated : change.newValue row engine.layout = .ok value) (changed : Except Fault Int) :
      Evaluation engine (.update change)
        [⟨.fetchSubmission change.table.name change.rowId.text, .ok (some row)⟩,
          ⟨.merge change.table.name change.rowId.text [(change.target.name, value)], changed⟩]

/-- The execution of a compiled query. Rows are fetched only where SQL cannot run and this is allowed. -/
inductive Execution (engine : Engine) (query : Query) (sql : String) : List (Exchange backend) → Prop
  | settled {table : Except Fault RawTable}
      (final : engine.fallbackEnabled = true → ∀ reason, table ≠ .error (.unavailable reason)) :
      Execution engine query sql [⟨.runSql sql, table⟩]
  | evaluated {reason : String} {exchanges : List (Exchange backend)} (allowed : engine.fallbackEnabled = true)
      (evaluation : Evaluation engine query exchanges) :
      Execution engine query sql (⟨.runSql sql, .error (.unavailable reason)⟩ :: exchanges)

/-- All that is said to a backend about a source, after the schema was asked for. -/
inductive Dialogue (engine : Engine) (source : QuerySource) : Except Fault Snapshot → List (Exchange backend) → Prop
  | unknown (fault : Fault) : Dialogue engine source (.error fault) []
  | uncompiled {schema : Snapshot}
      (lacking : ∀ compilation, source.compile schema engine.layout = .ok compilation → compilation.sql? = none) :
      Dialogue engine source (.ok schema) []
  | compiled {schema : Snapshot} {compilation : Compilation} {query : Query} {sql : String}
      {exchanges : List (Exchange backend)} (compiles : source.compile schema engine.layout = .ok compilation)
      (query? : compilation.query? = some query) (sql? : compilation.sql? = some sql)
      (execution : Execution engine query sql exchanges) : Dialogue engine source (.ok schema) exchanges

def calls (said : List (Exchange backend)) : List BackendCall := said.map fun made => made.request

def ofBackend (exchange : Exchange backend) : Exchange collaborators :=
  ⟨.backend exchange.request, exchange.answer⟩

inductive Evaluated (engine : Engine) : Query → List (Exchange backend) → Prop
  | sample {wanted : Select} {rows : List FetchedRow} {table : ResultTable}
      (evaluated : wanted.evaluate rows engine.layout = .ok table) :
      Evaluated engine (.select wanted) [⟨.fetchSubmissions wanted.table.name engine.rowLimit, .ok rows⟩]
  | written {change : Update} {row : FetchedRow} {patch : Fields} {changed : Int}
      (evaluated : change.patch row engine.layout = .ok patch) (positive : 0 < changed) :
      Evaluated engine (.update change)
        [⟨.fetchSubmission change.table.name change.rowId.text, .ok (some row)⟩,
          ⟨.merge change.table.name change.rowId.text patch, .ok changed⟩]

/-- One of the two ways of execution came to a result. An UPDATE needs rows that it changed. -/
inductive Succeeded (engine : Engine) (sql : String) : Query → List (Exchange backend) → Prop
  | selected {wanted : Select} (table : RawTable) : Succeeded engine sql (.select wanted) [⟨.runSql sql, .ok table⟩]
  | updated {change : Update} {table : RawTable} {changed : Int} (counted : table.changedRows = .ok changed)
      (positive : 0 < changed) : Succeeded engine sql (.update change) [⟨.runSql sql, .ok table⟩]
  | evaluated {query : Query} {reason : String} {said : List (Exchange backend)}
      (allowed : engine.fallbackEnabled = true) (evaluated : engine.Evaluated query said) :
      Succeeded engine sql query (⟨.runSql sql, .error (.unavailable reason)⟩ :: said)

inductive Compiles (engine : Engine) (source : QuerySource) : Except Fault Snapshot → Option Compilation → Prop
  | unknown (fault : Fault) : Compiles engine source (.error fault) none
  | known {schema : Snapshot} {compilation : Compilation}
      (compiles : source.compile schema engine.layout = .ok compilation) :
      Compiles engine source (.ok schema) (some compilation)

end Engine

end FormQuery
