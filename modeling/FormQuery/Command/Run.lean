import FormQuery.Command.Arguments
import FormQuery.Command.Host
import FormQuery.Engine
import FormQuery.Schema.Session

/-! Commands: printing the tokens of a query, compiling a query, running one over a database, and listing the forms. -/

namespace FormQuery.Command

/-- A command at work: what it shows comes before its result, and the database that it has open goes along. -/
structure Stage (α : Type) where
  result : Except Ending α
  shown : List Shown

namespace Stage

variable {α β : Type}

def bind (stage : Stage α) (next : α → Stage β) : Stage β :=
  match stage.result with
  | .ok value =>
    let later := next value
    ⟨later.result, stage.shown ++ later.shown⟩
  | .error ending => ⟨.error ending, stage.shown⟩

instance : Monad Stage where
  pure value := ⟨.ok value, []⟩
  bind := bind

def add (shown : Shown) : Stage Unit := ⟨.ok (), [shown]⟩

def addAll (shown : List Shown) : Stage Unit := ⟨.ok (), shown⟩

def log (records : List LogRecord) : Stage Unit := ⟨.ok (), records.map .logged⟩

def stop (ending : Ending) : Stage α := ⟨.error ending, []⟩

def lift : Except Fault α → Stage α
  | .ok value => ⟨.ok value, []⟩
  | .error fault => ⟨.error (.failed fault), []⟩

end Stage

inductive SchemaOrigin where
  | fixed (forms : List Form)
  | table (name : String)

def SchemaOrigin.load : SchemaOrigin → Program connection (List Form)
  | fixed forms => return forms
  | table name => loadForms name

/-- The forms of a schema file, or those of the database that is open. -/
def originOf (host : Host) (settings : Settings) (schema : Option String) (isConnected : Bool) : Stage SchemaOrigin :=
  match schema with
  | some path => do
    let (forms, logs) := match host.files.read path with
      | .ok content => formsOfFile path content
      | .error fault => (.error fault, [])
    Stage.log logs
    return .fixed (← Stage.lift forms)
  | none =>
    if isConnected then return .table settings.schemaCache.formsTable
    else Stage.stop (.stopped "Either --schema or --sqlite is required")

def served (origin : SchemaOrigin) (lifetime : Option Float) (database : OpenDatabase) :
    Handled OpenDatabase Snapshot :=
  let load (database : OpenDatabase) : Schema.Load Float × OpenDatabase :=
    let run := origin.load.run databaseHandler database
    ({ forms := run.result, finished := 0.0, logs := run.logs }, run.state)
  let found := Schema.Cache.snapshot load { lifetime := lifetime } 0.0 database
  ⟨found.served.map (·.snapshot), found.source, found.logs⟩

def schemaStage (origin : SchemaOrigin) (database : OpenDatabase) : Stage Snapshot := do
  let found := served origin none database
  Stage.log found.logs
  Stage.lift found.result

def padRight (width : Nat) (text : String) : String := text ++ String.ofList (List.replicate (width - text.length) ' ')

def padLeft (width : Nat) (text : String) : String := String.ofList (List.replicate (width - text.length) ' ') ++ text

def tokenLine (token : Token) : String :=
  s!"{padLeft 4 (toString token.position)}  {padRight 14 token.kind.label} {token.text}"

def tokensCommand (query : String) : Stage Nat := do
  Stage.addAll ((tokenize query).map fun token => .output (tokenLine token))
  return 0

def diagnosticLine (diagnostic : Diagnostic) : String :=
  s!"{diagnostic.kind.label} at {diagnostic.position}: {diagnostic.message}"

def compileCommand (host : Host) (settings : Settings) (query schema : String) : Stage Nat := do
  let origin ← originOf host settings (some schema) false
  let snapshot ← schemaStage origin (.ok (.ofTables []))
  let compilation ← Stage.lift ((QuerySource.text query).compile snapshot settings.storage.layout)
  Stage.log compilation.logs
  match compilation.sql? with
  | some sql =>
    Stage.add (.output sql)
    return 0
  | none =>
    Stage.addAll (compilation.diagnostics.map fun diagnostic => .complaint (diagnosticLine diagnostic))
    return 1

def errorLine (error : OutcomeError) : String :=
  let place := match error.position with
    | some position => s!" at {position}"
    | none => ""
  s!"{error.kind.label}{place}: {error.message}"

def outcomeText (outcome : Outcome) : Except Fault String :=
  (Value.record [("columns", .list (outcome.columns.map .text)), ("rows", .list (outcome.rows.map .list))]).jsonText
    .lenient

def showOutcome (outcome : Outcome) : Stage Nat := do
  Stage.addAll (outcome.notes.map fun note => .complaint s!"note: {note}")
  if outcome.ok then
    Stage.add (.output (← Stage.lift (outcomeText outcome)))
    return 0
  else
    Stage.addAll (outcome.errors.map fun error => .complaint (errorLine error))
    return 1

def engineHandler (origin : SchemaOrigin) (lifetime : Option Float) (layout : Layout) :
    Handler collaborators OpenDatabase :=
  Engine.handler (served origin lifetime) (Access.handler ⟨layout, false⟩ databaseHandler)

def runCommand (host : Host) (settings : Settings) (query database : String) (schema : Option String) :
    Stage (Nat × OpenDatabase) := do
  let opened ← Stage.lift (host.connect database)
  let origin ← originOf host settings schema true
  let engine ← Stage.lift (Engine.ofSettings settings)
  let run := (engine.execute (.text query)).run
    (engineHandler origin settings.schemaCache.lifetime engine.layout) opened
  Stage.log run.logs
  return (← showOutcome (← Stage.lift run.result), run.state)

def formLines (snapshot : Snapshot) (form : Form) : List Shown :=
  .output s!"{form.id}  {form.name}" :: (sortNames form.columns).map fun column =>
    .output s!"    {column}  {(snapshot.fieldLabel form.id column).toOption.getD column}"

def schemaCommand (host : Host) (settings : Settings) (schema database : Option String) : Stage Nat := do
  let opened ← match database with
    | some path => Stage.lift (host.connect path)
    | none => pure (.ok (.ofTables []))
  let origin ← originOf host settings schema database.isSome
  let snapshot ← schemaStage origin opened
  Stage.addAll (snapshot.forms.flatMap (formLines snapshot))
  return 0

def overridesOf (globals : Globals) : Settings.Tree :=
  let level := match globals.logLevel with
    | some level => if level.isEmpty then [] else [("level", Value.text level)]
    | none => []
  let logging := level ++ (if globals.traceQueries then [("trace_queries", Value.bool true)] else [])
  if logging.isEmpty then [] else [("logging", .record logging)]

/-- Carries out an order. The database of a query is kept even when the query failed. -/
def perform (host : Host) (settings : Settings) (order : Order) : Stage Nat × Host :=
  match order with
  | .tokens query => (tokensCommand query, host)
  | .compile query schema => (compileCommand host settings query schema, host)
  | .schema schema database => (schemaCommand host settings schema database, host)
  | .run query database schema =>
    let stage := runCommand host settings query database schema
    match stage.result with
    | .ok (code, after) => (⟨.ok code, stage.shown⟩, host.keep database after)
    | .error ending => (⟨.error ending, stage.shown⟩, host)

def filePaths (environment : List (String × String)) (arguments : List String) : List String :=
  match read arguments with
  | .error _ => []
  | .ok (globals, order) =>
    let schema := match order with
      | .tokens _ => none
      | .compile _ schema => some schema
      | .run _ _ schema => schema
      | .schema schema _ => schema
    Settings.standardFile :: globals.config.toList ++ (Fields.get? environment Settings.Tree.configVariable).toList ++
      schema.toList

def databasePath? (arguments : List String) : Option String :=
  match read arguments with
  | .ok (_, .run _ database _) => some database
  | .ok (_, .schema _ database) => database
  | _ => none

def run (host : Host) (arguments : List String) : Done :=
  match read arguments with
  | .error .helpWanted => { ending := .refused 0, host := host }
  | .error .misused => { ending := .refused 2, host := host }
  | .ok (globals, order) =>
    match Settings.load ⟨host.files, host.environment, globals.config, overridesOf globals⟩ with
    | .error fault => { ending := .failed fault, host := host }
    | .ok settings =>
      let (stage, host) := perform host settings order
      let ending := match stage.result with
        | .ok code => .finished code
        | .error ending => ending
      ⟨ending, stage.shown, LogSetup.ofSettings settings.logging, host⟩

end FormQuery.Command
