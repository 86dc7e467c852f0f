import FormQuery.Conversion
import FormQuery.Fault
import FormQuery.Layout
import FormQuery.Settings.Toml

/-! Settings. They come from a configuration file, from environment variables and from the caller, in this order, and
are checked as one record. -/

namespace FormQuery

inductive FileEntry where
  | missing
  | directory
  | file (content : String)

abbrev Files := List (String × String)

namespace Files

def isInside (path name : String) : Bool := (path ++ "/").toList.isPrefixOf (Conversion.normalPath name).toList

def entry (files : Files) (path : String) : FileEntry :=
  let path := Conversion.normalPath path
  match List.find? (fun (name, _) => Conversion.normalPath name = path) files with
  | some (_, content) => .file content
  | none => if path = "." || List.any files (fun (name, _) => isInside path name) then .directory else .missing

def read (files : Files) (path : String) : Except Fault String :=
  match files.entry path with
  | .file content => .ok content
  | .directory => .error (.isDirectory (Conversion.normalPath path))
  | .missing => .error (.noSuchFile (Conversion.normalPath path))

end Files

namespace Settings

def isNameStart (c : Char) : Bool := c.isAlpha || c = '_'

def isNamePart (c : Char) : Bool := c.isAlphanum || c = '_'

def isName : List Char → Bool
  | [] => false
  | c :: rest => isNameStart c && rest.all isNamePart

def dropLineEnd (text : List Char) : List Char :=
  if text.getLast? = some '\n' then text.dropLast else text

/-- Whether a text names a table or a column: one name, or two with a dot between them. A line end may follow. -/
def isIdentifier (text : List Char) : Bool :=
  let text := dropLineEnd text
  match text.dropWhile (· ≠ '.') with
  | [] => isName text
  | _ :: own => isName (text.takeWhile (· ≠ '.')) && isName own

def checkIdentifier (value : Value) : Checked String :=
  (Conversion.text value).andThen fun name =>
    if isIdentifier name.toList then .good name
    else .fail (.refused s!"{Text.quoted name} is not a plain SQL identifier")

structure Storage where
  table : String := "form_submissions"
  documentColumn : String := "submission_data"
  partitionColumn : String := "form_id"
  rowIdColumn : String := "id"
  createdAtColumn : String := "created_at"

def Storage.check : Value → Checked Storage :=
  Conversion.record "StorageSettings" fun fields =>
    let standard : Storage := {}
    Storage.mk <$> Checked.field fields "table" checkIdentifier (some standard.table)
      <*> Checked.field fields "document_column" checkIdentifier (some standard.documentColumn)
      <*> Checked.field fields "partition_column" checkIdentifier (some standard.partitionColumn)
      <*> Checked.field fields "row_id_column" checkIdentifier (some standard.rowIdColumn)
      <*> Checked.field fields "created_at_column" checkIdentifier (some standard.createdAtColumn)

/-- The layout that storage settings describe. Only the identifier and the time of a submission have other columns. -/
def Storage.layout (storage : Storage) : Layout where
  table := storage.table
  documentColumn := storage.documentColumn
  partitionColumn := storage.partitionColumn
  pseudoColumns := Fields.set (Fields.set pseudoColumns "submission_id" storage.rowIdColumn) "submitted_at"
    storage.createdAtColumn

def Storage.toValue (storage : Storage) : Value :=
  .record [("table", .text storage.table), ("document_column", .text storage.documentColumn),
    ("partition_column", .text storage.partitionColumn), ("row_id_column", .text storage.rowIdColumn),
    ("created_at_column", .text storage.createdAtColumn)]

structure SchemaCache where
  formsTable : String := "forms"
  /-- Seconds for which a schema is kept; without them it is kept for ever. -/
  lifetime : Option Float := some 300.0

def checkLifetime (value : Value) : Checked (Option Float) :=
  (Conversion.optional Conversion.number value).andThen fun
    | none => .good none
    | some seconds =>
      if seconds == 0.0 then .good none
      else if seconds < 0.0 then
        .fail (.refused "schema_cache.ttl_s must be positive (or 0 to disable expiry)")
      else .good (some seconds)

def SchemaCache.check : Value → Checked SchemaCache :=
  Conversion.record "SchemaCacheSettings" fun fields =>
    let standard : SchemaCache := {}
    SchemaCache.mk <$> Checked.field fields "forms_table" checkIdentifier (some standard.formsTable)
      <*> Checked.field fields "ttl_s" checkLifetime (some standard.lifetime)

def SchemaCache.toValue (cache : SchemaCache) : Value :=
  .record [("forms_table", .text cache.formsTable), ("ttl_s", (cache.lifetime.map Value.float).getD .null)]

structure Execution where
  fallbackEnabled : Bool := true
  fallbackRowLimit : Int := 1000
  labelColumns : Bool := false

def checkRowLimit (value : Value) : Checked Int :=
  (Conversion.integer value).andThen fun limit => if 0 < limit then .good limit else .fail .notPositive

def Execution.check : Value → Checked Execution :=
  Conversion.record "ExecutionSettings" fun fields =>
    let standard : Execution := {}
    Execution.mk <$> Checked.field fields "fallback_enabled" Conversion.truth (some standard.fallbackEnabled)
      <*> Checked.field fields "fallback_row_limit" checkRowLimit (some standard.fallbackRowLimit)
      <*> Checked.field fields "label_columns" Conversion.truth (some standard.labelColumns)

def Execution.toValue (execution : Execution) : Value :=
  .record [("fallback_enabled", .bool execution.fallbackEnabled),
    ("fallback_row_limit", .int execution.fallbackRowLimit), ("label_columns", .bool execution.labelColumns)]

structure Logging where
  level : String := "INFO"
  jsonLines : Bool := false
  directory : Option String := none
  traceQueries : Bool := false

def levelNames : List String := ["DEBUG", "INFO", "WARNING", "ERROR", "CRITICAL"]

def checkLevel (value : Value) : Checked String :=
  (Conversion.text value).andThen fun name =>
    let level := String.ofList (Text.upper name.toList)
    if level ∈ levelNames then .good level else .fail (.refused s!"Unknown log level: {name}")

def Logging.check : Value → Checked Logging :=
  Conversion.record "LoggingSettings" fun fields =>
    let standard : Logging := {}
    Logging.mk <$> Checked.field fields "level" checkLevel (some standard.level)
      <*> Checked.field fields "jsonl" Conversion.truth (some standard.jsonLines)
      <*> Checked.field fields "log_dir" (Conversion.optional Conversion.path) (some standard.directory)
      <*> Checked.field fields "trace_queries" Conversion.truth (some standard.traceQueries)

def Logging.toValue (logging : Logging) : Value :=
  .record [("level", .text logging.level), ("jsonl", .bool logging.jsonLines),
    ("log_dir", (logging.directory.map Value.text).getD .null), ("trace_queries", .bool logging.traceQueries)]

end Settings

structure Settings where
  storage : Settings.Storage := {}
  schemaCache : Settings.SchemaCache := {}
  execution : Settings.Execution := {}
  logging : Settings.Logging := {}

namespace Settings

def check : Value → Checked Settings :=
  Conversion.record "FormQLSettings" fun fields =>
    Settings.mk <$> Checked.field fields "storage" Storage.check (some {})
      <*> Checked.field fields "schema_cache" SchemaCache.check (some {})
      <*> Checked.field fields "execution" Execution.check (some {})
      <*> Checked.field fields "logging" Logging.check (some {})

def ofTree (tree : Tree) : Except Fault Settings :=
  ((check (.record tree)).toExcept "FormQLSettings").mapError .invalid

def toValue (settings : Settings) : Value :=
  .record [("storage", settings.storage.toValue), ("schema_cache", settings.schemaCache.toValue),
    ("execution", settings.execution.toValue), ("logging", settings.logging.toValue)]

def standardFile : String := "formql.toml"

structure Sources where
  files : Files := []
  /-- Environment variables, each name once. -/
  environment : List (String × String) := []
  config : Option String := none
  overrides : Tree := []

/-- The configuration file: the one that the caller names, or the one that the environment names, or the standard one. -/
def Sources.configFile (sources : Sources) : String :=
  match sources.config, Fields.get? sources.environment Tree.configVariable with
  | some path, _ => path
  | none, some path => if path.isEmpty then standardFile else path
  | none, none => standardFile

def Sources.fileTree (sources : Sources) : Except Fault Tree :=
  match sources.files.entry sources.configFile with
  | .file content => Toml.read content
  | .directory => .error (.isDirectory (Conversion.normalPath sources.configFile))
  | .missing =>
    match sources.config with
    | some path => .error (.noConfig (Conversion.normalPath path))
    | none => .ok []

def Sources.tree (sources : Sources) : Except Fault Tree := do
  let file ← sources.fileTree
  let spelled ← Tree.ofVariables sources.environment
  return Tree.overlay (Tree.overlay (Tree.overlay [] file) spelled) sources.overrides

def load (sources : Sources) : Except Fault Settings := do ofTree (← sources.tree)

end Settings

end FormQuery
