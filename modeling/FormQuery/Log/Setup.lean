import FormQuery.Json.Printer
import FormQuery.Log.Record
import FormQuery.Settings

/-! Where log records go and how they are written: to a file, to the error output or to both, as plain lines or as JSON.
Queries can be traced whatever the level. -/

namespace FormQuery

/-- The time of a record in the two ways in which records show it, and the time of a file in its name. -/
structure Moment where
  seconds : String
  fraction : String
  fileName : String

structure LogSetup where
  /-- The least severity that is written. -/
  threshold : Nat := 20
  /-- The directory of the log file. Without one there is no file. -/
  directory : Option String := none
  toErrors : Bool := false
  jsonLines : Bool := false
  traceQueries : Bool := false

namespace LogSetup

def queryLogger : String := "formql.execution"

def severities : List (String × Nat) :=
  [("CRITICAL", 50), ("FATAL", 50), ("ERROR", 40), ("WARNING", 30), ("WARN", 30), ("INFO", 20), ("DEBUG", 10),
    ("NOTSET", 0)]

/-- The severity with a name, in any letter case. Other names stand for the one of information. -/
def severityOf (name : String) : Nat :=
  (severities.lookup (String.ofList (Text.upper name.toList))).getD LogLevel.info.severity

def ofSettings (logging : Settings.Logging) : LogSetup :=
  { threshold := severityOf logging.level, directory := logging.directory, jsonLines := logging.jsonLines,
    traceQueries := logging.traceQueries }

/-- The severity from which on the logger of query execution writes. None of its own is zero. -/
def queryThreshold (setup : LogSetup) : Nat := if setup.traceQueries then LogLevel.debug.severity else 0

def isQueryLogger (name : String) : Bool :=
  name = queryLogger || (queryLogger ++ ".").toList.isPrefixOf name.toList

/-- Whether a record is written. A logger without a threshold of its own has the common one. -/
def accepts (setup : LogSetup) (record : LogRecord) : Bool :=
  let own := if isQueryLogger record.logger then setup.queryThreshold else 0
  (if own = 0 then setup.threshold else own) ≤ record.level.severity

def writesErrors (setup : LogSetup) : Bool := setup.toErrors || setup.directory.isNone

def path? (setup : LogSetup) (moment : Moment) : Option String :=
  setup.directory.map fun directory =>
    let kind := if setup.jsonLines then "jsonl" else "log"
    Conversion.normalPath s!"{directory}/formql_{moment.fileName}.{kind}"

def noState : String := "-"

def plainText (moment : Moment) (record : LogRecord) : String :=
  let line := s!"{moment.seconds} {record.level.label} {record.logger} [{record.state.getD noState}] {record.message}"
  match record.failure with
  | none => line
  | some failure => if line.toList.getLast? = some '\n' then line ++ failure else line ++ "\n" ++ failure

def recordFields (moment : Moment) (record : LogRecord) : Fields :=
  [("timestamp", .text moment.fraction), ("level", .text record.level.label), ("logger", .text record.logger),
    ("query_state", .text (record.state.getD noState)), ("message", .text record.message)] ++
    (record.sql.map fun sql => ("sql", Value.text sql)).toList ++
    (record.failure.map fun failure => ("exc_info", Value.text failure)).toList

def jsonText (moment : Moment) (record : LogRecord) : String :=
  match Json.print .plain (.record (recordFields moment record)) with
  | .ok chars => String.ofList chars
  | .error _ => ""

def recordText (setup : LogSetup) (moment : Moment) (record : LogRecord) : String :=
  (if setup.jsonLines then jsonText moment record else plainText moment record) ++ "\n"

def written (setup : LogSetup) (moment : Moment) (record : LogRecord) : String :=
  if setup.accepts record then setup.recordText moment record else ""

def fileText (setup : LogSetup) (moment : Moment) (records : List LogRecord) : String :=
  String.join (records.map (setup.written moment))

end LogSetup

end FormQuery
