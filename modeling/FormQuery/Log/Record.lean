/-! Log records: what a part of the program reports while it works. -/

namespace FormQuery

inductive LogLevel where
  | debug
  | info
  | warning
  | error
  | critical
  deriving DecidableEq

namespace LogLevel

def label : LogLevel → String
  | debug => "DEBUG"
  | info => "INFO"
  | warning => "WARNING"
  | error => "ERROR"
  | critical => "CRITICAL"

def severity : LogLevel → Nat
  | debug => 10
  | info => 20
  | warning => 30
  | error => 40
  | critical => 50

def all : List LogLevel := [debug, info, warning, error, critical]

def ofLabel? (label : String) : Option LogLevel := all.find? (·.label = label)

end LogLevel

/-- A log record. Records of query execution carry the state of the query and, once it exists, its SQL. -/
structure LogRecord where
  logger : String
  level : LogLevel
  message : String
  state : Option String := none
  sql : Option String := none
  /-- The text of a failure that a record tells of. -/
  failure : Option String := none
  deriving DecidableEq

def LogRecord.plain (logger : String) (level : LogLevel) (message : String) : LogRecord :=
  ⟨logger, level, message, none, none, none⟩

structure Loggers where
  models : String := "formql.models"
  parser : String := "formql.dsl.parser"
  compiler : String := "formql.dsl.compile"
  schema : String := "formql.dsl.schema_registry"
  engine : String := "formql.execution.adapter"
  backend : String := "formql.execution.backends"

def loggers : Loggers := {}

end FormQuery
