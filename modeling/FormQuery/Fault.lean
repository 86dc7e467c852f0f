import FormQuery.Json.Reader
import FormQuery.Problem

/-! Faults: why an operation on values, queries, schemas or connections stops without a result, and the words for it.
Diagnostics: what is wrong with a query, where in its text, and of which kind. -/

namespace FormQuery

inductive Fault where
  /-- A place for a value expression holds something else. -/
  | notExpression (kind : String)
  | notQuery (kind : String)
  | notDocument (kind : String)
  | noMember (kind member : String)
  | unknownFunction (name : String)
  | unknownComparison (symbol : String)
  | unknownAggregate (name : String)
  /-- Conditions and connectors do not alternate. -/
  | connectorCount
  /-- A WHERE without conditions, or a call without arguments, where one is needed. -/
  | nothingThere
  | argumentCount (name arity : String) (given : Nat)
  | negativeLength
  | countKind (kind : String)
  | countText (shown : String)
  | countMissing
  | countInfinite
  | countSignaling
  | integerTooLarge
  | limitKind (kind : String)
  | limitText (shown : String)
  | limitMissing
  | limitInfinite
  /-- A list or a record cannot be a group of its own. -/
  | notGroupable (kind : String)
  | notOrdered (symbol left right : String)
  | notJson (kind : String)
  | malformedNumber
  | unorderedNumber
  | unknownKey (name : String)
  | unknownIndex (index : Nat)
  | noFirst
  | notIterable (kind : String)
  | notIndexable (kind : String)
  | tooFewCells (expected given : Nat)
  | tooManyCells (expected : Nat)
  | octets (fault : Text.DecodeFault)
  | json (fault : Json.ReadFault)
  | invalid (report : ProblemReport)
  | duplicateForm (id : String)
  | schemaShape (path : String)
  | rowLimit
  /-- The connection does not run statements; rows can still be fetched. -/
  | unavailable (reason : String)
  /-- A collaborator failed in its own way. -/
  | external (label reason : String)
  | noSuchTable (name : String)
  | noSuchColumn (name : String)
  | limitTooLarge
  /-- A file cannot be opened as a database, or is none. -/
  | noDatabase
  | notDatabase
  | noSuchFile (path : String)
  | isDirectory (path : String)
  | noConfig (path : String)
  | toml (reason : String)
  /-- A leaf of the settings stands where sections are needed. -/
  | leafNotSection
  /-- A leaf of the settings stands where a section with a leaf is needed. -/
  | leafNotAssignable

namespace Fault

/-- The article-free list of what an operation was given, for a comparison of two kinds. -/
def kindPair (left right : String) : String := s!"'{left}' and '{right}'"

def message : Fault → String
  | notExpression kind => s!"Unsupported value expression: {kind}"
  | notQuery kind => s!"Expected ParsedQuery or UpdateQuery, got {kind}"
  | notDocument kind => s!"Unsupported document value of type {kind}"
  | noMember kind member => s!"'{kind}' object has no attribute '{member}'"
  | unknownFunction name => s!"Unsupported function: {name}"
  | unknownComparison symbol => s!"Unsupported comparison operator: {symbol}"
  | unknownAggregate name => s!"Unsupported aggregate: {name}"
  | connectorCount => "WHERE clause needs exactly one connector between consecutive conditions"
  | nothingThere => "tuple index out of range"
  | argumentCount name arity given => s!"{name} expects {arity} argument(s), got {given}"
  | negativeLength => "negative substring length not allowed"
  | countKind kind => s!"float() argument must be a string or a real number, not '{kind}'"
  | countText shown => s!"could not convert string to float: {shown}"
  | countMissing => "cannot convert float NaN to integer"
  | countInfinite => "cannot convert float infinity to integer"
  | countSignaling => "cannot convert signaling NaN to float"
  | integerTooLarge => "int too large to convert to float"
  | limitKind kind => s!"int() argument must be a string, a bytes-like object or a real number, not '{kind}'"
  | limitText shown => s!"invalid literal for int() with base 10: {shown}"
  | limitMissing => "cannot convert NaN to integer"
  | limitInfinite => "cannot convert Infinity to integer"
  | notGroupable kind => s!"unhashable type: '{kind}'"
  | notOrdered symbol left right => s!"'{symbol}' not supported between instances of {kindPair left right}"
  | notJson kind => s!"Object of type {kind} is not JSON serializable"
  | malformedNumber => "[<class 'decimal.ConversionSyntax'>]"
  | unorderedNumber => "[<class 'decimal.InvalidOperation'>]"
  | unknownKey name => Text.quoted name
  | unknownIndex index => toString index
  | noFirst => "list index out of range"
  | notIterable kind => s!"'{kind}' object is not iterable"
  | notIndexable kind => s!"'{kind}' object is not subscriptable"
  | tooFewCells expected given => s!"not enough values to unpack (expected {expected}, got {given})"
  | tooManyCells expected => s!"too many values to unpack (expected {expected})"
  | octets fault => fault.message
  | json fault => fault.message
  | invalid report => report.message
  | duplicateForm id => s!"Duplicate form id: {id}"
  | schemaShape path => s!"Schema file {path} must contain a JSON list or object"
  | rowLimit => "fallback_row_limit must be positive"
  | unavailable reason => reason
  | external _ reason => reason
  | noSuchTable name => s!"no such table: {name}"
  | noSuchColumn name => s!"no such column: {name}"
  | limitTooLarge => "datatype mismatch"
  | noDatabase => "unable to open database file"
  | notDatabase => "file is not a database"
  | noSuchFile path => s!"[Errno 2] No such file or directory: {Text.quoted path}"
  | isDirectory path => s!"[Errno 21] Is a directory: {Text.quoted path}"
  | noConfig path => s!"Config file not found at {path}"
  | toml reason => reason
  | leafNotSection => "'str' object has no attribute 'setdefault'"
  | leafNotAssignable => "'str' object does not support item assignment"

end Fault

inductive DiagnosticKind where
  | malformed
  | unknownTable
  | unknownColumn
  | unsupported
  | execution
  deriving DecidableEq

namespace DiagnosticKind

def label : DiagnosticKind → String
  | malformed => "syntax"
  | unknownTable => "unknown_table"
  | unknownColumn => "unknown_column"
  | unsupported => "unsupported"
  | execution => "execution"

def all : List DiagnosticKind := [malformed, unknownTable, unknownColumn, unsupported, execution]

def ofLabel? (label : String) : Option DiagnosticKind := all.find? (·.label = label)

theorem mem_all (kind : DiagnosticKind) : kind ∈ all := by cases kind <;> simp [all]

end DiagnosticKind

/-- One finding about a query. The position counts characters of the query text. -/
structure Diagnostic where
  kind : DiagnosticKind
  message : String
  position : Nat
  deriving DecidableEq

end FormQuery
