import FormQuery.Value

/-! Problems of data that should have a given shape: where in the data, what is wrong there, and the words for it. -/

namespace FormQuery

/-- A step into a value: to a field of a record, or to an item of a list. -/
inductive PathStep where
  | field (name : String)
  | item (index : Nat)
  deriving DecidableEq

inductive ProblemCause where
  | missing
  | notText
  | notUnicode
  | notTruth
  | unreadableTruth
  | notInteger
  | unreadableInteger
  | fractional
  | notFinite
  | notNumber
  | unreadableNumber
  | notPath
  | notRecord
  | notRecordOf (shape : String)
  | notList
  | notOneOf (choices : List String)
  | notPositive
  | refused (reason : String)
  deriving DecidableEq

namespace ProblemCause

def code : ProblemCause → String
  | missing => "missing"
  | notText => "string_type"
  | notUnicode => "string_unicode"
  | notTruth => "bool_type"
  | unreadableTruth => "bool_parsing"
  | notInteger => "int_type"
  | unreadableInteger => "int_parsing"
  | fractional => "int_from_float"
  | notFinite => "finite_number"
  | notNumber => "float_type"
  | unreadableNumber => "float_parsing"
  | notPath => "path_type"
  | notRecord => "dict_type"
  | notRecordOf _ => "model_type"
  | notList => "list_type"
  | notOneOf _ => "literal_error"
  | notPositive => "greater_than"
  | refused _ => "value_error"

def choiceText : List String → String
  | [] => ""
  | [choice] => s!"'{choice}'"
  | [choice, last] => s!"'{choice}' or '{last}'"
  | choice :: rest => s!"'{choice}', " ++ choiceText rest

def text : ProblemCause → String
  | missing => "Field required"
  | notText => "Input should be a valid string"
  | notUnicode => "Input should be a valid string, unable to parse raw data as a unicode string"
  | notTruth => "Input should be a valid boolean"
  | unreadableTruth => "Input should be a valid boolean, unable to interpret input"
  | notInteger => "Input should be a valid integer"
  | unreadableInteger => "Input should be a valid integer, unable to parse string as an integer"
  | fractional => "Input should be a valid integer, got a number with a fractional part"
  | notFinite => "Input should be a finite number"
  | notNumber => "Input should be a valid number"
  | unreadableNumber => "Input should be a valid number, unable to parse string as a number"
  | notPath => "Input is not a valid path for <class 'pathlib.Path'>"
  | notRecord => "Input should be a valid dictionary"
  | notRecordOf shape => s!"Input should be a valid dictionary or instance of {shape}"
  | notList => "Input should be a valid list"
  | notOneOf choices => s!"Input should be {choiceText choices}"
  | notPositive => "Input should be greater than 0"
  | refused reason => s!"Value error, {reason}"

end ProblemCause

structure Problem where
  path : List PathStep
  cause : ProblemCause
  deriving DecidableEq

def Problem.under (step : PathStep) (problem : Problem) : Problem := { problem with path := step :: problem.path }

structure ProblemReport where
  shape : String
  problems : List Problem
  deriving DecidableEq

def PathStep.text : PathStep → String
  | field name => name
  | item index => toString index

def ProblemReport.message (report : ProblemReport) : String :=
  let count := report.problems.length
  let noun := if count = 1 then "error" else "errors"
  let head := s!"{count} validation {noun} for {report.shape}"
  let entries := report.problems.map fun problem =>
    let place := ".".intercalate (problem.path.map PathStep.text)
    s!"{place}\n  {problem.cause.text} [type={problem.cause.code}]"
  "\n".intercalate (head :: entries)

end FormQuery
