import FormQuery.Text.Case
import FormQuery.Value

/-! Queries as data: what a SELECT or an UPDATE over one form asks for. Names that the language does not know are kept
as they are, so that a query built by a program is refused where it is used and not where it is written down. -/

namespace FormQuery

/-- A column: a field of the form's documents or, when `pseudo`, a system column under its query name. -/
structure ColumnRef where
  name : String
  position : Nat
  pseudo : Bool
  deriving DecidableEq

inductive Aggregate where
  | count
  | sum
  | avg
  | min
  | max
  | median
  | other (name : String)
  deriving DecidableEq

namespace Aggregate

def name : Aggregate → String
  | count => "COUNT"
  | sum => "SUM"
  | avg => "AVG"
  | min => "MIN"
  | max => "MAX"
  | median => "MEDIAN"
  | other name => name

def known : List Aggregate := [count, sum, avg, min, max, median]

def ofName (name : String) : Aggregate := (known.find? (·.name = name)).getD (other name)

theorem name_ofName (text : String) : (ofName text).name = text := by
  unfold ofName
  cases found : known.find? (·.name = text) with
  | none => rfl
  | some aggregate => simpa using List.find?_some found

end Aggregate

structure AggregateCall where
  function : Aggregate
  argument : Option ColumnRef
  position : Nat
  deriving DecidableEq

inductive SelectExpr where
  | column (ref : ColumnRef)
  | aggregate (call : AggregateCall)
  deriving DecidableEq

structure SelectItem where
  expr : SelectExpr
  alias? : Option String
  deriving DecidableEq

structure TableRef where
  name : String
  position : Nat
  deriving DecidableEq

/-- A literal. Numbers keep the digits as typed in `raw`. -/
structure Literal where
  value : Value
  position : Nat
  raw : Option String

namespace Literal

def isNumber (literal : Literal) : Bool :=
  match literal.value with
  | .bool _ | .int _ | .float _ | .decimal _ => true
  | _ => false

/-- The literal as typed or, when it was not typed, as its value is shown. -/
def text (literal : Literal) : String := literal.raw.getD literal.value.display

end Literal

inductive Comparison where
  | equal
  | notEqual
  | lessGreater
  | less
  | greater
  | atMost
  | atLeast
  | like
  | ilike
  | other (symbol : String)
  deriving DecidableEq

namespace Comparison

def symbol : Comparison → String
  | equal => "="
  | notEqual => "!="
  | lessGreater => "<>"
  | less => "<"
  | greater => ">"
  | atMost => "<="
  | atLeast => ">="
  | like => "LIKE"
  | ilike => "ILIKE"
  | other symbol => symbol

def known : List Comparison := [equal, notEqual, lessGreater, less, greater, atMost, atLeast, like, ilike]

def ofSymbol (symbol : String) : Comparison := (known.find? (·.symbol = symbol)).getD (other symbol)

theorem symbol_ofSymbol (text : String) : (ofSymbol text).symbol = text := by
  unfold ofSymbol
  cases found : known.find? (·.symbol = text) with
  | none => rfl
  | some comparison => simpa using List.find?_some found

def isPattern : Comparison → Bool
  | like | ilike => true
  | _ => false

end Comparison

inductive Connector where
  | and
  | or
  | other (word : String)
  deriving DecidableEq

namespace Connector

def word : Connector → String
  | and => "AND"
  | or => "OR"
  | other word => word

def ofWord (word : String) : Connector := if word = "AND" then and else if word = "OR" then or else other word

theorem word_ofWord (text : String) : (ofWord text).word = text := by
  unfold ofWord
  split
  · next same => exact same.symm
  · split
    · next same => exact same.symm
    · rfl

end Connector

structure Condition where
  column : ColumnRef
  operator : Comparison
  value : Literal

/-- Which rows a SELECT wants. A chain of conditions is read from left to right, whatever its connectors. -/
inductive Filter where
  | all
  /-- A WHERE without conditions. No text has one, and it is refused where it is used. -/
  | empty
  | chain (first : Condition) (rest : List (Connector × Condition))

namespace Filter

def ofLists? (conditions : List Condition) (connectors : List Connector) : Option Filter :=
  match conditions with
  | [] => if connectors.isEmpty then some empty else none
  | first :: rest => if connectors.length = rest.length then some (chain first (connectors.zip rest)) else none

def conditions : Filter → List Condition
  | all | empty => []
  | chain first rest => first :: rest.map Prod.snd

def connectors : Filter → List Connector
  | all | empty => []
  | chain _ rest => rest.map Prod.fst

end Filter

structure Select where
  star : Bool
  items : List SelectItem
  table : TableRef
  filter : Filter

namespace Select

def columns (select : Select) : List ColumnRef :=
  select.items.filterMap fun item => match item.expr with
    | .column ref => some ref
    | .aggregate _ => none

def aggregates (select : Select) : List AggregateCall :=
  select.items.filterMap fun item => match item.expr with
    | .column _ => none
    | .aggregate call => some call

/-- Rows are grouped by the plain columns when there are aggregates beside them. -/
def isGrouped (select : Select) : Bool := !select.aggregates.isEmpty && !select.columns.isEmpty

end Select

inductive ValueExpr where
  | literal (literal : Literal)
  | field (column : ColumnRef)
  | call (name : String) (arguments : List ValueExpr) (position : Nat)
  /-- Something that is no expression; only its kind is known. -/
  | foreign (kind : String)

structure Update where
  table : TableRef
  target : ColumnRef
  value : ValueExpr
  rowId : Literal

inductive Query where
  | select (select : Select)
  | update (update : Update)

def SelectExpr.column? : SelectExpr → Option ColumnRef
  | column ref => some ref
  | aggregate call => call.argument

mutual
def ValueExpr.columnRefs : ValueExpr → List ColumnRef
  | .literal _ => []
  | .field column => [column]
  | .call _ arguments _ => ValueExpr.columnRefsAll arguments
  | .foreign _ => []

def ValueExpr.columnRefsAll : List ValueExpr → List ColumnRef
  | [] => []
  | argument :: rest => argument.columnRefs ++ ValueExpr.columnRefsAll rest
end

def Query.columnRefs : Query → List ColumnRef
  | .select wanted => wanted.items.filterMap (·.expr.column?) ++ wanted.filter.conditions.map (·.column)
  | .update change => change.target :: change.value.columnRefs

def Query.table : Query → TableRef
  | .select wanted => wanted.table
  | .update change => change.table

/-- The name of a result column: the alias unless it is empty, else the column name, or the name of the aggregate in
small letters with its column. -/
def SelectItem.outputName (item : SelectItem) : String :=
  match item.alias? with
  | some name => if name.isEmpty then unnamed else name
  | none => unnamed
where
  unnamed : String :=
    match item.expr with
    | .column ref => ref.name
    | .aggregate call =>
      match call.argument with
      | none => "count"
      | some ref => s!"{String.ofList (Text.lower call.function.name.toList)}_{ref.name}"

def pseudoColumns : List (String × String) :=
  [("submission_id", "id"), ("submitted_by", "submitted_by"), ("submitted_at", "created_at")]

end FormQuery
