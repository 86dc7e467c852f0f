import FormQuery.Query
import FormQuery.Sql

/-! Queries as text: fields are written as `FIELD('…')`, system columns bare, and every other name between quotes, so
that no name can be taken for a word of the language. Positions are those of another text and are not written. -/

namespace FormQuery

inductive Part where
  /-- A reserved word, or the name of a system column. -/
  | word (text : String)
  | operator (symbol : String)
  | sign (c : Char)
  /-- A text between single quotes. -/
  | quoted (content : String)
  | number (raw : String)
  deriving DecidableEq

namespace Part

def text : Part → List Char
  | word text => text.toList
  | operator symbol => symbol.toList
  | sign c => [c]
  | quoted content => (Sql.quoteLiteral content).toList
  | number raw => raw.toList

/-- Nothing stands inside of parentheses at their ends, before an opening one or before a comma. -/
def gap (part next : Part) : List Char :=
  if part = sign '(' ∨ next = sign '(' ∨ next = sign ')' ∨ next = sign ',' then [] else [' ']

def line : List Part → List Char
  | [] => []
  | [part] => part.text
  | part :: next :: rest => part.text ++ part.gap next ++ line (next :: rest)

def commas : List (List Part) → List Part
  | [] => []
  | first :: rest => first ++ rest.flatMap (sign ',' :: ·)

end Part

def ColumnRef.parts (ref : ColumnRef) : List Part :=
  if ref.pseudo then [.word ref.name] else [.word "FIELD", .sign '(', .quoted ref.name, .sign ')']

def TableRef.part (table : TableRef) : Part := .quoted table.name

def Literal.part (literal : Literal) : Part :=
  match literal.raw with
  | some raw => .number raw
  | none => .quoted literal.text

def AggregateCall.argumentParts (call : AggregateCall) : List Part :=
  match call.argument with
  | none => [.sign '*']
  | some ref => ref.parts

def AggregateCall.parts (call : AggregateCall) : List Part :=
  .word call.function.name :: .sign '(' :: call.argumentParts ++ [.sign ')']

def SelectExpr.parts : SelectExpr → List Part
  | column ref => ref.parts
  | aggregate call => call.parts

def aliasParts : Option String → List Part
  | none => []
  | some name => [.word "AS", .quoted name]

def SelectItem.parts (item : SelectItem) : List Part := item.expr.parts ++ aliasParts item.alias?

def Comparison.part (comparison : Comparison) : Part :=
  if comparison.isPattern then .word comparison.symbol else .operator comparison.symbol

def Condition.parts (condition : Condition) : List Part :=
  condition.column.parts ++ [condition.operator.part, condition.value.part]

def linkParts (link : Connector × Condition) : List Part := .word link.1.word :: link.2.parts

def Filter.parts : Filter → List Part
  | all => []
  | empty => [.word "WHERE"]
  | chain first rest => .word "WHERE" :: first.parts ++ rest.flatMap linkParts

def Select.parts (select : Select) : List Part :=
  .word "SELECT" :: (if select.star then [.sign '*'] else Part.commas (select.items.map SelectItem.parts)) ++
    [.word "FROM", select.table.part] ++ select.filter.parts

mutual
def ValueExpr.parts : ValueExpr → List Part
  | .literal constant => [constant.part]
  | .field column => column.parts
  | .call name arguments _ => .word name :: .sign '(' :: Part.commas (ValueExpr.partsAll arguments) ++ [.sign ')']
  | .foreign _ => []

def ValueExpr.partsAll : List ValueExpr → List (List Part)
  | [] => []
  | argument :: rest => argument.parts :: ValueExpr.partsAll rest
end

def Update.parts (update : Update) : List Part :=
  [.word "UPDATE", .word "FORM", update.table.part, .word "SET"] ++ update.target.parts ++
    .operator "=" :: update.value.parts ++
    [.word "WHERE", .word "submission_id", .operator "=", update.rowId.part]

def Query.parts : Query → List Part
  | select wanted => wanted.parts
  | update change => change.parts

/-- The text that asks for a query. -/
def Query.written (query : Query) : String := String.ofList (Part.line query.parts)

end FormQuery
