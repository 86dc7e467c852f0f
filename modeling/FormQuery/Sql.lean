import FormQuery.Layout
import FormQuery.StringFunction

/-! SQL for queries over the submissions table. Every form is the part of one table that its identifier selects, and
fields are keys of a document column. Fields are read as text, so numbers are cast, and only text that shows a number
is. SQL is built from pieces that tell fixed code from what a user wrote; only the latter is quoted. -/

namespace FormQuery

namespace Sql

inductive Piece where
  /-- Fixed words and symbols. -/
  | code (text : String)
  /-- A table or column name of a layout, written bare. -/
  | name (text : String)
  /-- A number as typed, written bare. -/
  | number (text : String)
  /-- A text between single quotes. -/
  | literal (content : String)
  | label (content : String)
  deriving DecidableEq

def enclose (quote : Char) (content : String) : String :=
  String.ofList (quote :: content.toList.flatMap (fun c => if c = quote then [quote, quote] else [c]) ++ [quote])

def quoteLiteral (content : String) : String := enclose '\'' content

def quoteLabel (content : String) : String := enclose '"' content

def Piece.text : Piece → String
  | code text | name text | number text => text
  | literal content => quoteLiteral content
  | label content => quoteLabel content

end Sql

abbrev Sql := List Sql.Piece

namespace Sql

open Piece

def text (sql : Sql) : String := String.join (sql.map Piece.text)

def separated (separator : String) : List Sql → Sql
  | [] => []
  | [part] => part
  | part :: rest => part ++ code separator :: separated separator rest

/-- Texts that a numeric cast accepts: digits with an optional sign and fraction. Any other text reads as no number. -/
def numericTextPattern : String := "^-?[0-9]+(\\.[0-9]+)?$"

def extraction (key : String) (layout : Layout) : Sql := [name layout.documentColumn, code " ->> ", literal key]

def guardedCast (sql : Sql) : Sql :=
  code "CASE WHEN (" :: sql ++ [code ") ~ ", literal numericTextPattern, code " THEN ("] ++ sql ++
    [code ")::numeric END"]

def column (ref : ColumnRef) (layout : Layout) : Except Fault Sql :=
  if ref.pseudo then do return [name (← layout.physical ref.name)] else .ok (extraction ref.name layout)

def ofLiteral (value : Literal) : Sql :=
  if value.isNumber then [number value.text] else [literal value.value.display]

def functionName : StringFunction → String
  | .trim => "BTRIM"
  | .length => "CHAR_LENGTH"
  | function => function.name

/-- The call of a function. `SUBSTRING` has words instead of commas, and any number of arguments but three leaves the
length out. -/
def call (function : StringFunction) (arguments : List Sql) : Except Fault Sql :=
  match function, arguments with
  | .substring, [text, start, size] =>
    .ok (code "SUBSTRING(" :: text ++ code " FROM " :: start ++ code " FOR " :: size ++ [code ")"])
  | .substring, text :: start :: _ => .ok (code "SUBSTRING(" :: text ++ code " FROM " :: start ++ [code ")"])
  | .substring, _ => .error .nothingThere
  | function, arguments => .ok (code (functionName function ++ "(") :: separated ", " arguments ++ [code ")"])

mutual
def value (layout : Layout) : ValueExpr → Except Fault Sql
  | .literal value => .ok (ofLiteral value)
  | .field ref => do return code "(" :: (← column ref layout) ++ [code ")"]
  | .call callee arguments _ =>
    match StringFunction.find? callee with
    | some function => do call function (← values layout arguments)
    | none => .error (.unknownFunction callee)
  | .foreign kind => .error (.notExpression kind)

def values (layout : Layout) : List ValueExpr → Except Fault (List Sql)
  | [] => .ok []
  | argument :: rest => do return (← value layout argument) :: (← values layout rest)
end

def castsArgument : Aggregate → Bool
  | .sum | .avg | .min | .max | .median => true
  | _ => false

def aggregate (call : AggregateCall) (layout : Layout) : Except Fault Sql := do
  match call.argument with
  | none => return [code "COUNT(*)"]
  | some ref =>
    let argument ← column ref layout
    let argument := if castsArgument call.function && !ref.pseudo then guardedCast argument else argument
    if call.function = .median then
      return code "percentile_cont(0.5) WITHIN GROUP (ORDER BY " :: argument ++ [code ")"]
    else return code (call.function.name ++ "(") :: argument ++ [code ")"]

/-- A result column. A system column that has its own name already is not named again. -/
def selectItem (layout : Layout) (item : SelectItem) : Except Fault Sql := do
  match item.expr with
  | .aggregate call => return (← aggregate call layout) ++ [code " AS ", label item.outputName]
  | .column ref =>
    let sql ← column ref layout
    if ref.pseudo && text sql = item.outputName then return sql
    else return sql ++ [code " AS ", label item.outputName]

def starColumns (layout : Layout) : List Sql :=
  layout.pseudoColumns.map (fun (pseudo, physical) =>
    if pseudo = physical then [name physical] else [name physical, code " AS ", label pseudo]) ++
    [[name layout.documentColumn]]

def condition (layout : Layout) (condition : Condition) : Except Fault Sql := do
  let sql ← column condition.column layout
  let sql := if condition.value.isNumber && !condition.column.pseudo then guardedCast sql else sql
  return sql ++ code s!" {condition.operator.symbol} " :: ofLiteral condition.value

/-- Joins conditions with explicit parentheses, so that they are read from left to right although AND binds tighter
than OR. -/
def chain (layout : Layout) (sql : Sql) : List (Connector × Condition) → Except Fault Sql
  | [] => .ok sql
  | (connector, next) :: rest => do
    let next ← condition layout next
    chain layout (code "(" :: sql ++ code s!" {connector.word} " :: next ++ [code ")"]) rest

def filter (layout : Layout) : Filter → Except Fault (List Sql)
  | .all => .ok []
  | .empty => .error .nothingThere
  | .chain first rest => do return [← chain layout (← condition layout first) rest]

def partition (table : String) (layout : Layout) : Sql :=
  [name layout.partitionColumn, code " = ", literal table]

def select (layout : Layout) (select : Select) : Except Fault Sql := do
  let columns ← if select.star then pure (starColumns layout) else select.items.mapM (selectItem layout)
  let conditions := partition select.table.name layout :: (← filter layout select.filter)
  let keys ← if select.isGrouped then select.columns.mapM (column · layout) else pure []
  let grouping := if select.isGrouped then code " GROUP BY " :: separated ", " keys else []
  return code "SELECT " :: separated ", " columns ++ [code " FROM ", name layout.table, code " WHERE "] ++
    separated " AND " conditions ++ grouping

/-- The new value of a field. A literal is stored as typed, so `007` keeps its zeros. -/
def newValue (layout : Layout) : ValueExpr → Except Fault Sql
  | .literal value => .ok [literal value.text]
  | expr => do return code "(" :: (← value layout expr) ++ [code ")::text"]

def update (layout : Layout) (update : Update) : Except Fault Sql := do
  let assigned ← newValue layout update.value
  let rowIdColumn ← layout.rowIdColumn
  let document := name layout.documentColumn
  return [code "UPDATE ", name layout.table, code " SET ", document, code " = COALESCE(", document, code ", ",
      literal "\x7b\x7d", code "::jsonb) || jsonb_build_object(", literal update.target.name, code ", "] ++ assigned ++
    code ") WHERE " :: partition update.table.name layout ++
    [code " AND ", name rowIdColumn, code " = ", literal update.rowId.text]

def ofQuery (layout : Layout) : Query → Except Fault Sql
  | .select wanted => select layout wanted
  | .update change => update layout change

end Sql

end FormQuery
