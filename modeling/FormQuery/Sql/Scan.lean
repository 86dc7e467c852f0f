import FormQuery.Layout
import FormQuery.Sql
import FormQuery.Token

/-! SQL text as a database takes it apart first: spans between quotes, and the characters between the spans. Inside a
span a doubled quote stands for one, and the other kind of quote for itself. Which texts stand between the quotes of
generated SQL is told from the query; which fields and which form a text is about is told from the text, by the code
right before a span. -/

namespace FormQuery.Sql

/-- A part of SQL text: a character outside of quotes, or the content of a span between single or double quotes. -/
inductive Mark where
  | plain (c : Char)
  | literal (content : String)
  | label (content : String)
  deriving DecidableEq

namespace Mark

def span (quote : Char) (content : List Char) : Mark :=
  if quote = '"' then label (String.ofList content) else literal (String.ofList content)

def hollow : Mark → Mark
  | plain c => plain c
  | literal _ => literal ""
  | label _ => label ""

def isSpan : Mark → Bool
  | plain _ => false
  | literal _ | label _ => true

end Mark

/-- Where a scan stands. After a quote inside a span the next character tells whether the span has ended. -/
inductive Place where
  | outside
  | inside (quote : Char) (content : List Char)
  | closing (quote : Char) (content : List Char)

def step : Place → Char → Place × List Mark
  | .outside, c => if isQuote c then (.inside c [], []) else (.outside, [.plain c])
  | .inside quote content, c =>
    if c = quote then (.closing quote content, []) else (.inside quote (content ++ [c]), [])
  | .closing quote content, c =>
    if c = quote then (.inside quote (content ++ [quote]), [])
    else if isQuote c then (.inside c [], [.span quote content])
    else (.outside, [.span quote content, .plain c])

def finish : Place → Option (List Mark)
  | .outside => some []
  | .inside .. => none
  | .closing quote content => some [.span quote content]

def scanFrom (place : Place) : List Char → Option (List Mark)
  | [] => finish place
  | c :: rest => (scanFrom (step place c).1 rest).map ((step place c).2 ++ ·)

/-- The spans of SQL text and the characters between them; nothing when a span does not end. -/
def scan (text : String) : Option (List Mark) := scanFrom .outside text.toList

/-- The texts between single quotes that some code leads to. The code before a text is given from its end, as far as
the span before it. -/
def ledTo (leads : List Char → Bool) (before : List Char) : List Mark → List String
  | [] => []
  | .plain c :: rest => ledTo leads (c :: before) rest
  | .label _ :: rest => ledTo leads [] rest
  | .literal content :: rest => (if leads before then [content] else []) ++ ledTo leads [] rest

def endsWith (text : String) (before : List Char) : Bool :=
  text.toList.reverse.isPrefixOf (before.dropWhile Char.isWhitespace)

/-- A key of a document is read with `->>`, or it is written: a change is an object of one pair, which begins with the
key. -/
def beforeKey (before : List Char) : Bool := endsWith "->>" before || endsWith "jsonb_build_object(" before

def documentKeys (marks : List Mark) : List String := ledTo beforeKey [] marks

def beforeTable (layout : Layout) (before : List Char) : Bool := endsWith s!"WHERE {layout.partitionColumn} =" before

def filteredTable? (layout : Layout) (marks : List Mark) : Option String := (ledTo (beforeTable layout) [] marks).head?

end FormQuery.Sql

namespace FormQuery

open Sql

/-- A field is a key of the document; a system column is a bare name. -/
def ColumnRef.quotes (ref : ColumnRef) : List Mark := if ref.pseudo then [] else [.literal ref.name]

def ColumnRef.castQuotes (ref : ColumnRef) : List Mark :=
  if ref.pseudo then [] else [.literal ref.name, .literal numericTextPattern, .literal ref.name]

def Literal.quotes (literal : Literal) : List Mark :=
  if literal.isNumber then [] else [.literal literal.value.display]

def AggregateCall.quotes (call : AggregateCall) : List Mark :=
  match call.argument with
  | none => []
  | some ref => if castsArgument call.function then ref.castQuotes else ref.quotes

/-- Everything is named but a system column that is called like the column that holds it. -/
def SelectItem.quotes (layout : Layout) (item : SelectItem) : List Mark :=
  match item.expr with
  | .aggregate call => call.quotes ++ [.label item.outputName]
  | .column ref =>
    if ref.pseudo ∧ Fields.get? layout.pseudoColumns ref.name = some item.outputName then []
    else ref.quotes ++ [.label item.outputName]

def starQuotes (layout : Layout) : List Mark :=
  layout.pseudoColumns.flatMap fun (pseudo, physical) => if pseudo = physical then [] else [.label pseudo]

def Condition.quotes (condition : Condition) : List Mark :=
  (if condition.value.isNumber then condition.column.castQuotes else condition.column.quotes) ++ condition.value.quotes

def Select.quotes (layout : Layout) (wanted : Select) : List Mark :=
  (if wanted.star then starQuotes layout else wanted.items.flatMap (SelectItem.quotes layout)) ++
    .literal wanted.table.name :: wanted.filter.conditions.flatMap Condition.quotes ++
    if wanted.isGrouped then wanted.columns.flatMap ColumnRef.quotes else []

mutual
def ValueExpr.quotes : ValueExpr → List Mark
  | .literal constant => constant.quotes
  | .field ref => ref.quotes
  | .call _ arguments _ => ValueExpr.allQuotes arguments
  | .foreign _ => []

def ValueExpr.allQuotes : List ValueExpr → List Mark
  | [] => []
  | argument :: rest => argument.quotes ++ ValueExpr.allQuotes rest
end

def ValueExpr.newQuotes : ValueExpr → List Mark
  | .literal constant => [.literal constant.text]
  | expr => expr.quotes

def Update.quotes (change : Update) : List Mark :=
  [.literal "\x7b\x7d", .literal change.target.name] ++ change.value.newQuotes ++
    [.literal change.table.name, .literal change.rowId.text]

def Query.quotes (layout : Layout) : Query → List Mark
  | .select wanted => wanted.quotes layout
  | .update change => change.quotes

end FormQuery
