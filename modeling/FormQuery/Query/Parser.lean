import FormQuery.Fault
import FormQuery.Query
import FormQuery.Text.Classes
import FormQuery.Token.Lexer

/-! Reading queries from tokens, without a second look at any of them: the first token that cannot continue a query is
reported. A statement is

    SELECT ('*' | item (',' item)*) FROM table [WHERE condition ((AND | OR) condition)*]
    UPDATE FORM table SET FIELD(quoted) = value WHERE submission_id = literal

and recognisable SQL beyond it is reported as unsupported. -/

namespace FormQuery

inductive SyntaxCause where
  | unsupportedWord (word : String)
  | secondStatement
  | unexpected (found : Token) (expected : String)
  | starArgument (function : String)
  | numericPattern (operator : String)
  | unsupportedFunction (name : String)
  | aggregateInValue (name : String)
  | argumentCount (name arity : String) (given : Nat)
  /-- A number token whose text is no number. -/
  | malformedNumber
  /-- There is no token at all. -/
  | noTokens
  deriving DecidableEq

structure SyntaxError where
  cause : SyntaxCause
  position : Nat
  deriving DecidableEq

namespace SyntaxCause

def message : SyntaxCause → String
  | unsupportedWord word => s!"{word} is not supported"
  | secondStatement => "Only a single statement is supported"
  | unexpected found expected => s!"Unexpected {found.describe}, expected {expected}"
  | starArgument function => s!"'*' is only allowed in COUNT(*), not {function}"
  | numericPattern operator => s!"{operator} needs a quoted pattern, not a number"
  | unsupportedFunction name => s!"Function {name} is not supported"
  | aggregateInValue name => s!"Aggregate {name} cannot be used in SET"
  | argumentCount name arity given => s!"{name} expects {arity} argument(s), got {given}"
  | malformedNumber => "Malformed number"
  | noTokens => "No tokens"

def kind : SyntaxCause → DiagnosticKind
  | unexpected .. | starArgument _ | malformedNumber | noTokens => .malformed
  | _ => .unsupported

end SyntaxCause

namespace SyntaxError

def diagnostic (error : SyntaxError) : Diagnostic := ⟨error.cause.kind, error.cause.message, error.position⟩

def message (error : SyntaxError) : String := s!"{error.cause.message} (at position {error.position})"

end SyntaxError

def unsupportedWords : List String :=
  ["JOIN", "INNER", "OUTER", "CROSS", "GROUP", "ORDER", "BY", "HAVING", "LIMIT", "OFFSET", "UNION", "INTERSECT",
   "EXCEPT", "DISTINCT", "INSERT", "DELETE", "CREATE", "DROP", "ALTER", "WITH", "IN", "NOT", "BETWEEN", "IS", "EXISTS",
   "CASE"]

def capitals (text : String) : String := String.ofList (Text.upper text.toList)

def smallLetters (text : String) : String := String.ofList (Text.lower text.toList)

def refusal (token : Token) (expected : String) : SyntaxError :=
  let word := if token.kind = .unrecognized || token.kind = .function then capitals token.value else ""
  if word ∈ unsupportedWords then ⟨.unsupportedWord word, token.position⟩
  else if token.kind = .semicolon then ⟨.secondStatement, token.position⟩
  else ⟨.unexpected token expected, token.position⟩

/-- The tokens not yet read. The last one is never passed: reading on gives it again. -/
structure Cursor where
  current : Token
  ahead : List Token

namespace Cursor

def next (cursor : Cursor) : Token := cursor.ahead.head?.getD cursor.current

def advance (cursor : Cursor) : Cursor :=
  if cursor.current.kind = .endOfInput then cursor
  else
    match cursor.ahead with
    | [] => cursor
    | token :: rest => ⟨token, rest⟩

end Cursor

abbrev Parser (α : Type) := StateT Cursor (Except SyntaxError) α

namespace Parser

def current : Parser Token := do return (← get).current

def next : Parser Token := do return (← get).next

def advance : Parser Token := do
  let cursor ← get
  set cursor.advance
  return cursor.current

def atKind (kind : TokenKind) : Parser Bool := do return (← current).kind = kind

def refuse {α : Type} (expected : String) : Parser α := do throw (refusal (← current) expected)

def expect (kind : TokenKind) (expected : String) : Parser Token := do
  if ← atKind kind then advance else refuse expected

/-- Whether a word can name a column: letters of any script and underscores start one. -/
def startsName (word : String) : Bool :=
  match word.toList with
  | c :: _ => Text.isLetter c || c = '_'
  | [] => false

/-- The column that a bare word names. System columns are known in any letter case. -/
def bareColumn (token : Token) : ColumnRef :=
  let name := smallLetters token.value
  if (pseudoColumns.lookup name).isSome then ⟨name, token.position, true⟩ else ⟨token.value, token.position, false⟩

def column : Parser ColumnRef := do
  let token ← current
  match token.kind with
  | .fieldWord =>
    let _ ← advance
    let _ ← expect .leftParen "'(' after FIELD"
    let name ← expect .columnRef "quoted field id inside FIELD()"
    let _ ← expect .rightParen "')' to close FIELD"
    return ⟨name.value, token.position, false⟩
  | .columnRef =>
    let _ ← advance
    return ⟨token.value, token.position, false⟩
  | .unrecognized =>
    if startsName token.value then
      if capitals token.value ∈ unsupportedWords then refuse "column"
      else
        let _ ← advance
        return bareColumn token
    else refuse "column reference"
  | _ => refuse "column reference"

def table : Parser TableRef := do
  let token ← expect .tableRef "quoted form id"
  return ⟨token.value, token.position⟩

def literal : Parser Literal := do
  let token ← current
  match token.kind with
  | .number =>
    match Decimal.ofText? token.value with
    | some number =>
      let _ ← advance
      return ⟨.decimal number, token.position, some token.value⟩
    | none => throw ⟨.malformedNumber, token.position⟩
  | .string | .columnRef | .tableRef =>
    if token.isQuoted then
      let _ ← advance
      return ⟨.text token.value, token.position, none⟩
    else refuse "string or number literal"
  | _ => refuse "string or number literal"

def aggregateCall : Parser AggregateCall := do
  let function ← expect .aggregate "aggregate function"
  let _ ← expect .leftParen s!"'(' after {function.value}"
  let argument ← argumentOf function
  let _ ← expect .rightParen s!"')' to close {function.value}"
  return ⟨.ofName function.value, argument, function.position⟩
where
  /-- Whole rows can only be counted. -/
  argumentOf (function : Token) : Parser (Option ColumnRef) := do
    if ← atKind .star then
      let star ← advance
      if function.value = "COUNT" then return none else throw ⟨.starArgument function.value, star.position⟩
    else return some (← column)

/-- The name after AS: a word that SQL does not reserve, or anything between quotes. -/
def aliasName : Parser String := do
  let token ← current
  let accepted :=
    if token.kind = .unrecognized then capitals token.value ∉ unsupportedWords else token.isQuoted
  if accepted then
    let _ ← advance
    return token.value
  else refuse "alias after AS"

def selectItem : Parser SelectItem := do
  let expr ← if ← atKind .aggregate then do pure (.aggregate (← aggregateCall)) else do pure (.column (← column))
  if ← atKind .asWord then
    let _ ← advance
    return ⟨expr, some (← aliasName)⟩
  else return ⟨expr, none⟩

def moreItems : Nat → Parser (List SelectItem)
  | 0 => return []
  | left + 1 => do
    if ← atKind .comma then
      let _ ← advance
      let item ← selectItem
      return item :: (← moreItems left)
    else return []

def condition : Parser Condition := do
  let column ← column
  let operator ← expect .operator "comparison operator"
  let value ← literal
  let comparison := Comparison.ofSymbol operator.value
  if comparison.isPattern && value.isNumber then throw ⟨.numericPattern operator.value, value.position⟩
  else return ⟨column, comparison, value⟩

def moreConditions : Nat → Parser (List (Connector × Condition))
  | 0 => return []
  | left + 1 => do
    let token ← current
    if token.kind = .andWord || token.kind = .orWord then
      let _ ← advance
      let condition ← condition
      return (.ofWord token.value, condition) :: (← moreConditions left)
    else return []

def filter (fuel : Nat) : Parser Filter := do
  if ← atKind .whereWord then
    let _ ← advance
    let first ← condition
    return .chain first (← moreConditions fuel)
  else return .all

def select (fuel : Nat) : Parser Select := do
  let _ ← expect .selectWord "SELECT"
  let star ← atKind .star
  let items ← if star then do let _ ← advance; pure [] else do
    let first ← selectItem
    pure (first :: (← moreItems fuel))
  let _ ← expect .fromWord "FROM"
  let table ← table
  return ⟨star, items, table, ← filter fuel⟩

mutual
def value : Nat → Parser ValueExpr
  | 0 => refuse "string or number literal"
  | left + 1 => do
    let token ← current
    let next ← next
    match token.kind with
    | .fieldWord => return .field (← column)
    | .function => functionCall left
    | .unrecognized =>
      if next.kind = .leftParen then throw ⟨.unsupportedFunction (capitals token.value), token.position⟩
      else return .literal (← literal)
    | .aggregate => throw ⟨.aggregateInValue token.value, token.position⟩
    | _ => return .literal (← literal)

def functionCall : Nat → Parser ValueExpr
  | 0 => refuse "function"
  | left + 1 => do
    let name ← expect .function "function"
    let _ ← expect .leftParen s!"'(' after {name.value}"
    let first ← value left
    let arguments := first :: (← moreArguments left)
    let _ ← expect .rightParen s!"')' to close {name.value}"
    match StringFunction.find? name.value with
    | some function =>
      if function.accepts arguments.length then return .call name.value arguments name.position
      else throw ⟨.argumentCount name.value function.arity arguments.length, name.position⟩
    | none => throw ⟨.argumentCount name.value "?" arguments.length, name.position⟩

def moreArguments : Nat → Parser (List ValueExpr)
  | 0 => return []
  | left + 1 => do
    if ← atKind .comma then
      let _ ← advance
      let argument ← value left
      return argument :: (← moreArguments left)
    else return []
end

def equals : Parser Unit := do
  let operator ← expect .operator "'='"
  if operator.value = "=" then return () else throw (refusal operator "'='")

def rowIdColumn : String := "submission_id"

def update (fuel : Nat) : Parser Update := do
  let _ ← expect .updateWord "UPDATE"
  let _ ← expect .formWord "FORM after UPDATE"
  let table ← table
  let _ ← expect .setWord "SET"
  let target ← if ← atKind .fieldWord then column else refuse "FIELD('<field id>') after SET"
  equals
  let value ← value fuel
  let _ ← expect .whereWord "WHERE submission_id = '<id>'"
  let rowColumn ← current
  if rowColumn.kind = .unrecognized && smallLetters rowColumn.value = rowIdColumn then
    let _ ← advance
    equals
    return ⟨table, target, value, ← literal⟩
  else refuse "submission_id"

def statement (fuel : Nat) : Parser Query := do
  let token ← current
  let query ← match token.kind with
    | .selectWord => do pure (Query.select (← select fuel))
    | .updateWord => do pure (Query.update (← update fuel))
    | _ => refuse "SELECT or UPDATE FORM"
  if ← atKind .endOfInput then return query else refuse "end of input"

end Parser

/-- The query of a list of tokens. Every repetition takes a token, so twice their number bounds the steps. -/
def Query.ofTokens (tokens : List Token) : Except SyntaxError Query :=
  match tokens with
  | [] => .error ⟨.noTokens, 0⟩
  | token :: rest => ((Parser.statement (2 * tokens.length)).run ⟨token, rest⟩).map Prod.fst

inductive Reading where
  /-- There is no text to read. -/
  | refused (reason : String)
  | rejected (error : SyntaxError)
  | accepted (query : Query)

namespace Reading

def query? : Reading → Option Query
  | accepted query => some query
  | _ => none

def diagnostics : Reading → List Diagnostic
  | refused reason => [⟨.malformed, reason, 0⟩]
  | rejected error => [error.diagnostic]
  | accepted _ => []

def ofNothing : Reading := .refused "Query source must be a string"

end Reading

/-- Reads a text as a query. Blanks and semicolons at its end do not count. -/
def Query.read (source : String) : Reading :=
  let text := prepareInput source
  if (Text.trim text.toList).isEmpty then .refused "Query is empty"
  else
    match Query.ofTokens (tokenize text) with
    | .ok query => .accepted query
    | .error error => .rejected error

end FormQuery
