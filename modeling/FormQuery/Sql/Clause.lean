import FormQuery.Sample.Cell
import FormQuery.Sample.Pattern
import FormQuery.Sql.Scan
import FormQuery.Token.Lexer

/-! The WHERE clause of SQL text as a database reads it: symbols, then conditions in which AND binds tighter than OR and
parentheses group. A clause has one of three truth values for a row, since a comparison with NULL is neither true nor
false. -/

namespace FormQuery.Sql

inductive Symbol where
  | word (text : String)
  | number (text : String)
  | sign (text : String)
  | literal (content : String)
  | label (content : String)
  deriving DecidableEq

def isOperatorChar (c : Char) : Bool := c ∈ "+-*/<>=~!@#%^&|?:".toList

def joins (first next : Char) : Bool :=
  if isWordStart first then isWordPart next || next = '.'
  else if Value.isAsciiDigit first then Value.isAsciiDigit next || next = '.'
  else isOperatorChar first && isOperatorChar next

def Symbol.written : List Char → List Symbol
  | [] => []
  | c :: rest =>
    if isWordStart c then [.word (String.ofList (c :: rest))]
    else if Value.isAsciiDigit c then [.number (String.ofList (c :: rest))]
    else [.sign (String.ofList (c :: rest))]

def continues (pending : List Char) (c : Char) : Bool :=
  match pending with
  | [] => false
  | first :: _ => joins first c

/-- The symbols of SQL text, each as long as can be; `pending` is the beginning of the one that is being read. -/
def symbolsFrom (pending : List Char) : List Mark → List Symbol
  | [] => Symbol.written pending
  | .literal content :: rest => Symbol.written pending ++ .literal content :: symbolsFrom [] rest
  | .label content :: rest => Symbol.written pending ++ .label content :: symbolsFrom [] rest
  | .plain c :: rest =>
    if continues pending c then symbolsFrom (pending ++ [c]) rest
    else Symbol.written pending ++ symbolsFrom (if c.isWhitespace then [] else [c]) rest

def Piece.symbols : Piece → List Symbol
  | .code text => symbolsFrom [] (text.toList.map .plain)
  | .name text => [.word text]
  | .number text => [.number text]
  | .literal content => [.literal content]
  | .label content => [.label content]

def symbols (sql : Sql) : List Symbol := sql.flatMap Piece.symbols

/-- What is compared: a column, a field of a document column as text, or such a field as a number, where its text shows
one. -/
inductive Operand where
  | column (name : String)
  | extraction (column key : String)
  | cast (column key : String)
  deriving DecidableEq

inductive Constant where
  | text (content : String)
  | number (value : Decimal)
  deriving DecidableEq

inductive Clause where
  | comparison (operand : Operand) (operator : Comparison) (constant : Constant)
  | and (left right : Clause)
  | or (left right : Clause)
  deriving DecidableEq

def skip (expected symbols : List Symbol) : Option (List Symbol) :=
  if expected.isPrefixOf symbols then some (symbols.drop expected.length) else none

def extraction? : List Symbol → Option ((String × String) × List Symbol)
  | .word column :: arrow :: .literal key :: rest => if arrow = .sign "->>" then some ((column, key), rest) else none
  | _ => none

/-- A cast of a field, guarded by a test of the very same field. -/
def cast? (symbols : List Symbol) : Option (Operand × List Symbol) := do
  let rest ← skip [.word "CASE", .word "WHEN", .sign "("] symbols
  let (tested, rest) ← extraction? rest
  let rest ← skip [.sign ")", .sign "~", .literal numericTextPattern, .word "THEN", .sign "("] rest
  let (shown, rest) ← extraction? rest
  let rest ← skip [.sign ")", .sign "::", .word "numeric", .word "END"] rest
  if shown = tested then some (.cast shown.1 shown.2, rest) else none

def operand? (symbols : List Symbol) : Option (Operand × List Symbol) :=
  match cast? symbols, extraction? symbols, symbols with
  | some found, _, _ => some found
  | none, some ((column, key), rest), _ => some (.extraction column key, rest)
  | none, none, .word column :: rest => some (.column column, rest)
  | none, none, _ => none

def Symbol.comparison? : Symbol → Option Comparison
  | .sign text | .word text => Comparison.known.find? (·.symbol = text)
  | _ => none

def Symbol.constant? : Symbol → Option Constant
  | .literal content => some (.text content)
  | .number text => (Decimal.ofText? text).map .number
  | _ => none

def comparison? (symbols : List Symbol) : Option (Clause × List Symbol) :=
  match operand? symbols with
  | some (operand, operator :: constant :: rest) => do
    return (.comparison operand (← operator.comparison?) (← constant.constant?), rest)
  | _ => none

mutual
def disjunction : Nat → List Symbol → Option (Clause × List Symbol)
  | 0, _ => none
  | left + 1, symbols => do
    let (clause, rest) ← conjunction left symbols
    match rest with
    | .word "OR" :: rest => do
      let (other, rest) ← disjunction left rest
      return (.or clause other, rest)
    | rest => return (clause, rest)

def conjunction : Nat → List Symbol → Option (Clause × List Symbol)
  | 0, _ => none
  | left + 1, symbols => do
    let (clause, rest) ← term left symbols
    match rest with
    | .word "AND" :: rest => do
      let (other, rest) ← conjunction left rest
      return (.and clause other, rest)
    | rest => return (clause, rest)

def term : Nat → List Symbol → Option (Clause × List Symbol)
  | 0, _ => none
  | left + 1, symbols =>
    match symbols with
    | .sign "(" :: rest => do
      let (clause, rest) ← disjunction left rest
      match rest with
      | .sign ")" :: rest => return (clause, rest)
      | _ => none
    | symbols => comparison? symbols
end

def afterWhere : List Symbol → Option (List Symbol)
  | [] => none
  | symbol :: rest =>
    match rest with
    | .word _ :: following :: clause =>
      if symbol = .word "FROM" ∧ following = .word "WHERE" then some clause else afterWhere rest
    | _ => afterWhere rest

namespace Clause

def ofSymbols (symbols : List Symbol) : Option Clause := do
  let clause ← afterWhere symbols
  match disjunction (3 * clause.length + 3) clause with
  | some (found, []) => some found
  | _ => none

def ofText (text : String) : Option Clause := do ofSymbols (symbolsFrom [] (← scan text))

end Clause

/-- A truth value of SQL; a condition over NULL has none of the two. -/
abbrev Truth := Option Bool

namespace Truth

def and : Truth → Truth → Truth
  | some false, _ => some false
  | _, some false => some false
  | some true, some true => some true
  | _, _ => none

def or : Truth → Truth → Truth
  | some true, _ => some true
  | _, some true => some true
  | some false, some false => some false
  | _, _ => none

end Truth

/-- What a comparison says of two values in an order; a pattern compares no order. -/
def verdict : Comparison → Ordering → Truth
  | .equal, order => some (order == .eq)
  | .notEqual, order | .lessGreater, order => some (order != .eq)
  | .less, order => some (order == .lt)
  | .greater, order => some (order == .gt)
  | .atMost, order => some (order == .lt || order == .eq)
  | .atLeast, order => some (order == .gt || order == .eq)
  | .like, _ | .ilike, _ | .other _, _ => none

def compareTexts (operator : Comparison) (left right : String) : Truth :=
  match operator with
  | .like => some (Pattern.like right left)
  | .ilike => some (Pattern.ilike right left)
  | operator => verdict operator (compare left right)

def compareNumbers (operator : Comparison) (left right : Decimal) : Truth :=
  (left.compare? right).bind (verdict operator)

/-- The text of a field of a document; nothing for a missing field, a JSON null, or a document without fields. -/
def fieldText (document : Value) (key : String) : Option String :=
  match document with
  | .record fields =>
    match ((Fields.get? fields key).getD .null).documentText with
    | .ok text => text
    | .error _ => none
  | _ => none

abbrev Record := Fields

def columnText (record : Record) (name : String) : Option String :=
  match Fields.get? record name with
  | some cell => if cell.isMissing then none else some cell.display
  | none => none

def extracted (record : Record) (column key : String) : Option String :=
  (Fields.get? record column).bind (fieldText · key)

/-- The truth of a comparison for a row. The number of a text is the one that it shows, if it shows one. A number and a
text do not compare. -/
def Operand.compare (record : Record) : Operand → Comparison → Constant → Truth
  | .column name, operator, .text content => (columnText record name).bind (compareTexts operator · content)
  | .extraction source key, operator, .text content =>
    (extracted record source key).bind (compareTexts operator · content)
  | .cast source key, operator, .number value =>
    (extracted record source key).bind fun text => (Value.text text).number?.bind (compareNumbers operator · value)
  | _, _, _ => none

def Clause.truth (record : Record) : Clause → Truth
  | .comparison operand operator constant => operand.compare record operator constant
  | .and left right => Truth.and (left.truth record) (right.truth record)
  | .or left right => Truth.or (left.truth record) (right.truth record)

/-- Whether a row is selected: the clause is true for it, and not merely unknown. -/
def Clause.selects (clause : Clause) (record : Record) : Bool := clause.truth record == some true

end FormQuery.Sql
