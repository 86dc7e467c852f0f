import FormQuery.StringFunction

/-! Tokens of query text: what each stands for, how it was typed, and where. -/

namespace FormQuery

inductive TokenKind where
  | selectWord
  | fromWord
  | whereWord
  | andWord
  | orWord
  | asWord
  | updateWord
  | setWord
  | formWord
  | fieldWord
  | aggregate
  | function
  | tableRef
  | columnRef
  | string
  | number
  | operator
  | comma
  | semicolon
  | leftParen
  | rightParen
  | star
  | unrecognized
  | endOfInput
  deriving DecidableEq, Inhabited

namespace TokenKind

def label : TokenKind → String
  | selectWord => "select"
  | fromWord => "from"
  | whereWord => "where"
  | andWord => "and"
  | orWord => "or"
  | asWord => "as"
  | updateWord => "update"
  | setWord => "set"
  | formWord => "form"
  | fieldWord => "field"
  | aggregate => "aggregate"
  | function => "function"
  | tableRef => "table_ref"
  | columnRef => "column_ref"
  | string => "string"
  | number => "number"
  | operator => "operator"
  | comma => "comma"
  | semicolon => "semicolon"
  | leftParen => "lparen"
  | rightParen => "rparen"
  | star => "star"
  | unrecognized => "unrecognized"
  | endOfInput => "eof"

def all : List TokenKind :=
  [selectWord, fromWord, whereWord, andWord, orWord, asWord, updateWord, setWord, formWord, fieldWord, aggregate,
   function, tableRef, columnRef, string, number, operator, comma, semicolon, leftParen, rightParen, star, unrecognized,
   endOfInput]

def ofLabel? (label : String) : Option TokenKind := all.find? (·.label = label)

theorem mem_all (kind : TokenKind) : kind ∈ all := by cases kind <;> simp [all]

end TokenKind

/-- A token. `text` is the input as typed; `value` is what it means: the content of a quoted span, a word in capitals,
and an unknown word as typed. The position counts characters of the input. -/
structure Token where
  kind : TokenKind
  text : String
  position : Nat
  value : String
  deriving DecidableEq, Inhabited

def isQuote (c : Char) : Bool := c = '\'' || c = '"'

def Token.isQuoted (token : Token) : Bool :=
  match token.text.toList with
  | c :: _ => isQuote c
  | [] => false

def Token.describe (token : Token) : String :=
  if token.kind = .endOfInput then "end of input" else s!"{token.kind.label} {Text.quoted token.text}"

end FormQuery
