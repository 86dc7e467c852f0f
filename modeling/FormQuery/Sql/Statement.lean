import FormQuery.Sql.Clause

/-! Statements as a database reads them in their text: the change that an UPDATE makes to a document, the names of the
result columns of a SELECT, and the new value of a field, with the records for which it is NULL. -/

namespace FormQuery.Sql

def symbolsOf? (text : String) : Option (List Symbol) := (scan text).map (symbolsFrom [])

/-- What stands between the commas of a call, and what follows its closing parenthesis. Inside of further parentheses
commas separate something else; `depth` counts these, and `argument` is what was read of the argument so far. -/
def argumentsFrom (depth : Nat) (argument : List Symbol) : List Symbol → Option (List (List Symbol) × List Symbol)
  | [] => none
  | symbol :: rest =>
    if symbol = .sign ")" then
      match depth with
      | 0 => some ([argument], rest)
      | depth + 1 => argumentsFrom depth (argument ++ [symbol]) rest
    else if symbol = .sign "(" then argumentsFrom (depth + 1) (argument ++ [symbol]) rest
    else if symbol = .sign "," ∧ depth = 0 then do
      let (others, rest) ← argumentsFrom 0 [] rest
      return (argument :: others, rest)
    else argumentsFrom depth (argument ++ [symbol]) rest

def callsOf (function : String) : List Symbol → Nat
  | [] => 0
  | symbol :: rest =>
    (if symbol = .word function ∧ rest.head? = some (.sign "(") then 1 else 0) + callsOf function rest

structure Change where
  table : String
  column : String
  key : String
  /-- The symbols of the new value. -/
  value : List Symbol
  clause : Clause
  deriving DecidableEq

namespace Change

def word? : List Symbol → Option (String × List Symbol)
  | .word text :: rest => some (text, rest)
  | _ => none

/-- An UPDATE that merges an object of one pair into a column, and ends with its WHERE clause. -/
def ofSymbols (symbols : List Symbol) : Option Change := do
  let (table, rest) ← word? (← skip [.word "UPDATE"] symbols)
  let (column, rest) ← word? (← skip [.word "SET"] rest)
  let rest ← skip [.sign "=", .word "COALESCE", .sign "(", .word column, .sign ",", .literal "\x7b\x7d", .sign "::",
    .word "jsonb", .sign ")", .sign "||", .word "jsonb_build_object", .sign "("] rest
  let (object, rest) ← argumentsFrom 0 [] rest
  let clause ← skip [.word "WHERE"] rest
  match object, disjunction (3 * clause.length + 3) clause with
  | [[.literal key], value], some (rows, []) => some ⟨table, column, key, value, rows⟩
  | _, _ => none

def ofText (text : String) : Option Change := do ofSymbols (← symbolsOf? text)

end Change

/-- The result columns, up to the word FROM. Commas inside of parentheses separate something else, and a column may have
the name FROM; `depth` counts open parentheses, and `column` is what was read of the column so far. -/
def columnsFrom (depth : Nat) (column : List Symbol) : List Symbol → Option (List (List Symbol))
  | [] => none
  | symbol :: rest =>
    if symbol = .sign "(" then columnsFrom (depth + 1) (column ++ [symbol]) rest
    else if symbol = .sign ")" then columnsFrom (depth - 1) (column ++ [symbol]) rest
    else if depth = 0 ∧ symbol = .sign "," then (columnsFrom 0 [] rest).map (column :: ·)
    else if depth = 0 ∧ symbol = .word "FROM" ∧ column ≠ [] then some [column]
    else columnsFrom depth (column ++ [symbol]) rest

def columnName? (column : List Symbol) : Option String :=
  match column.reverse with
  | [.word name] => some name
  | .label name :: before :: _ => if before = .word "AS" then some name else none
  | _ => none

def columnNames? (symbols : List Symbol) : Option (List String) := do
  let columns ← columnsFrom 0 [] (← skip [.word "SELECT"] symbols)
  columns.mapM columnName?

def columnNamesOfText? (text : String) : Option (List String) := do columnNames? (← symbolsOf? text)

inductive Operation where
  | constant (value : Constant)
  | column (name : String)
  | extraction (column key : String)
  | call (function : String) (arguments : List Operation)

namespace Operation

/-- Functions that are NULL when one of their arguments is. -/
def strict : List String := ["LEFT", "RIGHT", "UPPER", "LOWER", "BTRIM", "CHAR_LENGTH", "SUBSTRING", "REPLACE"]

def known : List String := "CONCAT" :: strict

def isCall : Operation → Bool
  | call .. => true
  | _ => false

def separators : List Symbol := [.sign ",", .word "FROM", .word "FOR"]

mutual
def read : Nat → List Symbol → Option (Operation × List Symbol)
  | 0, _ => none
  | left + 1, symbols =>
    match symbols with
    | .sign "(" :: rest => do
      let (operation, rest) ← read left rest
      return (operation, ← skip [.sign ")"] rest)
    | .word name :: .sign "(" :: rest => do
      let (arguments, rest) ← readArguments left rest
      if name ∈ known then some (.call name arguments, rest) else none
    | .word source :: .sign "->>" :: .literal key :: rest => some (.extraction source key, rest)
    | .word name :: rest => some (.column name, rest)
    | symbol :: rest => symbol.constant?.map fun value => (.constant value, rest)
    | [] => none

def readArguments : Nat → List Symbol → Option (List Operation × List Symbol)
  | 0, _ => none
  | left + 1, symbols => do
    let (first, rest) ← read left symbols
    match rest with
    | [] => none
    | symbol :: rest =>
      if symbol = .sign ")" then return ([first], rest)
      else if symbol ∈ separators then do
        let (others, rest) ← readArguments left rest
        return (first :: others, rest)
      else none
end

def ofSymbols (symbols : List Symbol) : Option Operation := do
  let (operation, rest) ← read (2 * symbols.length) symbols
  if rest = [] ∨ rest = [.sign "::", .word "text"] then return operation else none

mutual
def isNull (record : Record) : Operation → Bool
  | constant _ => false
  | column name => ((Fields.get? record name).getD .null).isNull
  | extraction source key => (extracted record source key).isNone
  | call function arguments => decide (function ∈ strict) && someNull record arguments

def someNull (record : Record) : List Operation → Bool
  | [] => false
  | argument :: rest => argument.isNull record || someNull record rest
end

end Operation

end FormQuery.Sql
