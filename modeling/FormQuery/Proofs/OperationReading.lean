import FormQuery.Proofs.ClauseReading
import FormQuery.Sql.Statement
import Mathlib.Data.List.Forall2

/-! Reading the new value of a generated UPDATE. Every part of it ends by itself, so a database reads the value that the
query has: the same functions under the names of the database, over the same fields and constants. -/

namespace FormQuery

open Sql

def Literal.constant (literal : Literal) : Constant :=
  match literal.value with
  | .decimal number => .number number
  | value => .text value.display

mutual
/-- What a well-formed value is meant as in a database: its columns are fields, and all of its functions are known. -/
def ValueExpr.operation (layout : Layout) : ValueExpr → Operation
  | .literal constant => .constant constant.constant
  | .field ref => .extraction layout.documentColumn ref.name
  | .call name arguments _ =>
    .call ((StringFunction.find? name).elim name functionName) (ValueExpr.operations layout arguments)
  | .foreign kind => .column kind

def ValueExpr.operations (layout : Layout) : List ValueExpr → List Operation
  | [] => []
  | argument :: rest => argument.operation layout :: ValueExpr.operations layout rest
end

def ValueExpr.stored (layout : Layout) : ValueExpr → Operation
  | .literal constant => .constant (.text constant.text)
  | expr => expr.operation layout

theorem ValueExpr.stored_eq {expr : ValueExpr} (computed : ∀ constant, expr = .literal constant → False)
    (layout : Layout) : expr.stored layout = expr.operation layout := by
  cases expr with
  | literal constant => exact absurd rfl (computed constant)
  | field | call | foreign => rfl

namespace Sql

namespace Operation

/-- The symbols are read as a value, whatever follows them. Twice their number bounds the steps. -/
structure Shows (symbols : List Symbol) (operation : Operation) : Prop where
  read : ∀ fuel rest, 2 * symbols.length ≤ fuel → Operation.read fuel (symbols ++ rest) = some (operation, rest)

/-- The symbols are those of some arguments with separators between them. -/
inductive Lists : List Symbol → List Operation → Prop
  | last {symbols : List Symbol} {operation : Operation} (shows : Shows symbols operation) : Lists symbols [operation]
  | more {symbols rest : List Symbol} {separator : Symbol} {operation : Operation} {others : List Operation}
      (shows : Shows symbols operation) (between : separator ∈ separators) (behind : Lists rest others) :
      Lists (symbols ++ separator :: rest) (operation :: others)

theorem Lists.read {symbols : List Symbol} {operations : List Operation} (lists : Lists symbols operations)
    {fuel : Nat} (enough : 2 * symbols.length + 1 ≤ fuel) (rest : List Symbol) :
    readArguments fuel (symbols ++ .sign ")" :: rest) = some (operations, rest) := by
  -- A call costs its arguments one step each, beside the steps that read them.
  induction lists generalizing fuel with
  | last shows =>
    obtain ⟨left, rfl⟩ : ∃ left, fuel = left + 1 := ⟨fuel - 1, by omega⟩
    simp [readArguments, shows.read left _ (by omega)]
  | @more symbols behind separator operation others shows between _ ih =>
    simp only [List.length_append, List.length_cons] at enough
    obtain ⟨left, rfl⟩ : ∃ left, fuel = left + 1 := ⟨fuel - 1, by omega⟩
    have first := shows.read left (separator :: (behind ++ .sign ")" :: rest)) (by omega)
    have open_call : separator ≠ .sign ")" := by
      intro same
      rw [same] at between
      exact absurd between (by decide)
    simp [readArguments, first, open_call, between, @ih left (by omega)]

theorem shows_of_step {symbol : Symbol} {more : List Symbol} {operation : Operation}
    (step : ∀ left rest, 2 * more.length + 1 ≤ left →
      Operation.read (left + 1) (symbol :: (more ++ rest)) = some (operation, rest)) :
    Shows (symbol :: more) operation := by
  refine ⟨fun fuel rest enough => ?_⟩
  rw [List.length_cons] at enough
  obtain ⟨left, rfl⟩ : ∃ left, fuel = left + 1 := ⟨fuel - 1, by omega⟩
  exact step left rest (by omega)

theorem shows_constant {symbol : Symbol} {value : Constant} (word : ∀ text, symbol ≠ .word text)
    (opens : symbol ≠ .sign "(") (holds : symbol.constant? = some value) : Shows [symbol] (.constant value) := by
  refine shows_of_step fun left rest _ => ?_
  rw [List.nil_append, Operation.read, holds, Option.map_some]
  -- None of the other forms begins with such a symbol.
  · exact opens
  · exact fun name _ same _ => word name same
  · exact fun name _ _ same _ => word name same
  · exact word

theorem shows_extraction (source key : String) :
    Shows [.word source, .sign "->>", .literal key] (.extraction source key) :=
  shows_of_step fun left rest _ => by simp [Operation.read]

theorem shows_group {symbols : List Symbol} {operation : Operation} (shows : Shows symbols operation) :
    Shows (.sign "(" :: (symbols ++ [.sign ")"])) operation := by
  refine shows_of_step fun left rest enough => ?_
  rw [List.length_append] at enough
  have inside := shows.read left (.sign ")" :: rest) (by omega)
  simp [Operation.read, inside, skip]

theorem shows_called {name : String} (known : name ∈ known) {symbols : List Symbol} {operations : List Operation}
    (lists : Lists symbols operations) :
    Shows (.word name :: .sign "(" :: (symbols ++ [.sign ")"])) (.call name operations) := by
  refine shows_of_step fun left rest enough => ?_
  simp only [List.length_cons, List.length_append] at enough
  have inside := @Lists.read _ _ lists left (by omega) rest
  simp [Operation.read, inside, known]

/-- Pieces of SQL that are read as operations, one after the other. -/
abbrev ShowsAll : List Sql → List Operation → Prop := List.Forall₂ fun part operation => Shows part.symbols operation

theorem lists_between {separator : String} {symbol : Symbol} (written : (Piece.code separator).symbols = [symbol])
    (between : symbol ∈ separators) {part rest : Sql} {operation : Operation} {others : List Operation}
    (shows : Shows part.symbols operation) (behind : Lists rest.symbols others) :
    Lists (symbols (part ++ .code separator :: rest)) (operation :: others) := by
  rw [symbols_append, symbols_cons, written]
  exact .more shows between behind

theorem lists_separated {part : Sql} {parts : List Sql} {operation : Operation} {operations : List Operation}
    (shows : Shows part.symbols operation) (others : ShowsAll parts operations) :
    Lists (separated ", " (part :: parts)).symbols (operation :: operations) := by
  induction others generalizing part operation with
  | nil => exact .last shows
  | cons next _ ih => exact lists_between rfl (by decide) shows (ih next)

theorem functionName_known (function : StringFunction) : functionName function ∈ known := by
  cases function <;> decide

theorem shows_opened {opening name : String} (written : (Piece.code opening).symbols = [.word name, .sign "("])
    (known : name ∈ known) {inner : Sql} {operations : List Operation} (lists : Lists inner.symbols operations) :
    Shows (symbols (.code opening :: (inner ++ [.code ")"]))) (.call name operations) := by
  have closing : symbols [.code ")"] = [.sign ")"] := rfl
  rw [symbols_cons, written, symbols_append, closing]
  exact shows_called known lists

theorem shows_call {function : StringFunction} {arguments : List Sql} {operations : List Operation} {sql : Sql}
    (each : ShowsAll arguments operations) (accepted : function.accepts arguments.length = true)
    (ran : Sql.call function arguments = .ok sql) : Shows sql.symbols (.call (functionName function) operations) := by
  have opening : (Piece.code "SUBSTRING(").symbols = [.word (functionName .substring), .sign "("] := rfl
  have onset : (Piece.code " FROM ").symbols = [.word "FROM"] := rfl
  unfold Sql.call at ran
  split at ran
  next text start size =>
    cases ran
    obtain _ | ⟨first, _ | ⟨second, _ | ⟨third, _ | _⟩⟩⟩ := each
    have extent : (Piece.code " FOR ").symbols = [.word "FOR"] := rfl
    have sized := lists_between extent (by decide) second (.last third)
    simpa using shows_opened opening (by decide) (lists_between onset (by decide) first sized)
  next text start rest unsized =>
    cases ran
    obtain rfl := eq_nil_of_substring accepted unsized
    obtain _ | ⟨first, _ | ⟨second, _ | _⟩⟩ := each
    simpa using shows_opened opening (by decide) (lists_between onset (by decide) first (.last second))
  next => cases ran
  next =>
    cases ran
    have written : (Piece.code (functionName function ++ "(")).symbols =
        [.word (functionName function), .sign "("] := by
      cases function <;> rfl
    cases each with
    | nil => cases function <;> cases accepted
    | cons first others => simpa using shows_opened written (functionName_known function) (lists_separated first others)

variable {layout : Layout}

theorem shows_ofLiteral {constant : Literal} (valid : constant.WellFormed) :
    Shows (ofLiteral constant).symbols (.constant constant.constant) := by
  rcases valid with quoted | numeric
  · have text := quoted.isNumber
    obtain ⟨content, value, _⟩ := quoted
    have meant : constant.constant = .text content := by simp [Literal.constant, value, Value.display]
    rw [symbols_quoted text value, meant]
    exact shows_constant (by simp) (by simp) rfl
  · have number := numeric.isNumber
    obtain ⟨raw, decimal, typed, _, read, value⟩ := numeric
    have meant : constant.constant = .number decimal := by simp [Literal.constant, value]
    rw [symbols_numeric number typed, meant]
    exact shows_constant (by simp) (by simp) (by simp [Symbol.constant?, read])

theorem symbols_group (sql : Sql) :
    symbols (.code "(" :: sql ++ [.code ")"]) = .sign "(" :: (sql.symbols ++ [.sign ")"]) := by
  rw [List.cons_append, symbols_cons, symbols_append]
  rfl

mutual
/-- The SQL of a value is read as the value, however deeply its calls are nested. -/
theorem shows_value {expr : ValueExpr} (valid : expr.WellFormed) {sql : Sql} (ran : value layout expr = .ok sql) :
    Shows sql.symbols (expr.operation layout) := by
  cases expr with
  | literal constant =>
    cases ran
    exact shows_ofLiteral (by simpa [ValueExpr.WellFormed] using valid)
  | field ref =>
    rw [ValueExpr.WellFormed] at valid
    obtain ⟨column, found, ran⟩ := ok_of_bind ran
    cases ran
    cases (plain_column ref valid).symm.trans found
    rw [symbols_group, symbols_extraction]
    exact shows_group (shows_extraction layout.documentColumn ref.name)
  | call callee arguments position =>
    rw [ValueExpr.WellFormed] at valid
    obtain ⟨⟨function, named, accepted⟩, valid⟩ := valid
    have found := StringFunction.find?_of_ofName? named
    rw [value, found] at ran
    obtain ⟨parts, computed, ran⟩ := ok_of_bind ran
    rw [ValueExpr.operation, found, Option.elim_some]
    exact shows_call (shows_values valid computed) (by rwa [length_values computed]) ran
  | foreign kind => cases ran

theorem shows_values {arguments : List ValueExpr} (valid : ValueExpr.AllWellFormed arguments) {parts : List Sql}
    (ran : values layout arguments = .ok parts) : ShowsAll parts (ValueExpr.operations layout arguments) := by
  cases arguments with
  | nil =>
    cases ran
    exact .nil
  | cons argument rest =>
    obtain ⟨first, found, ran⟩ := ok_of_bind ran
    obtain ⟨others, known, ran⟩ := ok_of_bind ran
    cases ran
    rw [ValueExpr.AllWellFormed] at valid
    exact .cons (shows_value valid.1 found) (shows_values valid.2 known)
end

/-- What an UPDATE assigns is read as the new value, with its cast to text. -/
theorem ofSymbols_newValue {expr : ValueExpr} (valid : expr.WellFormed) {sql : Sql}
    (ran : newValue layout expr = .ok sql) : ofSymbols sql.symbols = some (expr.stored layout) := by
  unfold newValue at ran
  split at ran
  next constant =>
    cases ran
    rfl
  next computed =>
    obtain ⟨shown, found, ran⟩ := ok_of_bind ran
    cases ran
    have written : symbols (.code "(" :: shown ++ [.code ")::text"]) =
        (.sign "(" :: (shown.symbols ++ [.sign ")"])) ++ [.sign "::", .word "text"] := by
      rw [List.cons_append, symbols_cons, symbols_append]
      simp only [List.append_assoc, List.cons_append]
      rfl
    have read := (shows_group (shows_value valid found)).read
    have enough (symbols rest : List Symbol) : 2 * symbols.length ≤ 2 * (symbols ++ rest).length := by
      rw [List.length_append]
      omega
    rw [written, ofSymbols, read _ _ (enough _ _), ValueExpr.stored_eq computed]
    simp

end Operation

end Sql

end FormQuery
