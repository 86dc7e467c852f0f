import FormQuery.Proofs.BackendCalls
import FormQuery.Proofs.ClauseReading
import FormQuery.Proofs.DocumentKeys
import FormQuery.Proofs.FilterAgreement
import FormQuery.Proofs.RoundTrip
import FormQuery.Sql.Statement

/-! The two ways in which an UPDATE runs. What a database reads in the generated statement, and what the engine asks its
backend for where SQL cannot run, are the same submission, the same field and, for a literal, the same text. -/

namespace FormQuery

namespace Sql

open Piece

/-- Symbols in which parentheses pair up, and in which a function is not called. -/
inductive Nested (function : String) : List Symbol → Prop
  | nil : Nested function []
  | atom {symbol : Symbol} (opens : symbol ≠ .sign "(") (closes : symbol ≠ .sign ")") : Nested function [symbol]
  | joined {left right : List Symbol} {symbol : Symbol} (before : Nested function left) (opens : symbol ≠ .sign "(")
      (closes : symbol ≠ .sign ")") (other : symbol ≠ .word function) (behind : Nested function right) :
      Nested function (left ++ symbol :: right)
  | group {inner : List Symbol} (inside : Nested function inner) :
      Nested function (.sign "(" :: (inner ++ [.sign ")"]))
  | call {callee : String} {inner : List Symbol} (other : callee ≠ function) (inside : Nested function inner) :
      Nested function (.word callee :: .sign "(" :: (inner ++ [.sign ")"]))

variable {function : String}

theorem Nested.cons {symbol : Symbol} {symbols : List Symbol} (opens : symbol ≠ .sign "(") (closes : symbol ≠ .sign ")")
    (other : symbol ≠ .word function) (behind : Nested function symbols) : Nested function (symbol :: symbols) :=
  .joined .nil opens closes other behind

section Arguments

variable {depth : Nat} {argument rest : List Symbol}

theorem argumentsFrom_open :
    argumentsFrom depth argument (.sign "(" :: rest) = argumentsFrom (depth + 1) (argument ++ [.sign "("]) rest := by
  simp [argumentsFrom]

theorem argumentsFrom_close :
    argumentsFrom (depth + 1) argument (.sign ")" :: rest) = argumentsFrom depth (argument ++ [.sign ")"]) rest := by
  simp [argumentsFrom]

theorem argumentsFrom_inside {symbol : Symbol} (opens : symbol ≠ .sign "(") (closes : symbol ≠ .sign ")") :
    argumentsFrom (depth + 1) argument (symbol :: rest) = argumentsFrom (depth + 1) (argument ++ [symbol]) rest := by
  simp [argumentsFrom, opens, closes]

/-- Inside of parentheses everything nested belongs to the argument that is being read, commas included. -/
theorem Nested.argumentsFrom {symbols : List Symbol} (nested : Nested function symbols) :
    Sql.argumentsFrom (depth + 1) argument (symbols ++ rest) =
      Sql.argumentsFrom (depth + 1) (argument ++ symbols) rest := by
  induction nested generalizing depth argument rest with
  | nil => simp
  | atom opens closes => exact argumentsFrom_inside opens closes
  | joined before opens closes other behind first second =>
    rw [List.append_assoc, first, List.cons_append, argumentsFrom_inside opens closes, second]
    simp
  | group inside ih =>
    rw [List.cons_append, argumentsFrom_open, List.append_assoc, ih, List.singleton_append, argumentsFrom_close]
    simp
  | @call callee inner other inside ih =>
    rw [List.cons_append, argumentsFrom_inside (by simp) (by simp), List.cons_append, argumentsFrom_open,
      List.append_assoc inner, ih, List.singleton_append, argumentsFrom_close]
    simp

end Arguments

theorem callsOf_cons {symbol : Symbol} (other : symbol ≠ .word function) (rest : List Symbol) :
    callsOf function (symbol :: rest) = callsOf function rest := by
  simp [callsOf, other]

theorem callsOf_uncalled {symbol : Symbol} {rest : List Symbol} (uncalled : rest.head? ≠ some (.sign "(")) :
    callsOf function (symbol :: rest) = callsOf function rest := by
  simp [callsOf, uncalled]

/-- Nested symbols call nothing, unless a parenthesis follows them. -/
theorem Nested.callsOf {symbols rest : List Symbol} (nested : Nested function symbols)
    (behind : rest.head? ≠ some (.sign "(")) :
    Sql.callsOf function (symbols ++ rest) = Sql.callsOf function rest := by
  induction nested generalizing rest with
  | nil => rfl
  | atom opens closes => exact callsOf_uncalled behind
  | joined before opens closes other more first second =>
    rw [List.append_assoc, List.cons_append, first (by simpa using opens), callsOf_cons other, second behind]
  | group inside ih =>
    rw [List.cons_append, callsOf_cons (by simp), List.append_assoc, ih (by simp), List.singleton_append,
      callsOf_cons (by simp)]
  | call other inside ih =>
    rw [List.cons_append, callsOf_cons (by simpa using other), List.cons_append, callsOf_cons (by simp),
      List.append_assoc, ih (by simp), List.singleton_append, callsOf_cons (by simp)]

def shown (sql : Sql) : List Symbol := symbolsFrom [] sql.marks

theorem shown_code {text : String} (leads : Leads text) (rest : Sql) :
    shown (code text :: rest) = shown [code text] ++ shown rest := by
  rw [shown, shown, shown, marks_cons, marks_singleton, symbolsFrom_append_closes (closes_marks leads.2)]

theorem shown_concat {text : String} (follows : Follows text) (sql rest : Sql) :
    shown (sql ++ code text :: rest) = shown sql ++ shown (code text :: rest) := by
  rw [shown, shown, shown, marks_append, marks_cons,
    symbolsFrom_append_opens (opens_marks follows.1 follows.2)]

theorem shown_between {text : String} (separates : Separates text) (sql rest : Sql) :
    shown (sql ++ code text :: rest) = shown sql ++ (shown [code text] ++ shown rest) := by
  rw [shown_concat separates.1, shown_code separates.2]

theorem shown_literal (content : String) (rest : Sql) : shown (literal content :: rest) = .literal content :: shown rest := by
  simp [shown, marks_cons, Piece.marks]

theorem shown_name {layout : Layout} (plain : layout.IsPlain) {text : String} (known : text ∈ layout.names) :
    shown [name text] = [.word text] := by
  have whole := isWhole_name (plain text known).1 (plain text known).2
  rw [shown, marks_singleton, Piece.symbols_of_isWhole whole, Piece.symbols]

/-- A character that starts no word and is no parenthesis. -/
def IsDull (c : Char) : Prop := isWordStart c = false ∧ c ≠ '(' ∧ c ≠ ')'

theorem nested_written {text : List Char} (dull : ∀ c ∈ text, IsDull c) {symbols : List Symbol}
    (behind : Nested function symbols) : Nested function (Symbol.written text ++ symbols) := by
  cases text with
  | nil => exact behind
  | cons c rest =>
    obtain ⟨start, opens, closes⟩ := dull c List.mem_cons_self
    -- A sign is no parenthesis because of its first character.
    have other {sign : String} (apart : sign.toList.head? ≠ some c) :
        Symbol.sign (String.ofList (c :: rest)) ≠ .sign sign := by
      intro same
      apply apart
      rw [← Symbol.sign.inj same, String.toList_ofList, List.head?_cons]
    rw [Symbol.written, start, if_neg Bool.false_ne_true]
    split
    · exact behind.cons (by simp) (by simp) (by simp)
    · exact behind.cons (other (by simpa using opens.symm)) (other (by simpa using closes.symm)) (by simp)

theorem nested_symbolsFrom {text pending : List Char} (dull : ∀ c ∈ pending ++ text, IsDull c) :
    Nested function (symbolsFrom pending (text.map .plain)) := by
  induction text generalizing pending with
  | nil =>
    rw [List.append_nil] at dull
    have last : Nested function (Symbol.written pending ++ []) := nested_written dull .nil
    simpa using last
  | cons c text ih =>
    obtain ⟨before, own, rest⟩ : (∀ c ∈ pending, IsDull c) ∧ IsDull c ∧ ∀ c ∈ text, IsDull c := by
      simpa [or_imp, forall_and] using dull
    rw [List.map_cons, symbolsFrom_plain]
    split
    · exact ih (by simpa using dull)
    · apply nested_written before
      apply ih
      split
      · exact rest
      · exact List.forall_mem_cons.mpr ⟨own, rest⟩

theorem nested_number {literal : Literal} (numeric : literal.Numeric) :
    Nested function (shown [number literal.text]) := by
  rw [shown, marks_singleton, Piece.marks]
  apply nested_symbolsFrom
  intro c member
  have known : 46 ≤ c.toNat ∧ (c.toNat < 65 ∨ 122 < c.toNat) := by
    obtain digit | rfl := numeric.text_eq.digit_or_point member
    · have := code_of_isDigit digit
      omega
    · decide
  have other {sign : Char} (low : sign.toNat < 46) : c ≠ sign := by
    intro same
    rw [same] at known
    omega
  refine ⟨?_, other (by decide), other (by decide)⟩
  rw [← Bool.not_eq_true]
  intro start
  have := code_of_isWordStart start
  omega

variable {layout : Layout}

theorem nested_column (plain : layout.IsPlain) {ref : ColumnRef} {sql : Sql} (ran : column ref layout = .ok sql) :
    Nested function (shown sql) := by
  unfold column at ran
  split at ran
  · obtain ⟨physical, found, ran⟩ := ok_of_bind ran
    cases ran
    rw [shown_name plain (Layout.physical_mem_names found)]
    exact .atom (by simp) (by simp)
  · cases ran
    have document : layout.documentColumn ∈ layout.names := by simp [Layout.names]
    have parts : shown (extraction ref.name layout) =
        [.word layout.documentColumn] ++ .sign "->>" :: [.literal ref.name] := by
      have between := shown_between (by decide : Separates " ->> ") [name layout.documentColumn] [literal ref.name]
      rw [shown_name plain document, shown_literal] at between
      exact between
    rw [parts]
    exact .joined (.atom (by simp) (by simp)) (by simp) (by simp) (by simp) (.atom (by simp) (by simp))

theorem nested_ofLiteral {value : Literal} (valid : value.WellFormed) : Nested function (shown (ofLiteral value)) := by
  unfold ofLiteral
  split
  next shown => exact nested_number (valid.numeric shown)
  next =>
    rw [shown_literal]
    exact .atom (by simp) (by simp)

theorem nested_between {text : String} (separates : Separates text) {symbol : Symbol} (read : shown [code text] = [symbol])
    (opens : symbol ≠ .sign "(") (closes : symbol ≠ .sign ")") (other : symbol ≠ .word function) {first second : Sql}
    (left : Nested function (shown first)) (right : Nested function (shown second)) :
    Nested function (shown (first ++ code text :: second)) := by
  rw [shown_between separates, read]
  exact .joined left opens closes other right

theorem nested_separated {parts : List Sql} (each : ∀ part ∈ parts, Nested function (shown part)) :
    Nested function (shown (separated ", " parts)) := by
  induction parts with
  | nil => exact .nil
  | cons part rest ih =>
    obtain ⟨own, others⟩ := List.forall_mem_cons.mp each
    cases rest with
    | nil => exact own
    | cons next rest =>
      have comma : shown [code ", "] = [.sign ","] := rfl
      exact nested_between (by decide) comma (by simp) (by simp) (by simp) own (ih others)

theorem nested_called {text callee : String} (leads : Leads text) (read : shown [code text] = [.word callee, .sign "("])
    (other : callee ≠ function) {inner : Sql} (inside : Nested function (shown inner)) :
    Nested function (shown (code text :: (inner ++ [code ")"]))) := by
  rw [shown_code leads, read, shown_concat (by decide)]
  exact .call other inside

/-- The functions that values are computed with are all named in capitals. -/
theorem nested_call {callee : StringFunction} {arguments : List Sql} {sql : Sql}
    (each : ∀ argument ∈ arguments, Nested "jsonb_build_object" (shown argument))
    (ran : call callee arguments = .ok sql) : Nested "jsonb_build_object" (shown sql) := by
  have opens : shown [code "SUBSTRING("] = [.word "SUBSTRING", .sign "("] := rfl
  have onset : shown [code " FROM "] = [.word "FROM"] := rfl
  have extent : shown [code " FOR "] = [.word "FOR"] := rfl
  unfold call at ran
  split at ran
  next text start size =>
    cases ran
    simp only [List.forall_mem_cons] at each
    obtain ⟨first, second, third, _⟩ := each
    have two := nested_between (by decide) onset (by simp) (by simp) (by simp) first second
    have three := nested_between (by decide) extent (by simp) (by simp) (by simp) two third
    simpa using nested_called (by decide) opens (by decide) three
  next text start rest unsized =>
    cases ran
    simp only [List.forall_mem_cons] at each
    obtain ⟨first, second, _⟩ := each
    have two := nested_between (by decide) onset (by simp) (by simp) (by simp) first second
    simpa using nested_called (by decide) opens (by decide) two
  next => cases ran
  next =>
    cases ran
    have named : Leads (functionName callee ++ "(") ∧
        shown [code (functionName callee ++ "(")] = [.word (functionName callee), .sign "("] ∧
          functionName callee ≠ "jsonb_build_object" := by
      cases callee <;> decide
    simpa using nested_called named.1 named.2.1 named.2.2 (nested_separated each)

mutual
theorem nested_value (plain : layout.IsPlain) {expr : ValueExpr} (valid : expr.WellFormed) {sql : Sql}
    (ran : value layout expr = .ok sql) : Nested "jsonb_build_object" (shown sql) := by
  cases expr with
  | literal constant =>
    cases ran
    exact nested_ofLiteral (by simpa [ValueExpr.WellFormed] using valid)
  | field ref =>
    obtain ⟨column, found, ran⟩ := ok_of_bind ran
    cases ran
    rw [List.cons_append, shown_code (by decide), shown_concat (by decide)]
    exact .group (nested_column plain found)
  | call callee arguments position =>
    rw [value] at ran
    rw [ValueExpr.WellFormed] at valid
    split at ran
    · obtain ⟨parts, found, ran⟩ := ok_of_bind ran
      exact nested_call (nested_values plain valid.2 found) ran
    · cases ran
  | foreign kind => cases ran

theorem nested_values (plain : layout.IsPlain) {arguments : List ValueExpr} (valid : ValueExpr.AllWellFormed arguments)
    {parts : List Sql} (ran : values layout arguments = .ok parts) :
    ∀ sql ∈ parts, Nested "jsonb_build_object" (shown sql) := by
  cases arguments with
  | nil =>
    cases ran
    exact nofun
  | cons argument rest =>
    obtain ⟨first, found, ran⟩ := ok_of_bind ran
    obtain ⟨others, known, ran⟩ := ok_of_bind ran
    cases ran
    rw [ValueExpr.AllWellFormed] at valid
    exact List.forall_mem_cons.mpr ⟨nested_value plain valid.1 found, nested_values plain valid.2 known⟩
end

/-- Symbols that are read as one argument, as the last one of a call, and in which a function is not called. -/
structure IsArgument (function : String) (symbols : List Symbol) : Prop where
  last : ∀ rest, argumentsFrom 0 [] (symbols ++ .sign ")" :: rest) = some ([symbols], rest)
  uncalled : ∀ rest, callsOf function (symbols ++ .sign ")" :: rest) = callsOf function rest

theorem isArgument_newValue (plain : layout.IsPlain) {expr : ValueExpr} (valid : expr.WellFormed) {sql : Sql}
    (ran : newValue layout expr = .ok sql) : IsArgument "jsonb_build_object" (shown sql) := by
  unfold newValue at ran
  split at ran
  next constant =>
    cases ran
    rw [shown_literal]
    constructor
    · intro rest
      simp [argumentsFrom, shown, marks]
    · intro rest
      simp [callsOf, shown, marks]
  next =>
    obtain ⟨computed, found, ran⟩ := ok_of_bind ran
    cases ran
    have nested := nested_value plain valid found
    have symbols : shown (code "(" :: computed ++ [code ")::text"]) =
        .sign "(" :: (shown computed ++ [.sign ")", .sign "::", .word "text"]) := by
      rw [List.cons_append, shown_code (by decide), shown_concat (by decide)]
      rfl
    rw [symbols]
    constructor
    · intro rest
      rw [List.cons_append, argumentsFrom_open, List.append_assoc, nested.argumentsFrom]
      simp [argumentsFrom]
    · intro rest
      rw [List.cons_append, callsOf_cons (by simp), List.append_assoc, nested.callsOf (by simp)]
      simp [callsOf]

theorem skip_nil (symbols : List Symbol) : skip [] symbols = some symbols := by simp [skip]

theorem skip_cons (symbol : Symbol) (expected symbols : List Symbol) :
    skip (symbol :: expected) (symbol :: symbols) = skip expected symbols := by
  simp [skip]

theorem shown_name_code (plain : layout.IsPlain) {column text : String} (known : column ∈ layout.names)
    (follows : Follows text) (rest : Sql) : shown (name column :: code text :: rest) = .word column :: shown (code text :: rest) := by
  have parts := shown_concat follows [name column] rest
  rwa [shown_name plain known] at parts

def rowSymbols (layout : Layout) (row form rowId : String) : List Symbol :=
  [.word layout.partitionColumn, .sign "=", .literal form, .word "AND", .word row, .sign "=", .literal rowId]

def rowClause (layout : Layout) (row form rowId : String) : Clause :=
  .and (.comparison (.column layout.partitionColumn) .equal (.text form))
    (.comparison (.column row) .equal (.text rowId))

theorem disjunction_rowSymbols (layout : Layout) (row form rowId : String) :
    disjunction (3 * (rowSymbols layout row form rowId).length + 3) (rowSymbols layout row form rowId) =
      some (rowClause layout row form rowId, []) := by
  have first := (reads_column layout.partitionColumn form).term 22 [.word "AND", .word row, .sign "=", .literal rowId]
    (show 3 ≤ 22 by omega)
  have second := (reads_column row rowId).term 21 [] (show 3 ≤ 21 by omega)
  exact disjunction_last (conjunction_and first (conjunction_last second (by simp))) (by simp)

def assignmentSymbols (layout : Layout) (key : String) : List Symbol :=
  [.word "UPDATE", .word layout.table, .word "SET", .word layout.documentColumn, .sign "=", .word "COALESCE", .sign "(",
    .word layout.documentColumn, .sign ",", .literal "\x7b\x7d", .sign "::", .word "jsonb", .sign ")", .sign "||",
    .word "jsonb_build_object", .sign "(", .literal key, .sign ","]

theorem shown_update (plain : layout.IsPlain) (change : Update) {row : String} (known : row ∈ layout.names)
    (assigned : Sql) : shown (assignment layout change.target assigned ++ code ") WHERE " ::
        (partition change.table.name layout ++ code " AND " :: [name row, code " = ", literal change.rowId.text])) =
      assignmentSymbols layout change.target.name ++
        (shown assigned ++ .sign ")" :: .word "WHERE" :: rowSymbols layout row change.table.name change.rowId.text) := by
  have table : layout.table ∈ layout.names := by simp [Layout.names]
  have document : layout.documentColumn ∈ layout.names := by simp [Layout.names]
  have form : layout.partitionColumn ∈ layout.names := by simp [Layout.names]
  have rows : shown (partition change.table.name layout ++ code " AND " ::
      [name row, code " = ", literal change.rowId.text]) =
        rowSymbols layout row change.table.name change.rowId.text := by
    have equal : shown [code " = "] = [.sign "="] := rfl
    have both : shown [code " AND "] = [.word "AND"] := rfl
    simp only [partition, List.cons_append, List.nil_append]
    rw [shown_name_code plain form (by decide), shown_code (by decide), equal, List.singleton_append, shown_literal,
      shown_code (by decide), both, List.singleton_append, shown_name_code plain known (by decide),
      shown_code (by decide), equal, List.singleton_append, shown_literal]
    rfl
  have update : shown [code "UPDATE "] = [.word "UPDATE"] := rfl
  have set : shown [code " SET "] = [.word "SET"] := rfl
  have coalesce : shown [code " = COALESCE("] = [.sign "=", .word "COALESCE", .sign "("] := rfl
  have comma : shown [code ", "] = [.sign ","] := rfl
  have object : shown [code "::jsonb) || jsonb_build_object("] =
      [.sign "::", .word "jsonb", .sign ")", .sign "||", .word "jsonb_build_object", .sign "("] := rfl
  have ends : shown [code ") WHERE "] = [.sign ")", .word "WHERE"] := rfl
  rw [shown_between (by decide), ends, rows]
  simp only [assignment, List.cons_append, List.nil_append]
  rw [shown_code (by decide), update, shown_name_code plain table (by decide), shown_code (by decide), set,
    shown_name_code plain document (by decide), shown_code (by decide), coalesce,
    shown_name_code plain document (by decide), shown_code (by decide), comma, shown_literal, shown_code (by decide),
    object, shown_literal, shown_code (by decide), comma]
  rfl

theorem ofSymbols_update (layout : Layout) (key row form rowId : String) {value : List Symbol}
    (argument : IsArgument "jsonb_build_object" value) :
    Change.ofSymbols (assignmentSymbols layout key ++
        (value ++ .sign ")" :: .word "WHERE" :: rowSymbols layout row form rowId)) =
      some ⟨layout.table, layout.documentColumn, key, value, rowClause layout row form rowId⟩ := by
  have object : argumentsFrom 0 [] (.literal key :: .sign "," ::
      (value ++ .sign ")" :: .word "WHERE" :: rowSymbols layout row form rowId)) =
        some ([[.literal key], value], .word "WHERE" :: rowSymbols layout row form rowId) := by
    simp [argumentsFrom, argument.last]
  simp only [Change.ofSymbols, assignmentSymbols, List.cons_append, List.nil_append, skip_cons, skip_nil, Change.word?,
    object, disjunction_rowSymbols, Option.bind_eq_bind, Option.bind_some]

theorem callsOf_update (layout : Layout) (key row form rowId : String) {value : List Symbol}
    (argument : IsArgument "jsonb_build_object" value) :
    callsOf "jsonb_build_object" (assignmentSymbols layout key ++
      (value ++ .sign ")" :: .word "WHERE" :: rowSymbols layout row form rowId)) = 1 := by
  have rest : callsOf "jsonb_build_object" (rowSymbols layout row form rowId) = 0 := by
    simp [rowSymbols, callsOf]
  simp [assignmentSymbols, callsOf, argument.uncalled, rest]

/-- What is read in the text of an UPDATE. -/
theorem ofText_update (plain : layout.IsPlain) {change : Update} (valid : change.WellFormed) {sql : Sql}
    (ran : update layout change = .ok sql) :
    ∃ row assigned, layout.rowIdColumn = .ok row ∧ newValue layout change.value = .ok assigned ∧
      Change.ofText sql.text = some ⟨layout.table, layout.documentColumn, change.target.name, shown assigned,
        rowClause layout row change.table.name change.rowId.text⟩ ∧
      (symbolsOf? sql.text).map (callsOf "jsonb_build_object") = some 1 := by
  have clean : ∀ name ∈ layout.names, (Piece.name name).isClean := fun name member => isClean_name (plain name member).1
  have read : symbolsOf? sql.text = some (shown sql) := by
    have query : (Query.update change).WellFormed := valid
    rw [symbolsOf?, scan_marks_ofQuery clean query ran]
    rfl
  obtain ⟨assigned, row, found, known, rfl⟩ := update_shape ran
  have argument := isArgument_newValue plain valid.value found
  have symbols := shown_update plain change (Layout.physical_mem_names known) assigned
  refine ⟨row, assigned, known, found, ?_, ?_⟩
  · rw [Change.ofText, read, Option.bind_eq_bind, Option.bind_some, symbols]
    exact ofSymbols_update layout _ row _ _ argument
  · rw [read, symbols, Option.map_some, callsOf_update layout _ row _ _ argument]

end Sql

theorem Update.patch_eq_ok {change : Update} {record : FetchedRow} {layout : Layout} {patch : Fields} :
    change.patch record layout = .ok patch ↔
      ∃ value, change.newValue record layout = .ok value ∧ patch = [(change.target.name, value)] := by
  rw [Engine.patch_eq]
  cases change.newValue record layout <;> simp [Except.map, eq_comm]

theorem Update.patch_literal {change : Update} {constant : Literal} (typed : change.value = .literal constant)
    (record : FetchedRow) (layout : Layout) : change.patch record layout = .ok [(change.target.name, .text constant.text)] := by
  rw [Update.patch_eq_ok]
  refine ⟨.text constant.text, ?_, rfl⟩
  rw [Update.newValue, typed]
  rfl

namespace Engine

variable {engine : Engine} {source : QuerySource} {change : Update} {sql : Sql} {answer : Except Fault Snapshot}
  {said : List (Exchange backend)}

/-- A source that is read as an UPDATE compiles to this UPDATE, if it compiles, whatever the schema. -/
theorem compiled_of_read (read : source.read = .accepted (.update change))
    (written : Sql.update engine.layout change = .ok sql) {schema : Snapshot} {compilation : Compilation} {query : Query}
    {text : String} (compiles : source.compile schema engine.layout = .ok compilation)
    (query? : compilation.query? = some query) (sql? : compilation.sql? = some text) :
    query = .update change ∧ text = sql.text := by
  rw [QuerySource.compile, read] at compiles
  simp only [Compilation.ofQuery] at compiles
  split at compiles
  · cases compiles
    cases sql?
  · rw [Sql.ofQuery, written] at compiles
    cases compiles
    cases query?
    cases sql?
    exact ⟨rfl, rfl⟩

theorem Dialogue.calls_update (dialogue : engine.Dialogue source answer said)
    (read : source.read = .accepted (.update change)) (written : Sql.update engine.layout change = .ok sql) :
    calls said <+: [.runSql sql.text, .fetchSubmission change.table.name change.rowId.text] ∨
      ∃ record patch, change.patch record engine.layout = .ok patch ∧
        calls said = [.runSql sql.text, .fetchSubmission change.table.name change.rowId.text,
          .merge change.table.name change.rowId.text patch] := by
  cases dialogue with
  | unknown fault => exact .inl List.nil_prefix
  | uncompiled lacking => exact .inl List.nil_prefix
  | compiled compiles query? sql? execution =>
    obtain ⟨rfl, rfl⟩ := compiled_of_read read written compiles query? sql?
    cases execution with
    | settled final => exact .inl ⟨[_], rfl⟩
    | evaluated allowed evaluation =>
      cases evaluation with
      | unwritten lacking => exact .inl List.prefix_rfl
      | @written _ record value evaluated changed =>
        exact .inr ⟨record, _, Update.patch_eq_ok.mpr ⟨value, evaluated, rfl⟩, rfl⟩

theorem requests_update {σ : Type} (read : source.read = .accepted (.update change))
    (written : Sql.update engine.layout change = .ok sql) (handler : Handler collaborators σ) (state : σ) :
    ((engine.execute source).run handler state).requests <+:
        [.schema, .backend (.runSql sql.text), .backend (.fetchSubmission change.table.name change.rowId.text)] ∨
      ∃ record patch, change.patch record engine.layout = .ok patch ∧
        ((engine.execute source).run handler state).requests =
          [.schema, .backend (.runSql sql.text), .backend (.fetchSubmission change.table.name change.rowId.text),
            .backend (.merge change.table.name change.rowId.text patch)] := by
  obtain ⟨answer, said, all, dialogue⟩ := (engine.execute_keeps source).run handler state
  rw [Program.requests_run, all, List.map_cons, requests_ofBackend]
  obtain begun | ⟨record, patch, patched, whole⟩ := dialogue.calls_update read written
  · exact .inl ((List.prefix_cons_inj _).mpr (begun.map _))
  · refine .inr ⟨record, patch, patched, ?_⟩
    rw [whole]
    rfl

/-- Collaborators that have a schema and one submission, but run no SQL. -/
structure OnlyRows {σ : Type} (handler : Handler collaborators σ) (schema : Snapshot) (sql form rowId : String)
    (record : FetchedRow) : Prop where
  schema : ∀ state, (handler .schema state).result = .ok schema
  unavailable : ∀ state, ∃ reason, (handler (.backend (.runSql sql)) state).result = .error (.unavailable reason)
  found : ∀ state, (handler (.backend (.fetchSubmission form rowId)) state).result = .ok (some record)

/-- Where rows alone can be had and this way is allowed, the patch is merged. -/
theorem requests_of_onlyRows {σ : Type} {handler : Handler collaborators σ} {schema : Snapshot} {record : FetchedRow}
    {patch : Fields} (allowed : engine.fallbackEnabled = true)
    (compiles : source.compile schema engine.layout = .ok (.compiled (.update change) sql))
    (only : OnlyRows handler schema sql.text change.table.name change.rowId.text record)
    (patched : change.patch record engine.layout = .ok patch) (state : σ) :
    ((engine.execute source).run handler state).requests =
      [.schema, .backend (.runSql sql.text), .backend (.fetchSubmission change.table.name change.rowId.text),
        .backend (.merge change.table.name change.rowId.text patch)] := by
  obtain ⟨answer, said, all, dialogue⟩ := (engine.execute_keeps source).run handler state
  have replies := Program.answered (engine.execute source) handler state
  rw [all, List.forall_mem_cons, List.forall_mem_map] at replies
  obtain ⟨⟨before, given⟩, replies⟩ := replies
  obtain rfl : answer = .ok schema := given.trans (only.schema before)
  rw [Program.requests_run, all, List.map_cons, requests_ofBackend]
  obtain ⟨value, evaluated, rfl⟩ := Update.patch_eq_ok.mp patched
  cases dialogue with
  | uncompiled lacking => cases lacking _ compiles
  | compiled again query? sql? execution =>
    cases compiles.symm.trans again
    cases query?
    cases sql?
    cases execution with
    | settled final =>
      obtain ⟨between, told⟩ := replies _ List.mem_cons_self
      obtain ⟨reason, unavailable⟩ := only.unavailable between
      exact absurd (told.trans unavailable) (final allowed reason)
    | evaluated _ evaluation =>
      obtain ⟨-, replies⟩ := List.forall_mem_cons.mp replies
      cases evaluation with
      | unwritten lacking =>
        obtain ⟨between, told⟩ := replies _ List.mem_cons_self
        exact absurd evaluated (lacking record (told.trans (only.found between)) value)
      | written other changed =>
        obtain ⟨between, told⟩ := replies _ List.mem_cons_self
        cases told.trans (only.found between)
        cases evaluated.symm.trans other
        rfl

end Engine

/-- The two ways in which an UPDATE runs change the same field of the same submission. -/
structure SameChange (source : QuerySource) (schema : Snapshot) (layout : Layout) (change : Update) (sql : String)
    (form rowId key : String) (value : List Sql.Symbol) : Prop where
  /-- The statement merges one pair into the document of the rows that have this form and this identifier. -/
  read : ∃ row, layout.rowIdColumn = .ok row ∧
    Sql.Change.ofText sql = some ⟨layout.table, layout.documentColumn, key, value,
      .and (.comparison (.column layout.partitionColumn) .equal (.text form))
        (.comparison (.column row) .equal (.text rowId))⟩
  once : (Sql.symbolsOf? sql).map (Sql.callsOf "jsonb_build_object") = some 1
  /-- An engine sends the statement and, where it may and has to, fetches this submission and merges a patch into it. -/
  requested : ∀ engine : Engine, engine.layout = layout → ∀ (σ : Type) (handler : Handler collaborators σ) (state : σ),
    let requests := ((engine.execute source).run handler state).requests
    requests <+: [.schema, .backend (.runSql sql), .backend (.fetchSubmission form rowId)] ∨
      ∃ record patch, change.patch record layout = .ok patch ∧
        requests = [.schema, .backend (.runSql sql), .backend (.fetchSubmission form rowId),
          .backend (.merge form rowId patch)]
  merged : ∀ engine : Engine, engine.layout = layout → engine.fallbackEnabled = true →
    ∀ (σ : Type) (handler : Handler collaborators σ) (record : FetchedRow) (patch : Fields),
      Engine.OnlyRows handler schema sql form rowId record → change.patch record layout = .ok patch → ∀ state,
        ((engine.execute source).run handler state).requests =
          [.schema, .backend (.runSql sql), .backend (.fetchSubmission form rowId), .backend (.merge form rowId patch)]
  /-- Every patch has the key of the statement alone. -/
  patched : ∀ record patch, change.patch record layout = .ok patch → ∃ stored, patch = [(key, stored)]
  /-- A literal is stored with the text that stands in the statement. -/
  literal : ∀ constant, change.value = .literal constant → ∃ text, value = [.literal text] ∧
    ∀ record, change.patch record layout = .ok [(key, .text text)]

/-- Both ways in which an UPDATE runs that is compiled from a text change the same field of the same submission, in
every layout of plain identifiers. -/
theorem Update.paths_agree {source : String} {schema : Snapshot} {layout : Layout} {change : Update} {sql : Sql}
    (plain : layout.IsPlain)
    (compiled : (QuerySource.text source).compile schema layout = .ok (.compiled (.update change) sql)) :
    ∃ value, SameChange (.text source) schema layout change sql.text change.table.name change.rowId.text
      change.target.name value := by
  obtain ⟨read, written⟩ := QuerySource.parts_of_compiled compiled
  have valid : change.WellFormed := Query.wellFormed_of_read read
  have accepted : (QuerySource.text source).read = .accepted (.update change) := read
  obtain ⟨row, assigned, known, found, shown, once⟩ := Sql.ofText_update plain valid written
  refine ⟨assigned.shown, ⟨row, known, shown⟩, once, ?_, ?_, ?_, ?_⟩
  · intro engine same σ handler state
    subst same
    exact Engine.requests_update accepted written handler state
  · intro engine same allowed σ handler record patch only patched state
    subst same
    exact Engine.requests_of_onlyRows allowed compiled only patched state
  · intro record patch ran
    obtain ⟨value, _, rfl⟩ := Update.patch_eq_ok.mp ran
    exact ⟨value, rfl⟩
  · intro constant typed
    rw [typed] at found
    cases found
    refine ⟨constant.text, ?_, fun record => Update.patch_literal typed record layout⟩
    rw [Sql.shown_literal]
    rfl

private theorem compiled_of_passes {source : QuerySource} {schema : Snapshot} {layout : Layout} {test : Update → Bool}
    (passed : (match source.compile schema layout with
      | .ok (.compiled (.update change) _) => test change
      | _ => false) = true) :
    ∃ change sql, source.compile schema layout = .ok (.compiled (.update change) sql) ∧ test change = true := by
  split at passed
  next change sql compiles => exact ⟨change, sql, compiles, passed⟩
  next => cases passed

private def literalText? : ValueExpr → Option String
  | .literal constant => some constant.text
  | _ => none

private theorem literal_of_text {value : ValueExpr} {text : String} (shown : literalText? value = some text) :
    ∃ constant, value = .literal constant ∧ constant.text = text := by
  cases value with
  | literal constant => exact ⟨constant, rfl, Option.some.inj shown⟩
  | field | call | foreign => cases shown

/-- A form and a submission with quotes in their names, and a number whose zeros count. -/
theorem Update.paths_agree_spelled : ∃ change sql value,
    (QuerySource.text "UPDATE FORM 'o''brien' SET FIELD('a') = 007 WHERE submission_id = 'r''1'").compile
        ⟨[Form.ofColumns "o'brien" ["a"]]⟩ {} = .ok (.compiled (.update change) sql) ∧
      SameChange (.text "UPDATE FORM 'o''brien' SET FIELD('a') = 007 WHERE submission_id = 'r''1'")
        ⟨[Form.ofColumns "o'brien" ["a"]]⟩ {} change sql.text "o'brien" "r'1" "a" value ∧ value = [.literal "007"] := by
  let named (change : Update) : Bool :=
    change.table.name = "o'brien" && change.rowId.text = "r'1" && change.target.name = "a" &&
      literalText? change.value = some "007"
  obtain ⟨change, sql, compiled, shown⟩ := compiled_of_passes (by decide +kernel : (match (QuerySource.text
      "UPDATE FORM 'o''brien' SET FIELD('a') = 007 WHERE submission_id = 'r''1'").compile
        ⟨[Form.ofColumns "o'brien" ["a"]]⟩ {} with
      | .ok (.compiled (.update change) _) => named change
      | _ => false) = true)
  simp only [named, Bool.and_eq_true, decide_eq_true_eq] at shown
  obtain ⟨⟨⟨table, rowId⟩, target⟩, typed⟩ := shown
  obtain ⟨value, same⟩ := Update.paths_agree (by decide : Layout.IsPlain {}) compiled
  rw [table, rowId, target] at same
  refine ⟨change, sql, value, compiled, same, ?_⟩
  obtain ⟨constant, literal, spelled⟩ := literal_of_text typed
  obtain ⟨text, shape, stored⟩ := same.literal constant literal
  have own := (stored []).symm.trans (Update.patch_literal literal [] {})
  simp only [Except.ok.injEq, List.cons.injEq, Prod.mk.injEq, Value.text.injEq] at own
  rw [shape, own.1.2, spelled]

end FormQuery
