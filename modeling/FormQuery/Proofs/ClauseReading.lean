import FormQuery.Proofs.GeneratedSql
import FormQuery.Sql.Clause

/-! Reading generated WHERE clauses. The explicit parentheses around every two conditions make a database read them from
left to right, so the clause that it reads is the chain of the query, inside the partition of its form. -/

namespace FormQuery

open Sql

def Select.AsciiNumbers (wanted : Select) : Prop :=
  ∀ condition ∈ wanted.filter.conditions, condition.value.isNumber = true → condition.value.IsAscii

instance (wanted : Select) : Decidable wanted.AsciiNumbers := inferInstanceAs (Decidable (∀ condition ∈ _, _ → _))

def SelectExpr.isField : SelectExpr → Bool
  | .column ref => !ref.pseudo
  | .aggregate _ => false

theorem SelectExpr.column_of_isField {expr : SelectExpr} (field : expr.isField = true) :
    ∃ ref, expr = .column ref ∧ ref.pseudo = false := by
  cases expr with
  | column ref => exact ⟨ref, rfl, by simpa [isField] using field⟩
  | aggregate call => cases field

/-- Whether a query is about fields alone: it lists plain fields, and compares fields. -/
structure Select.FieldsOnly (wanted : Select) : Prop where
  listed : wanted.star = false
  items : ∀ item ∈ wanted.items, item.expr.isField = true
  conditions : ∀ condition ∈ wanted.filter.conditions, condition.column.pseudo = false

instance (wanted : Select) : Decidable wanted.FieldsOnly :=
  decidable_of_iff (wanted.star = false ∧ (∀ item ∈ wanted.items, item.expr.isField = true) ∧
      ∀ condition ∈ wanted.filter.conditions, condition.column.pseudo = false)
    ⟨fun ⟨listed, items, conditions⟩ => ⟨listed, items, conditions⟩,
      fun fields => ⟨fields.listed, fields.items, fields.conditions⟩⟩

/-- The clause that a condition on a field is meant as. -/
def Condition.clause (layout : Layout) (condition : Condition) : Clause :=
  match condition.value.value with
  | .decimal number =>
    .comparison (.cast layout.documentColumn condition.column.name) condition.operator (.number number)
  | value =>
    .comparison (.extraction layout.documentColumn condition.column.name) condition.operator (.text value.display)

theorem Condition.clause_of_text {layout : Layout} {condition : Condition} {content : String}
    (value : condition.value.value = .text content) : condition.clause layout =
      .comparison (.extraction layout.documentColumn condition.column.name) condition.operator (.text content) := by
  simp [Condition.clause, value, Value.display]

theorem Condition.clause_of_number {layout : Layout} {condition : Condition} {number : Decimal}
    (value : condition.value.value = .decimal number) : condition.clause layout =
      .comparison (.cast layout.documentColumn condition.column.name) condition.operator (.number number) := by
  simp [Condition.clause, value]

def Connector.clause : Connector → Clause → Clause → Clause
  | .and => .and
  | _ => .or

/-- A chain means its conditions joined from left to right. -/
def Filter.chainClause (layout : Layout) (clause : Clause) : List (Connector × Condition) → Clause
  | [] => clause
  | (connector, next) :: rest => chainClause layout (connector.clause clause (next.clause layout)) rest

def Filter.clause? (layout : Layout) : Filter → Option Clause
  | .all | .empty => none
  | .chain first rest => some (chainClause layout (first.clause layout) rest)

def Select.ownClause (layout : Layout) (wanted : Select) : Clause :=
  .comparison (.column layout.partitionColumn) .equal (.text wanted.table.name)

/-- The rows of the form, and of these the ones that the filter wants. -/
def Select.clause (layout : Layout) (wanted : Select) : Clause :=
  match wanted.filter.clause? layout with
  | none => wanted.ownClause layout
  | some clause => .and (wanted.ownClause layout) clause

namespace Sql

variable {layout : Layout}

theorem symbols_append (first second : Sql) : symbols (first ++ second) = symbols first ++ symbols second := by
  simp [symbols]

theorem symbols_cons (piece : Piece) (rest : Sql) : symbols (piece :: rest) = piece.symbols ++ symbols rest := by
  simp [symbols]

@[simp] theorem symbols_nil : symbols [] = [] := rfl

def fieldSymbols (source key : String) : List Symbol := [.word source, .sign "->>", .literal key]

theorem symbols_extraction (key : String) (layout : Layout) :
    symbols (extraction key layout) = fieldSymbols layout.documentColumn key := rfl

def castSymbols (source key : String) : List Symbol :=
  [.word "CASE", .word "WHEN", .sign "("] ++ fieldSymbols source key ++
    [.sign ")", .sign "~", .literal numericTextPattern, .word "THEN", .sign "("] ++ fieldSymbols source key ++
    [.sign ")", .sign "::", .word "numeric", .word "END"]

theorem symbols_guardedCast (key : String) (layout : Layout) :
    symbols (guardedCast (extraction key layout)) = castSymbols layout.documentColumn key := rfl

private theorem extraction?_field (source key : String) (rest : List Symbol) :
    extraction? (fieldSymbols source key ++ rest) = some ((source, key), rest) := by
  simp [fieldSymbols, extraction?]

theorem skip_append (expected rest : List Symbol) : skip expected (expected ++ rest) = some rest := by
  simp [skip]

/-- A column never looks like the beginning of a cast, whatever its name. -/
private theorem cast?_of_second {first second : Symbol} (other : second ≠ .word "WHEN") (rest : List Symbol) :
    cast? (first :: second :: rest) = none := by
  have apart : skip [.word "CASE", .word "WHEN", .sign "("] (first :: second :: rest) = none := by
    simp [skip, List.isPrefixOf, Ne.symm other]
  simp [cast?, apart]

theorem operand?_field (source key : String) (rest : List Symbol) :
    operand? (fieldSymbols source key ++ rest) = some (.extraction source key, rest) := by
  have uncast : cast? (fieldSymbols source key ++ rest) = none := cast?_of_second (by simp) _
  simp only [operand?, uncast, extraction?_field]

theorem operand?_cast (source key : String) (rest : List Symbol) :
    operand? (castSymbols source key ++ rest) = some (.cast source key, rest) := by
  have found : cast? (castSymbols source key ++ rest) = some (.cast source key, rest) := by
    simp only [castSymbols, List.append_assoc, cast?, skip_append, extraction?_field, Option.bind_eq_bind,
      Option.bind_some, if_true]
  simp only [operand?, found]

theorem operand?_column {name : String} {operator : Symbol} (arrow : operator ≠ .sign "->>")
    (when : operator ≠ .word "WHEN") (rest : List Symbol) :
    operand? (.word name :: operator :: rest) = some (.column name, operator :: rest) := by
  have uncast : cast? (.word name :: operator :: rest) = none := cast?_of_second when _
  have plain : extraction? (.word name :: operator :: rest) = none := by
    unfold extraction?
    split
    next same =>
      cases same
      exact if_neg arrow
    next => rfl
  simp only [operand?, uncast, plain]

theorem symbols_operator {operator : Comparison} (known : operator ∈ Comparison.known) :
    ∃ symbol, (Piece.code s!" {operator.symbol} ").symbols = [symbol] ∧ symbol.comparison? = some operator := by
  simp only [Comparison.known, List.mem_cons, List.not_mem_nil, or_false] at known
  rcases known with rfl | rfl | rfl | rfl | rfl | rfl | rfl | rfl | rfl <;> exact ⟨_, rfl, by decide⟩

/-- The SQL is read as a clause, whatever follows it. Its symbols bound the steps. -/
structure Reads (sql : Sql) (clause : Clause) : Prop where
  some_symbol : sql.symbols ≠ []
  term : ∀ fuel rest, sql.symbols.length ≤ fuel → term fuel (sql.symbols ++ rest) = some (clause, rest)

/-- A comparison starts with a word, so it is not taken for a group. -/
theorem reads_comparison {sql : Sql} {clause : Clause} (starts : ∃ word more, sql.symbols = .word word :: more)
    (read : ∀ rest, comparison? (sql.symbols ++ rest) = some (clause, rest)) : Reads sql clause := by
  obtain ⟨word, more, starts⟩ := starts
  refine ⟨by simp [starts], fun fuel rest long => ?_⟩
  cases fuel with
  | zero => simp [starts] at long
  | succ left =>
    have known := read rest
    rw [starts, List.cons_append] at known ⊢
    rw [Sql.term]
    · exact known
    · rintro _ ⟨⟩

private theorem comparison?_read {symbols rest : List Symbol} {operand : Operand} {operator constant : Symbol}
    {comparison : Comparison} {value : Constant}
    (found : operand? symbols = some (operand, operator :: constant :: rest))
    (compares : operator.comparison? = some comparison) (holds : constant.constant? = some value) :
    comparison? symbols = some (.comparison operand comparison value, rest) := by
  simp [comparison?, found, compares, holds]

theorem symbols_quoted {literal : Literal} {content : String} (text : literal.isNumber = false)
    (value : literal.value = .text content) : symbols (ofLiteral literal) = [.literal content] := by
  simp [ofLiteral, text, value, Value.display, symbols, Piece.symbols]

theorem symbols_numeric {literal : Literal} {raw : String} (number : literal.isNumber = true)
    (typed : literal.raw = some raw) : symbols (ofLiteral literal) = [.number raw] := by
  simp [ofLiteral, number, Literal.text, typed, symbols, Piece.symbols]

theorem reads_condition {condition : Condition} {sql : Sql} (valid : condition.WellFormed)
    (field : condition.column.pseudo = false) (ran : Sql.condition layout condition = .ok sql) :
    Reads sql (condition.clause layout) := by
  obtain ⟨operator, shown, compares⟩ := symbols_operator valid.known
  obtain ⟨operand, found, ran⟩ := ok_of_bind ran
  cases ran
  cases (plain_column condition.column field).symm.trans found
  rcases valid.value with quoted | numeric
  · have text := quoted.isNumber
    obtain ⟨content, value, _⟩ := quoted
    have constant := symbols_quoted text value
    simp only [text, Bool.false_and, Bool.false_eq_true, if_false, Condition.clause_of_text value]
    refine reads_comparison ?_ fun rest => ?_
    all_goals rw [symbols_append, symbols_cons, shown, constant, symbols_extraction]
    · exact ⟨_, _, rfl⟩
    · rw [List.append_assoc]
      exact comparison?_read (operand?_field _ _ _) compares rfl
  · have number := numeric.isNumber
    obtain ⟨raw, decimal, typed, _, read, value⟩ := numeric
    have constant := symbols_numeric number typed
    simp only [number, field, Bool.not_false, Bool.and_self, if_true, Condition.clause_of_number value]
    refine reads_comparison ?_ fun rest => ?_
    all_goals rw [symbols_append, symbols_cons, shown, constant, symbols_guardedCast]
    · exact ⟨_, _, rfl⟩
    · rw [List.append_assoc]
      exact comparison?_read (operand?_cast _ _ _) compares (by simp [Symbol.constant?, read])

section Groups

variable {fuel : Nat} {symbols more rest : List Symbol} {left right : Clause}

theorem conjunction_last (read : term fuel symbols = some (left, rest)) (stop : rest.head? ≠ some (.word "AND")) :
    conjunction (fuel + 1) symbols = some (left, rest) := by
  simp only [conjunction, read, Option.bind_eq_bind, Option.bind_some]
  split
  next => exact absurd rfl stop
  next => rfl

theorem conjunction_and (read : term fuel symbols = some (left, .word "AND" :: more))
    (other : conjunction fuel more = some (right, rest)) :
    conjunction (fuel + 1) symbols = some (.and left right, rest) := by
  simp [conjunction, read, other]

theorem disjunction_last (read : conjunction fuel symbols = some (left, rest)) (stop : rest.head? ≠ some (.word "OR")) :
    disjunction (fuel + 1) symbols = some (left, rest) := by
  simp only [disjunction, read, Option.bind_eq_bind, Option.bind_some]
  split
  next => exact absurd rfl stop
  next => rfl

theorem disjunction_or (read : conjunction fuel symbols = some (left, .word "OR" :: more))
    (other : disjunction fuel more = some (right, rest)) :
    disjunction (fuel + 1) symbols = some (.or left right, rest) := by
  simp [disjunction, read, other]

theorem term_group (read : disjunction fuel symbols = some (left, .sign ")" :: rest)) :
    term (fuel + 1) (.sign "(" :: symbols) = some (left, rest) := by
  simp [term, read]

end Groups

/-- Two terms in parentheses are read as one, whichever connector stands between them. -/
theorem reads_group {connector : Connector} (word : connector = .and ∨ connector = .or) {first second : Sql}
    {left right : Clause} (one : Reads first left) (two : Reads second right) :
    Reads (.code "(" :: first ++ .code s!" {connector.word} " :: second ++ [.code ")"])
      (connector.clause left right) := by
  have shape : symbols (.code "(" :: first ++ .code s!" {connector.word} " :: second ++ [.code ")"]) =
      .sign "(" :: (symbols first ++ .word connector.word :: (symbols second ++ [.sign ")"])) := by
    have opening : (Piece.code "(").symbols = [.sign "("] := rfl
    have closing : (Piece.code ")").symbols = [.sign ")"] := rfl
    have between : (Piece.code s!" {connector.word} ").symbols = [.word connector.word] := by
      rcases word with rfl | rfl <;> rfl
    simp only [List.cons_append, symbols_append, symbols_cons, symbols_nil, opening, closing, between, List.nil_append,
      List.append_assoc]
  constructor
  · rw [shape]
    simp
  intro fuel rest long
  rw [shape] at long ⊢
  simp only [List.length_cons, List.length_append, List.length_nil] at long
  have some_first := List.length_pos_iff.mpr one.some_symbol
  obtain ⟨steps, rfl⟩ : ∃ steps, fuel = steps + 4 := ⟨fuel - 4, by omega⟩
  have last := conjunction_last (two.term steps (.sign ")" :: rest) (by omega)) (by simp)
  have reading : disjunction (steps + 3)
      (symbols first ++ .word connector.word :: (symbols second ++ .sign ")" :: rest)) =
        some (connector.clause left right, .sign ")" :: rest) := by
    have start := one.term (steps + 1) (.word connector.word :: (symbols second ++ .sign ")" :: rest)) (by omega)
    rcases word with rfl | rfl
    · exact disjunction_last (conjunction_and start last) (by simp)
    · exact disjunction_or (conjunction_last start (by simp)) (disjunction_last last (by simp))
  simpa using term_group reading

theorem reads_chain {rest : List (Connector × Condition)}
    (valid : ∀ link ∈ rest, (link.1 = .and ∨ link.1 = .or) ∧ link.2.WellFormed)
    (fields : ∀ link ∈ rest, link.2.column.pseudo = false) {first sql : Sql} {clause : Clause}
    (read : Reads first clause) (ran : chain layout first rest = .ok sql) :
    Reads sql (Filter.chainClause layout clause rest) := by
  induction rest generalizing first clause with
  | nil =>
    cases ran
    exact read
  | cons link rest ih =>
    obtain ⟨connector, condition⟩ := link
    obtain ⟨⟨word, known⟩, valid⟩ := List.forall_mem_cons.mp valid
    obtain ⟨field, fields⟩ := List.forall_mem_cons.mp fields
    obtain ⟨next, found, ran⟩ := ok_of_bind ran
    exact ih valid fields (reads_group word read (reads_condition known field found)) ran

theorem reads_column (column content : String) : Reads [.name column, .code " = ", .literal content]
    (.comparison (.column column) .equal (.text content)) := by
  have shape : symbols [.name column, .code " = ", .literal content] =
      [.word column, .sign "=", .literal content] := rfl
  refine reads_comparison ⟨_, _, shape⟩ fun rest => ?_
  rw [shape]
  exact comparison?_read (operand?_column (by simp) (by simp) _) (by decide) rfl

theorem reads_partition (wanted : Select) : Reads (partition wanted.table.name layout) (wanted.ownClause layout) :=
  reads_column layout.partitionColumn wanted.table.name

theorem afterWhere_cons {symbol : Symbol} (other : symbol ≠ .word "FROM") (rest : List Symbol) :
    afterWhere (symbol :: rest) = afterWhere rest := by
  unfold afterWhere
  split
  · rw [if_neg fun both => other both.1, afterWhere.eq_def]
  · rw [afterWhere.eq_def]

/-- A word before a symbol that is none is no table. -/
theorem afterWhere_cons_cons {symbol next : Symbol} (other : ∀ text, next ≠ .word text) (rest : List Symbol) :
    afterWhere (symbol :: next :: rest) = afterWhere (next :: rest) := by
  rw [afterWhere]
  exact fun text following clause same => other text (List.cons.inj same).1

def fieldItem (layout : Layout) (key name : String) : Sql := extraction key layout ++ [.code " AS ", .label name]

theorem afterWhere_fieldItem (key name : String) (rest : List Symbol) :
    afterWhere (symbols (fieldItem layout key name) ++ rest) = afterWhere rest := by
  have shape : symbols (fieldItem layout key name) =
      [.word layout.documentColumn, .sign "->>", .literal key, .word "AS", .label name] := rfl
  rw [shape]
  simp only [List.cons_append, List.nil_append]
  rw [afterWhere_cons_cons (by simp), afterWhere_cons (by simp), afterWhere_cons (by simp), afterWhere_cons (by simp),
    afterWhere_cons (by simp)]

theorem afterWhere_fieldItems {columns : List Sql}
    (fields : ∀ sql ∈ columns, ∃ key name, sql = fieldItem layout key name)
    (rest : List Symbol) : afterWhere (symbols (separated ", " columns) ++ rest) = afterWhere rest := by
  induction columns with
  | nil => rfl
  | cons sql more ih =>
    obtain ⟨⟨key, name, rfl⟩, others⟩ := List.forall_mem_cons.mp fields
    cases more with
    | nil => exact afterWhere_fieldItem key name rest
    | cons next more =>
      have comma : (Piece.code ", ").symbols = [.sign ","] := rfl
      rw [separated, symbols_append, symbols_cons, comma, List.append_assoc, afterWhere_fieldItem, List.append_assoc,
        List.singleton_append, afterWhere_cons (by simp), ih others]
      simp

theorem resultColumns_fields {wanted : Select} (fields : wanted.FieldsOnly) {columns : List Sql}
    (ran : resultColumns layout wanted = .ok columns) :
    ∀ sql ∈ columns, ∃ key name, sql = fieldItem layout key name := by
  intro sql member
  simp only [resultColumns, fields.listed, Bool.false_eq_true, if_false] at ran
  obtain ⟨item, inside, found⟩ := mem_of_mapM ran member
  obtain ⟨ref, shown, plain⟩ := SelectExpr.column_of_isField (fields.items item inside)
  rw [selectItem, shown] at found
  simp only [plain_column ref plain, plain] at found
  cases found
  exact ⟨ref.name, item.outputName, rfl⟩

theorem aggregates_of_fieldsOnly {wanted : Select} (fields : wanted.FieldsOnly) : wanted.aggregates = [] := by
  refine List.filterMap_eq_nil_iff.mpr fun item member => ?_
  obtain ⟨ref, shown, _⟩ := SelectExpr.column_of_isField (fields.items item member)
  rw [shown]

theorem isGrouped_of_fieldsOnly {wanted : Select} (fields : wanted.FieldsOnly) : wanted.isGrouped = false := by
  simp [Select.isGrouped, aggregates_of_fieldsOnly fields]

/-- The symbols after WHERE are those of the conditions, because no field column looks like the end of a SELECT list. -/
theorem afterWhere_statement {wanted : Select} (fields : wanted.FieldsOnly) {columns conditions keys : List Sql}
    (listed : resultColumns layout wanted = .ok columns) :
    afterWhere (symbols (statement layout wanted columns conditions keys)) =
      some (symbols (separated " AND " (partition wanted.table.name layout :: conditions))) := by
  have opening : (Piece.code "SELECT ").symbols = [.word "SELECT"] := rfl
  have source : (Piece.code " FROM ").symbols = [.word "FROM"] := rfl
  have table : (Piece.name layout.table).symbols = [.word layout.table] := rfl
  have clause : (Piece.code " WHERE ").symbols = [.word "WHERE"] := rfl
  simp only [statement, grouping, isGrouped_of_fieldsOnly fields, Bool.false_eq_true, if_false, List.append_nil,
    List.cons_append, symbols_cons, symbols_append, opening, source, table, clause, List.nil_append]
  rw [afterWhere_cons (by simp), afterWhere_fieldItems (resultColumns_fields fields listed)]
  simp [afterWhere]

theorem disjunction_where {wanted : Select} (valid : wanted.WellFormed) (fields : wanted.FieldsOnly)
    {conditions : List Sql} (filtered : filter layout wanted.filter = .ok conditions) {fuel : Nat}
    (long : (symbols (separated " AND " (partition wanted.table.name layout :: conditions))).length ≤ fuel) :
    disjunction (fuel + 3) (symbols (separated " AND " (partition wanted.table.name layout :: conditions))) =
      some (wanted.clause layout, []) := by
  have own : Reads (partition wanted.table.name layout) (wanted.ownClause layout) := reads_partition wanted
  have known := valid.filter
  have plain := fields.conditions
  unfold Select.clause
  cases shown : wanted.filter with
  | all =>
    rw [shown] at filtered
    cases filtered
    simp only [separated] at long ⊢
    have read := own.term (fuel + 1) [] (by omega)
    rw [List.append_nil] at read
    exact disjunction_last (conjunction_last read (by simp)) (by simp)
  | empty =>
    rw [shown] at known
    cases known
  | chain first rest =>
    rw [shown] at filtered known plain
    obtain ⟨start, found, ran⟩ := ok_of_bind filtered
    obtain ⟨sql, chained, ran⟩ := ok_of_bind ran
    cases ran
    simp only [Filter.conditions, List.forall_mem_cons, List.forall_mem_map] at plain
    have chain := reads_chain known.2 plain.2 (reads_condition known.1 plain.1 found) chained
    have connector : (Piece.code " AND ").symbols = [.word "AND"] := rfl
    simp only [separated, symbols_append, symbols_cons, connector, List.singleton_append, List.length_append,
      List.length_cons] at long ⊢
    have first := own.term (fuel + 1) (.word "AND" :: symbols sql) (by omega)
    have second := chain.term fuel [] (by omega)
    rw [List.append_nil] at second
    exact disjunction_last (conjunction_and first (conjunction_last second (by simp))) (by simp)

/-- The WHERE clause of a SELECT over fields, as a database reads it from the symbols of the statement. -/
theorem ofSymbols_select {wanted : Select} {sql : Sql} (valid : wanted.WellFormed) (fields : wanted.FieldsOnly)
    (ran : select layout wanted = .ok sql) : Clause.ofSymbols sql.symbols = some (wanted.clause layout) := by
  obtain ⟨columns, conditions, keys, listed, filtered, _, rfl⟩ := select_eq_ok.mp ran
  simp only [Clause.ofSymbols, afterWhere_statement fields listed, Option.bind_eq_bind, Option.bind_some]
  rw [disjunction_where valid fields filtered (by omega)]

/-- The same clause is read from the text, where the layout and the numbers are what a database takes for such. -/
theorem ofText_select {wanted : Select} {sql : Sql} (valid : wanted.WellFormed) (fields : wanted.FieldsOnly)
    (plain : layout.IsPlain) (ascii : wanted.AsciiNumbers) (ran : select layout wanted = .ok sql) :
    Clause.ofText sql.text = some (wanted.clause layout) := by
  have conditions := Filter.conditions_wellFormed valid.filter
  have numbers : NumbersGood (fun piece => piece.isClean ∧ piece.isWhole) (wanted.filter.conditions.map (·.value)) :=
    whole_numbers (List.forall_mem_map.mpr fun condition member => (conditions condition member).value)
      (List.forall_mem_map.mpr ascii)
  have legible := legible_select suits_whole (whole_names plain) valid numbers ran
  simp only [Clause.ofText, scan_text (legible.mono fun _ => And.left), Option.bind_eq_bind, Option.bind_some,
    symbolsFrom_marks legible]
  exact ofSymbols_select valid fields ran

end Sql

end FormQuery
