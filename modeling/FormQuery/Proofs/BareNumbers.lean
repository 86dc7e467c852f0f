import FormQuery.Proofs.FilterAgreement
import FormQuery.Proofs.NumberTokens
import FormQuery.Proofs.NumericText

/-! Numbers from a source to its SQL. Outside of quotes a statement holds no text of its user but numbers, and these
are the numbers of the source, digit by digit. A source may spell them with the digits of any script: a database reads
such a number as the evaluator does exactly when it is spelled in ASCII. -/

namespace FormQuery

namespace Sql

open Piece

def Piece.number? : Piece → Option String
  | .number text => some text
  | _ => none

theorem Piece.eq_of_number? {piece : Piece} {text : String} (shown : piece.number? = some text) :
    piece = .number text := by
  cases piece <;> simp_all [Piece.number?]

/-- The numbers that stand bare in some SQL, in order. -/
def numbers (sql : Sql) : List String := sql.filterMap Piece.number?

variable {layout : Layout} {sql first second : Sql}

@[simp] theorem numbers_nil : numbers [] = [] := rfl

@[simp] theorem numbers_cons_code (text : String) (sql : Sql) : numbers (code text :: sql) = numbers sql := rfl

@[simp] theorem numbers_cons_name (text : String) (sql : Sql) : numbers (name text :: sql) = numbers sql := rfl

@[simp] theorem numbers_cons_literal (content : String) (sql : Sql) :
    numbers (literal content :: sql) = numbers sql := rfl

@[simp] theorem numbers_cons_label (content : String) (sql : Sql) : numbers (label content :: sql) = numbers sql := rfl

@[simp] theorem numbers_cons_number (text : String) (sql : Sql) :
    numbers (number text :: sql) = text :: numbers sql := rfl

@[simp] theorem numbers_append (first second : Sql) : numbers (first ++ second) = numbers first ++ numbers second :=
  List.filterMap_append

@[simp] theorem numbers_separated (separator : String) (parts : List Sql) :
    numbers (separated separator parts) = parts.flatMap numbers := by
  induction parts with
  | nil => rfl
  | cons part rest ih =>
    cases rest with
    | nil => simp [separated]
    | cons next rest =>
      have whole : separated separator (part :: next :: rest) =
          part ++ code separator :: separated separator (next :: rest) := rfl
      rw [whole, numbers_append, numbers_cons_code, ih]
      exact List.flatMap_cons.symm

theorem numbers_column {ref : ColumnRef} (ran : column ref layout = .ok sql) : numbers sql = [] := by
  unfold column at ran
  split at ran
  · obtain ⟨physical, _, ran⟩ := ok_of_bind ran
    cases ran
    rfl
  · cases ran
    rfl

theorem numbers_guardedCast (none : numbers sql = []) : numbers (guardedCast sql) = [] := by
  simp [guardedCast, none]

theorem numbers_cast_or (none : numbers sql = []) (casts : Bool) :
    numbers (if casts then guardedCast sql else sql) = [] := by
  split
  · exact numbers_guardedCast none
  · exact none

theorem numbers_aggregate {call : AggregateCall} (ran : aggregate call layout = .ok sql) : numbers sql = [] := by
  unfold aggregate at ran
  split at ran
  next =>
    cases ran
    rfl
  next ref shown =>
    obtain ⟨plain, found, ran⟩ := ok_of_bind ran
    have argument := numbers_cast_or (numbers_column found) (castsArgument call.function && !ref.pseudo)
    simp only at ran
    split at ran
    all_goals
      cases ran
      simp only [numbers_append, numbers_cons_code, argument, numbers_nil, List.append_nil]

theorem numbers_selectItem {item : SelectItem} (ran : selectItem layout item = .ok sql) : numbers sql = [] := by
  unfold selectItem at ran
  split at ran
  next call shown =>
    obtain ⟨summary, found, ran⟩ := ok_of_bind ran
    cases ran
    simp [numbers_aggregate found]
  next ref shown =>
    obtain ⟨plain, found, ran⟩ := ok_of_bind ran
    split at ran
    all_goals
      cases ran
      simp [numbers_column found]

theorem numbers_resultColumns {wanted : Select} {columns : List Sql} (ran : resultColumns layout wanted = .ok columns) :
    columns.flatMap numbers = [] := by
  rw [List.flatMap_eq_nil_iff]
  unfold resultColumns at ran
  split at ran
  · cases ran
    intro sql member
    obtain system | document := List.mem_append.mp member
    · obtain ⟨⟨pseudo, physical⟩, _, rfl⟩ := List.mem_map.mp system
      simp only
      split <;> rfl
    · obtain rfl := List.mem_singleton.mp document
      rfl
  · intro sql member
    obtain ⟨item, _, found⟩ := mem_of_mapM ran member
    exact numbers_selectItem found

theorem numbers_grouping {wanted : Select} {keys : List Sql} (ran : groupKeys layout wanted = .ok keys) :
    numbers (grouping wanted keys) = [] := by
  unfold groupKeys at ran
  unfold grouping
  split at ran
  next several =>
    rw [if_pos several, numbers_cons_code, numbers_separated, List.flatMap_eq_nil_iff]
    intro sql member
    obtain ⟨ref, _, found⟩ := mem_of_mapM ran member
    exact numbers_column found
  next single => rw [if_neg single, numbers_nil]

end Sql

/-- The spellings of the numbers among some literals. -/
def spellings (literals : List Literal) : List String :=
  (literals.filterMap Literal.typedNumber?).map (·.text)

theorem spellings_cons (first : Literal) (rest : List Literal) :
    spellings (first :: rest) = spellings [first] ++ spellings rest := by
  cases shown : first.typedNumber? <;> simp [spellings, shown]

@[simp] theorem spellings_append (first second : List Literal) :
    spellings (first ++ second) = spellings first ++ spellings second := by
  simp [spellings]

/-- The literals of a query that are written bare when they are numbers. A new value that is one literal is stored as
text, and a row identifier is text. -/
def Query.bareLiterals : Query → List Literal
  | .select wanted => wanted.filter.conditions.map (·.value)
  | .update change =>
    match change.value with
    | .literal _ => []
    | expr => expr.literals

namespace Sql

open Piece

variable {layout : Layout} {sql first : Sql}

theorem numbers_ofLiteral (value : Literal) : numbers (ofLiteral value) = spellings [value] := by
  cases number : value.isNumber <;> simp [ofLiteral, spellings, Literal.typedNumber?, number]

theorem numbers_condition {wanted : Condition} (ran : condition layout wanted = .ok sql) :
    numbers sql = spellings [wanted.value] := by
  obtain ⟨operand, found, ran⟩ := ok_of_bind ran
  cases ran
  have operand := numbers_cast_or (numbers_column found) (wanted.value.isNumber && !wanted.column.pseudo)
  rw [numbers_append, operand, numbers_cons_code, numbers_ofLiteral, List.nil_append]

theorem numbers_chain {rest : List (Connector × Condition)} (ran : chain layout first rest = .ok sql) :
    numbers sql = numbers first ++ spellings (rest.map (·.2.value)) := by
  induction rest generalizing first with
  | nil =>
    cases ran
    simp [spellings]
  | cons link rest ih =>
    obtain ⟨connector, condition⟩ := link
    obtain ⟨next, found, ran⟩ := ok_of_bind ran
    rw [ih ran, List.map_cons, spellings_cons]
    simp [numbers_condition found]

theorem numbers_filter {wanted : Filter} {conditions : List Sql} (ran : filter layout wanted = .ok conditions) :
    conditions.flatMap numbers = spellings (wanted.conditions.map (·.value)) := by
  cases wanted with
  | all =>
    cases ran
    rfl
  | empty => cases ran
  | chain first rest =>
    obtain ⟨start, found, ran⟩ := ok_of_bind ran
    obtain ⟨sql, chained, ran⟩ := ok_of_bind ran
    cases ran
    rw [List.flatMap_singleton, numbers_chain chained, numbers_condition found, ← spellings_cons]
    simp [Filter.conditions, Function.comp_def]

theorem numbers_select {wanted : Select} (ran : select layout wanted = .ok sql) :
    numbers sql = spellings (Query.select wanted).bareLiterals := by
  obtain ⟨columns, conditions, keys, listed, filtered, grouped, rfl⟩ := select_eq_ok.mp ran
  have table : numbers (partition wanted.table.name layout) = [] := rfl
  simp [statement, numbers_resultColumns listed, numbers_filter filtered, numbers_grouping grouped, table,
    Query.bareLiterals]

theorem numbers_call {function : StringFunction} {arguments : List Sql}
    (accepted : function.accepts arguments.length = true) (ran : call function arguments = .ok sql) :
    numbers sql = arguments.flatMap numbers := by
  unfold call at ran
  split at ran
  next =>
    cases ran
    simp
  next text start rest unsized =>
    obtain rfl := eq_nil_of_substring accepted unsized
    cases ran
    simp
  next => cases ran
  next =>
    cases ran
    simp

mutual
theorem numbers_value {expr : ValueExpr} (valid : expr.WellFormed) {sql : Sql} (ran : value layout expr = .ok sql) :
    numbers sql = spellings expr.literals := by
  cases expr with
  | literal constant =>
    cases ran
    rw [ValueExpr.literals, numbers_ofLiteral]
  | field ref =>
    obtain ⟨plain, found, ran⟩ := ok_of_bind ran
    cases ran
    simp [ValueExpr.literals, numbers_column found, spellings]
  | call callee arguments position =>
    rw [ValueExpr.WellFormed] at valid
    obtain ⟨⟨function, named, accepted⟩, known⟩ := valid
    rw [value, StringFunction.find?_of_ofName? named] at ran
    obtain ⟨shown, found, ran⟩ := ok_of_bind ran
    rw [ValueExpr.literals, numbers_call (length_values found ▸ accepted) ran, numbers_values known found]
  | foreign kind => cases ran

theorem numbers_values {arguments : List ValueExpr} (valid : ValueExpr.AllWellFormed arguments) {shown : List Sql}
    (ran : values layout arguments = .ok shown) :
    shown.flatMap numbers = spellings (ValueExpr.literalsAll arguments) := by
  cases arguments with
  | nil =>
    cases ran
    simp [ValueExpr.literalsAll, spellings]
  | cons argument rest =>
    rw [ValueExpr.AllWellFormed] at valid
    obtain ⟨first, found, ran⟩ := ok_of_bind ran
    obtain ⟨others, known, ran⟩ := ok_of_bind ran
    cases ran
    rw [ValueExpr.literalsAll, spellings_append, List.flatMap_cons, numbers_value valid.1 found,
      numbers_values valid.2 known]
end

theorem numbers_update {change : Update} (valid : change.WellFormed) (ran : update layout change = .ok sql) :
    numbers sql = spellings (Query.update change).bareLiterals := by
  obtain ⟨assigned, found, ran⟩ := ok_of_bind ran
  obtain ⟨row, _, ran⟩ := ok_of_bind ran
  cases ran
  have table : numbers (partition change.table.name layout) = [] := rfl
  have assigned : numbers assigned = spellings (Query.update change).bareLiterals := by
    have known := valid.value
    unfold newValue at found
    simp only [Query.bareLiterals]
    generalize change.value = value at found known ⊢
    cases value with
    | literal constant =>
      cases found
      rfl
    | _ =>
      obtain ⟨shown, written, found⟩ := ok_of_bind found
      cases found
      simp [numbers_value known written]
  simp [assigned, table]

/-- The numbers that stand bare in the SQL of a query are those of its literals, as typed. -/
theorem numbers_ofQuery {query : Query} (valid : query.WellFormed) (ran : ofQuery layout query = .ok sql) :
    numbers sql = spellings query.bareLiterals := by
  cases query with
  | select wanted => exact numbers_select ran
  | update change => exact numbers_update valid ran

end Sql

/-- Every literal that is written bare is one of the query. -/
theorem Query.bareLiterals_sublist (query : Query) : query.bareLiterals.Sublist query.allLiterals := by
  cases query with
  | select wanted => exact List.Sublist.refl _
  | update change =>
    unfold bareLiterals
    simp only
    split
    · exact List.nil_sublist _
    · exact List.sublist_append_left _ _

theorem Query.allLiterals_wellFormed {query : Query} (valid : query.WellFormed) :
    ∀ literal ∈ query.allLiterals, literal.WellFormed := by
  cases query with
  | select wanted => exact Query.literals_wellFormed valid
  | update change =>
    refine List.forall_mem_append.mpr ⟨ValueExpr.literals_wellFormed valid.value, ?_⟩
    simpa using valid.rowId

namespace Literal.Numeric

variable {literal : Literal} (numeric : literal.Numeric)

include numeric

/-- A number that is spelled in ASCII is a numeral, and the value of the literal is the one of the numeral. -/
theorem numeral (ascii : literal.IsAscii) : ∃ numeral : Numeral,
    numeral.negative = false ∧ literal.text.toList = numeral.text ∧ literal.value = .decimal numeral.decimal := by
  obtain ⟨raw, number, typed, spelled, read, value⟩ := numeric
  have text : literal.text = raw := by simp [Literal.text, typed]
  rw [IsAscii, text] at ascii
  obtain ⟨whole, places, shown, behind, parts⟩ := spelled.parts
  have digits : ∀ c ∈ whole ++ places, Value.isAsciiDigit c = true := by
    intro c member
    have inside : c ∈ raw.toList := by
      rw [parts]
      by_cases none : places = []
      · simpa [none] using member
      · simpa [none] using (List.mem_append.mp member).imp_right Or.inr
    have digit : Text.isDigit c = true := by
      obtain first | last := List.mem_append.mp member
      · exact shown.2 c first
      · exact behind c last
    have code := code_of_isDigit digit
    have small := ascii c inside
    have range : 48 ≤ c.toNat ∧ c.toNat ≤ 57 := by omega
    simpa [Value.isAsciiDigit, Char.le_def, UInt32.le_iff_toNat_le] using range
  have same : raw.toList = Numeral.text ⟨false, whole, places, shown.1, digits⟩ := parts
  refine ⟨⟨false, whole, places, shown.1, digits⟩, rfl, text ▸ same, ?_⟩
  rw [value, ((Numeral.ofText?_of_shown (.inl same)).mp read).2]

end Literal.Numeric

theorem Numeral.ascii_text {numeral : Numeral} : ∀ c ∈ numeral.text, c.toNat < 128 := by
  intro c member
  obtain rfl | inside := mem_text member
  · decide
  · unfold magnitudeText at inside
    have digit_or_point : c ∈ numeral.whole ++ numeral.places ∨ c = '.' := by
      by_cases none : numeral.places = []
      · exact .inl (List.mem_append_left _ (by simpa [none] using inside))
      · simpa [none, or_assoc, or_comm, or_left_comm] using inside
    obtain digit | rfl := digit_or_point
    · have := Value.code_of_isAsciiDigit (numeral.ascii c digit)
      omega
    · decide

namespace Sql

variable {layout : Layout} {sql : Sql}

theorem Legible.of_mem {good other : Piece → Prop} (legible : Legible good sql)
    (implies : ∀ piece ∈ sql, good piece → other piece) : Legible other sql := by
  induction sql with
  | nil => trivial
  | cons piece rest ih =>
    obtain ⟨own, others⟩ := List.forall_mem_cons.mp implies
    exact ⟨own legible.1, legible.2.1, ih legible.2.2 others⟩

/-- Pieces of generated SQL are whole symbols when its numbers are. -/
theorem symbols_ofQuery (plain : layout.IsPlain) {query : Query} (valid : query.WellFormed)
    (ran : ofQuery layout query = .ok sql)
    (ascii : ∀ literal ∈ query.bareLiterals, literal.isNumber = true → literal.IsAscii) :
    symbolsFrom [] sql.marks = sql.symbols := by
  have suits : Suits fun piece => piece.isClean ∧ (piece.number? = none → piece.isWhole) :=
    ⟨fun _ clean => ⟨clean, fun _ => rfl⟩, fun _ => ⟨rfl, fun _ => rfl⟩, fun _ => ⟨rfl, fun _ => rfl⟩⟩
  have names (name : String) (member : name ∈ layout.names) :
      (Piece.name name).isClean ∧ ((Piece.name name).number? = none → (Piece.name name).isWhole) := by
    obtain ⟨named, line⟩ := plain name member
    exact ⟨isClean_name named, fun _ => isWhole_name named line⟩
  have numbers : NumbersGood (fun piece => piece.isClean ∧ (piece.number? = none → piece.isWhole)) query.literals := by
    intro literal member number
    exact ⟨isClean_number ((Query.literals_wellFormed valid literal member).numeric number), nofun⟩
  apply symbolsFrom_marks
  apply (legible_ofQuery suits names valid numbers ran).of_mem
  rintro piece member ⟨clean, whole⟩
  refine ⟨clean, ?_⟩
  cases shown : piece.number? with
  | none => exact whole shown
  | some text =>
    -- A number of the SQL is one of the query's, so its spelling is known.
    have inside : text ∈ sql.numbers := List.mem_filterMap.mpr ⟨piece, member, shown⟩
    rw [numbers_ofQuery valid ran, spellings, List.mem_map] at inside
    obtain ⟨typed, listed, rfl⟩ := inside
    obtain ⟨literal, known, typed⟩ := List.mem_filterMap.mp listed
    obtain ⟨number, same⟩ := Option.ite_none_right_eq_some.mp typed
    cases same
    obtain rfl := Piece.eq_of_number? shown
    have valid := Query.allLiterals_wellFormed valid literal (query.bareLiterals_sublist.mem known)
    exact isWhole_number (valid.numeric number) (ascii literal known number)

end Sql

/-- How the numbers of a source reach its SQL. -/
structure Query.NumbersReach (source : String) (layout : Layout) (query : Query) (sql : Sql) : Prop where
  /-- The numbers of the query are the number tokens of the source, in order. -/
  typed : query.allLiterals.filterMap Literal.typedNumber? =
    (tokenize (prepareInput source)).filterMap Token.typedNumber?
  /-- The numbers of the SQL are those of the query as typed, in order, but for the ones that are stored as text. -/
  bare : sql.numbers = spellings query.bareLiterals
  among : query.bareLiterals.Sublist query.allLiterals
  /-- A number is spelled with digits of any script, and its value is read from the same spelling. -/
  read : ∀ literal ∈ query.allLiterals, literal.isNumber = true → literal.Numeric
  /-- It is spelled in ASCII exactly when it is a numeral without a sign, and then it has the value of the numeral. -/
  ascii : ∀ literal ∈ query.allLiterals, literal.isNumber = true →
    (literal.IsAscii ↔ ∃ numeral : Numeral, numeral.negative = false ∧ literal.text.toList = numeral.text ∧
      literal.value = .decimal numeral.decimal)
  /-- Where the names of the layout are plain, the text outside of quotes is the fixed code, the names and the numbers;
  and where the numbers are spelled in ASCII as well, a database reads each of them as one number. -/
  outside : layout.IsPlain → Sql.scan sql.text = some sql.marks ∧
    ((∀ literal ∈ query.bareLiterals, literal.isNumber = true → literal.IsAscii) →
      Sql.symbolsFrom [] sql.marks = sql.symbols)

/-- The numbers of a source stand bare in its SQL with the digits that were typed, whatever their script. -/
theorem QuerySource.compile_numbers {source : String} {schema : Snapshot} {layout : Layout} {query : Query} {sql : Sql}
    (compiled : (QuerySource.text source).compile schema layout = .ok (.compiled query sql)) :
    query.NumbersReach source layout sql := by
  obtain ⟨read, written⟩ := QuerySource.parts_of_compiled compiled
  have valid : query.WellFormed := Query.wellFormed_of_read read
  have numeric (literal : Literal) (member : literal ∈ query.allLiterals) (number : literal.isNumber = true) :
      literal.Numeric := (Query.allLiterals_wellFormed valid literal member).numeric number
  constructor
  · exact Query.numbers_of_read read
  · exact Sql.numbers_ofQuery valid written
  · exact query.bareLiterals_sublist
  · exact numeric
  · intro literal member number
    constructor
    · exact (numeric literal member number).numeral
    · rintro ⟨numeral, _, same, _⟩
      rw [Literal.IsAscii, same]
      exact numeral.ascii_text
  · intro plain
    have clean (name : String) (member : name ∈ layout.names) : (Sql.Piece.name name).isClean :=
      Sql.isClean_name (plain name member).1
    exact ⟨Sql.scan_marks_ofQuery clean valid written, Sql.symbols_ofQuery plain valid written⟩

private theorem compiled_of_numbers (source : String) (schema : Snapshot) (layout : Layout) (numbers : List String)
    (shown : (match (QuerySource.text source).compile schema layout with
      | .ok (.compiled _ sql) => decide (sql.numbers = numbers)
      | _ => false) = true) :
    ∃ query sql, (QuerySource.text source).compile schema layout = .ok (.compiled query sql) ∧ sql.numbers = numbers := by
  split at shown
  next query sql compiled => exact ⟨query, sql, compiled, of_decide_eq_true shown⟩
  next => cases shown

/-- The row identifier is a number of the source, but stands between quotes in the SQL. -/
theorem QuerySource.compile_numbers_update : ∃ query sql,
    (QuerySource.text "UPDATE FORM 'f' SET FIELD('a') = CONCAT(FIELD('a'), 2.50) WHERE submission_id = 007").compile
        ⟨[.ofColumns "f" ["a"]]⟩ {} = .ok (.compiled query sql) ∧
      sql.numbers = ["2.50"] ∧
      query.NumbersReach
        "UPDATE FORM 'f' SET FIELD('a') = CONCAT(FIELD('a'), 2.50) WHERE submission_id = 007" {} sql := by
  obtain ⟨query, sql, compiled, numbers⟩ := compiled_of_numbers
    "UPDATE FORM 'f' SET FIELD('a') = CONCAT(FIELD('a'), 2.50) WHERE submission_id = 007"
    ⟨[.ofColumns "f" ["a"]]⟩ {} ["2.50"] (by decide +kernel)
  exact ⟨query, sql, compiled, numbers, QuerySource.compile_numbers compiled⟩

/-- A digit of another script stands bare in SQL. -/
theorem QuerySource.compile_numbers_script : ∃ query sql,
    (QuerySource.text "SELECT FIELD('c1') FROM 'f1' WHERE FIELD('c1') > \u0663").compile
        ⟨[.ofColumns "f1" ["c1", "c2"]]⟩ {} = .ok (.compiled query sql) ∧
      "\u0663" ∈ sql.numbers ∧ ¬ ∃ numeral : Numeral, "\u0663".toList = numeral.text := by
  obtain ⟨query, sql, compiled, numbers⟩ := compiled_of_numbers
    "SELECT FIELD('c1') FROM 'f1' WHERE FIELD('c1') > \u0663" ⟨[.ofColumns "f1" ["c1", "c2"]]⟩ {} ["\u0663"]
    (by decide +kernel)
  refine ⟨query, sql, compiled, by simp [numbers], ?_⟩
  rintro ⟨numeral, same⟩
  have small := numeral.ascii_text '\u0663' (by simp [← same])
  exact absurd small (by decide)

end FormQuery
