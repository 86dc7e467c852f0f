import FormQuery.Proofs.ClauseReading
import FormQuery.Proofs.Quoting
import FormQuery.Proofs.UpdatePaths
import FormQuery.Sql.Statement

/-! The names of result columns. What a database reads in a compiled SELECT are the names under which the evaluator
shows its columns, in the same order, whatever is selected. -/

namespace FormQuery

/-- The names of the columns of a result: the system columns and the document, or the name of each item. -/
def Select.columnNames (layout : Layout) (wanted : Select) : List String :=
  if wanted.star then layout.pseudoColumns.map Prod.fst ++ [layout.documentColumn] else wanted.items.map (·.outputName)

namespace Sql

open Piece

variable {layout : Layout}

/-- Symbols that are read as one result column, whatever follows it, and the name of that column. -/
structure IsColumn (symbols : List Symbol) (name : String) : Prop where
  comma : ∀ rest, columnsFrom 0 [] (symbols ++ .sign "," :: rest) = (columnsFrom 0 [] rest).map (symbols :: ·)
  last : ∀ rest, columnsFrom 0 [] (symbols ++ .word "FROM" :: rest) = some [symbols]
  named : columnName? symbols = some name

/-- Symbols that go on with the result column that is being read. -/
def Continues (symbols : List Symbol) : Prop :=
  ∀ column rest, column ≠ [] → columnsFrom 0 column (symbols ++ rest) = columnsFrom 0 (column ++ symbols) rest

/-- Symbols that go on with it inside of parentheses. -/
def ContinuesInside (symbols : List Symbol) : Prop :=
  ∀ column rest, columnsFrom 1 column (symbols ++ rest) = columnsFrom 1 (column ++ symbols) rest

theorem Continues.nil : Continues [] := fun column rest _ => by simp

theorem Continues.append {first second : List Symbol} (before : Continues first) (behind : Continues second) :
    Continues (first ++ second) := by
  intro column rest started
  rw [List.append_assoc, before column _ started, behind _ _ (by simp [started]), List.append_assoc]

theorem ContinuesInside.append {first second : List Symbol} (before : ContinuesInside first)
    (behind : ContinuesInside second) : ContinuesInside (first ++ second) := by
  intro column rest
  rw [List.append_assoc, before, behind, List.append_assoc]

theorem continues_group {inner : List Symbol} (inside : ContinuesInside inner) :
    Continues (.sign "(" :: inner ++ [.sign ")"]) := by
  intro column rest started
  have opened : columnsFrom 0 column (.sign "(" :: inner ++ [.sign ")"] ++ rest) =
      columnsFrom 1 (column ++ [.sign "("]) (inner ++ .sign ")" :: rest) := by simp [columnsFrom]
  have closed : columnsFrom 1 (column ++ [.sign "("] ++ inner) (.sign ")" :: rest) =
      columnsFrom 0 (column ++ (.sign "(" :: inner ++ [.sign ")"])) rest := by simp [columnsFrom]
  rw [opened, inside, closed]

theorem continues_label (name : String) : Continues [.word "AS", .label name] := by
  intro column rest _
  simp [columnsFrom]

theorem Continues.isColumn {first : String} {symbols : List Symbol} (behind : Continues symbols) {name : String}
    (named : columnName? (.word first :: symbols) = some name) : IsColumn (.word first :: symbols) name := by
  have started (rest : List Symbol) :
      columnsFrom 0 [] (.word first :: symbols ++ rest) = columnsFrom 0 (.word first :: symbols) rest := by
    have start : columnsFrom 0 [] (.word first :: (symbols ++ rest)) =
        columnsFrom 0 [.word first] (symbols ++ rest) := by simp [columnsFrom]
    rw [List.cons_append, start, behind _ _ (by simp), List.singleton_append]
  constructor
  · intro rest
    rw [started]
    simp [columnsFrom]
  · intro rest
    rw [started]
    simp [columnsFrom]
  · exact named

theorem isColumn_word (name : String) : IsColumn [.word name] name := Continues.nil.isColumn rfl

theorem Continues.labelled {first : String} {symbols : List Symbol} (behind : Continues symbols) (name : String) :
    IsColumn (.word first :: symbols ++ [.word "AS", .label name]) name := by
  apply Continues.isColumn (behind.append (continues_label name))
  simp [columnName?]

inductive IsOperand : List Symbol → Prop
  | column (name : String) : IsOperand [.word name]
  | field (source key : String) : IsOperand (fieldSymbols source key)
  | cast (source key : String) : IsOperand (castSymbols source key)

theorem IsOperand.inside {symbols : List Symbol} (operand : IsOperand symbols) : ContinuesInside symbols := by
  intro column rest
  cases operand with
  | column name => simp [columnsFrom]
  | field source key => simp [fieldSymbols, columnsFrom]
  | cast source key => simp [castSymbols, fieldSymbols, columnsFrom]

theorem isOperand_column {ref : ColumnRef} {sql : Sql} (ran : column ref layout = .ok sql) : IsOperand sql.symbols := by
  cases pseudo : ref.pseudo with
  | true =>
    obtain ⟨physical, -, rfl⟩ := name_of_pseudo pseudo ran
    exact .column physical
  | false =>
    rw [plain_column ref pseudo] at ran
    cases ran
    exact .field layout.documentColumn ref.name

theorem isColumn_starColumn {pseudo physical : String} :
    IsColumn (symbols (if pseudo = physical then [name physical] else [name physical, code " AS ", label pseudo]))
      pseudo := by
  split
  next same => exact same ▸ isColumn_word pseudo
  next => exact Continues.labelled .nil pseudo

theorem isOperand_cast {ref : ColumnRef} {sql : Sql} (ran : column ref layout = .ok sql) (casts : Bool) :
    IsOperand (symbols (if casts && !ref.pseudo then guardedCast sql else sql)) := by
  cases pseudo : ref.pseudo with
  | true => simpa using isOperand_column ran
  | false =>
    rw [plain_column ref pseudo] at ran
    cases ran
    cases casts with
    | true => exact .cast layout.documentColumn ref.name
    | false => exact .field layout.documentColumn ref.name

theorem symbols_column {ref : ColumnRef} {sql : Sql} (ran : column ref layout = .ok sql) :
    ∃ first behind, sql.symbols = .word first :: behind ∧ Continues behind := by
  cases pseudo : ref.pseudo with
  | true =>
    obtain ⟨physical, -, rfl⟩ := name_of_pseudo pseudo ran
    exact ⟨physical, [], rfl, .nil⟩
  | false =>
    rw [plain_column ref pseudo] at ran
    cases ran
    refine ⟨layout.documentColumn, [.sign "->>", .literal ref.name], rfl, ?_⟩
    intro column rest _
    simp [columnsFrom]

/-- An aggregate starts with the name of a function, and goes on with what it is called with. -/
theorem symbols_aggregate {call : AggregateCall} {sql : Sql} (valid : call.WellFormed)
    (ran : aggregate call layout = .ok sql) :
    ∃ function behind, sql.symbols = .word function :: behind ∧ Continues behind := by
  have closing : symbols [code ")"] = [.sign ")"] := rfl
  unfold aggregate at ran
  split at ran
  next =>
    cases ran
    have star : ContinuesInside [.sign "*"] := fun column rest => by simp [columnsFrom]
    exact ⟨"COUNT", _, rfl, continues_group star⟩
  next ref shown =>
    obtain ⟨plain, found, ran⟩ := ok_of_bind ran
    have operand := isOperand_cast found (castsArgument call.function)
    simp only at ran
    generalize (if castsArgument call.function && !ref.pseudo then guardedCast plain else plain) = argument
      at ran operand
    split at ran
    next =>
      cases ran
      have opening : (Piece.code "percentile_cont(0.5) WITHIN GROUP (ORDER BY ").symbols =
          .word "percentile_cont" :: ([.sign "(", .number "0.5", .sign ")", .word "WITHIN", .word "GROUP"] ++
            [.sign "(", .word "ORDER", .word "BY"]) := rfl
      have share : Continues [.sign "(", .number "0.5", .sign ")", .word "WITHIN", .word "GROUP"] :=
        fun column rest _ => by simp [columnsFrom]
      have order : ContinuesInside [.word "ORDER", .word "BY"] := fun column rest => by simp [columnsFrom]
      refine ⟨"percentile_cont", _, ?_, share.append (continues_group (order.append operand.inside))⟩
      rw [symbols_append, symbols_cons, opening, closing]
      simp
    next =>
      cases ran
      have opening : (Piece.code (call.function.name ++ "(")).symbols = [.word call.function.name, .sign "("] := by
        have each : ∀ function ∈ Aggregate.known,
            (Piece.code (function.name ++ "(")).symbols = [.word function.name, .sign "("] := by decide
        exact each _ valid.known
      refine ⟨call.function.name, _, ?_, continues_group operand.inside⟩
      rw [symbols_append, symbols_cons, opening, closing]
      rfl

theorem isColumn_selectItem {item : SelectItem} {sql : Sql} (valid : item.expr.WellFormed)
    (ran : selectItem layout item = .ok sql) : IsColumn sql.symbols item.outputName := by
  have titled : symbols [code " AS ", label item.outputName] = [.word "AS", .label item.outputName] := rfl
  unfold selectItem at ran
  split at ran
  next call shown =>
    obtain ⟨summary, found, ran⟩ := ok_of_bind ran
    cases ran
    rw [shown] at valid
    obtain ⟨function, behind, starts, continues⟩ := symbols_aggregate valid found
    rw [symbols_append, starts, titled]
    exact continues.labelled item.outputName
  next ref shown =>
    obtain ⟨plain, found, ran⟩ := ok_of_bind ran
    split at ran
    -- A system column that has its own name already stands alone.
    next bare =>
      cases ran
      rw [Bool.and_eq_true, decide_eq_true_eq] at bare
      obtain ⟨physical, -, rfl⟩ := name_of_pseudo bare.1 found
      have own : item.outputName = physical := by simpa [text, Piece.text, String.join] using bare.2.symm
      exact own ▸ isColumn_word physical
    next =>
      cases ran
      obtain ⟨first, behind, starts, continues⟩ := symbols_column found
      rw [symbols_append, starts, titled]
      exact continues.labelled item.outputName

theorem isColumn_resultColumns {wanted : Select} (valid : wanted.WellFormed) {columns : List Sql}
    (ran : resultColumns layout wanted = .ok columns) :
    List.Forall₂ (fun sql name => IsColumn sql.symbols name) columns (wanted.columnNames layout) := by
  unfold resultColumns at ran
  unfold Select.columnNames
  split at ran
  next star =>
    cases ran
    rw [if_pos star]
    apply List.rel_append
    · rw [List.forall₂_map_left_iff, List.forall₂_map_right_iff, List.forall₂_same]
      exact fun _ _ => isColumn_starColumn
    · exact .cons (isColumn_word layout.documentColumn) .nil
  next listed =>
    rw [if_neg listed]
    exact forall₂_of_mapM ran fun item member sql found => isColumn_selectItem (valid.items item member) found

theorem columnsFrom_separated {columns : List Sql} {names : List String}
    (each : List.Forall₂ (fun sql name => IsColumn sql.symbols name) columns names) (some_column : columns ≠ [])
    (rest : List Symbol) :
    columnsFrom 0 [] (symbols (separated ", " columns) ++ .word "FROM" :: rest) = some (columns.map symbols) := by
  have comma : (Piece.code ", ").symbols = [.sign ","] := rfl
  induction each with
  | nil => exact absurd rfl some_column
  | @cons sql name columns names own others ih =>
    cases columns with
    | nil => exact own.last rest
    | cons next columns =>
      have parts : separated ", " (sql :: next :: columns) = sql ++ code ", " :: separated ", " (next :: columns) := rfl
      rw [parts, symbols_append, symbols_cons, comma, List.append_assoc, List.append_assoc, List.singleton_append,
        own.comma, ih (by simp)]
      rfl

theorem mapM_columnName? {columns : List Sql} {names : List String}
    (each : List.Forall₂ (fun sql name => IsColumn sql.symbols name) columns names) :
    (columns.map symbols).mapM columnName? = some names := by
  induction each with
  | nil => rfl
  | cons own others ih =>
    rw [List.map_cons, List.mapM_cons, own.named, ih]
    rfl

theorem columnNames?_columns {columns : List Sql} {names : List String}
    (each : List.Forall₂ (fun sql name => IsColumn sql.symbols name) columns names) (some_column : columns ≠ [])
    (rest : List Symbol) :
    columnNames? (.word "SELECT" :: (symbols (separated ", " columns) ++ .word "FROM" :: rest)) = some names := by
  have starts := skip_append [.word "SELECT"] (symbols (separated ", " columns) ++ .word "FROM" :: rest)
  rw [List.singleton_append] at starts
  simp only [columnNames?, starts, columnsFrom_separated each some_column, Option.bind_eq_bind, Option.bind_some,
    mapM_columnName? each]

theorem resultColumns_ne_nil {wanted : Select} (valid : wanted.WellFormed) {columns : List Sql}
    (ran : resultColumns layout wanted = .ok columns) : columns ≠ [] := by
  have whole := valid.columns
  rintro rfl
  unfold resultColumns at ran
  split at ran
  next star => simp [starColumns] at ran
  next listed =>
    rw [if_neg listed] at whole
    have same := mapM_eq_ok.mp ran
    exact whole (by simpa using same)

/-- The names in the symbols of a compiled SELECT, in every layout. -/
theorem columnNames?_select {wanted : Select} {sql : Sql} (valid : wanted.WellFormed)
    (ran : select layout wanted = .ok sql) : columnNames? sql.symbols = some (wanted.columnNames layout) := by
  obtain ⟨columns, conditions, keys, listed, -, -, rfl⟩ := select_eq_ok.mp ran
  have opening : (Piece.code "SELECT ").symbols = [.word "SELECT"] := rfl
  have closing : (Piece.code " FROM ").symbols = [.word "FROM"] := rfl
  have shape : symbols (statement layout wanted columns conditions keys) =
      .word "SELECT" :: (symbols (separated ", " columns) ++ .word "FROM" :: symbols (name layout.table ::
        code " WHERE " :: separated " AND " (partition wanted.table.name layout :: conditions) ++
          grouping wanted keys)) := by
    simp [statement, symbols_append, symbols_cons, opening, closing]
  rw [shape]
  exact columnNames?_columns (isColumn_resultColumns valid listed) (resultColumns_ne_nil valid listed) _

theorem shown_resultColumns (plain : layout.IsPlain) {wanted : Select} (valid : wanted.WellFormed) {columns : List Sql}
    (ran : resultColumns layout wanted = .ok columns) :
    shown (separated ", " columns) = symbols (separated ", " columns) :=
  symbolsFrom_marks
    (.separated suits_whole (by decide) (legible_resultColumns suits_whole (whole_names plain) valid ran))

/-- The names in its text, where the names of the layout are what a database takes for such. -/
theorem columnNamesOfText?_select {wanted : Select} {sql : Sql} (valid : wanted.WellFormed) (plain : layout.IsPlain)
    (ran : select layout wanted = .ok sql) : columnNamesOfText? sql.text = some (wanted.columnNames layout) := by
  have clean : ∀ name ∈ layout.names, (Piece.name name).isClean := fun name member => isClean_name (plain name member).1
  have read : symbolsOf? sql.text = some (shown sql) := by
    have query : (Query.select wanted).WellFormed := valid
    rw [symbolsOf?, scan_marks_ofQuery clean query ran]
    rfl
  obtain ⟨columns, conditions, keys, listed, -, -, rfl⟩ := select_eq_ok.mp ran
  have shape : statement layout wanted columns conditions keys = code "SELECT " :: (separated ", " columns ++
      code " FROM " :: (name layout.table :: code " WHERE " ::
        separated " AND " (partition wanted.table.name layout :: conditions) ++ grouping wanted keys)) := by
    simp [statement]
  have opening : shown [code "SELECT "] = [.word "SELECT"] := rfl
  have closing : shown [code " FROM "] = [.word "FROM"] := rfl
  rw [columnNamesOfText?, read, Option.bind_eq_bind, Option.bind_some, shape, shown_code (by decide), opening,
    shown_between (by decide), closing, shown_resultColumns plain valid listed]
  exact columnNames?_columns (isColumn_resultColumns valid listed) (resultColumns_ne_nil valid listed) _

end Sql

end FormQuery
