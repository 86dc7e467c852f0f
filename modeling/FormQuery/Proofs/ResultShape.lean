import FormQuery.Proofs.GroupKeys
import FormQuery.Proofs.ResultColumns

/-! The shape of a result that is evaluated over rows: its columns are those that the SQL names, every row has a cell
for each of them, and there are as many rows as the filter keeps, one, or as many as there are different keys. -/

namespace FormQuery

namespace Row

def cell (row : Row) (ref : ColumnRef) (layout : Layout) : Except Fault Value := do
  if ref.pseudo then
    let physical ← layout.physical ref.name
    return (Fields.get? row.cells physical).getD .null
  else row.answer ref.name

/-- The key of a row: what its cells in some columns are as keys. -/
def key (row : Row) (refs : List ColumnRef) (layout : Layout) : Except Fault (List Group.Key) :=
  refs.mapM fun ref => (row.cell ref layout).map Group.Key.ofCell

variable {rows : List Row} {layout : Layout}

theorem column_cells {ref : ColumnRef} {cells : List Value} (ran : column rows ref layout = .ok cells) :
    cells.length = rows.length ∧
      ∀ index (inside : index < rows.length), rows[index].cell ref layout = .ok (cells.getD index .null) := by
  unfold column at ran
  split at ran
  next pseudo =>
    obtain ⟨physical, found, ran⟩ := ok_of_bind ran
    cases ran
    refine ⟨by simp, fun index inside => ?_⟩
    rw [cell, if_pos pseudo, bind_ok found]
    simp [inside]
    rfl
  next field =>
    have long := length_of_mapM ran
    refine ⟨long, fun index inside => ?_⟩
    have same := congrArg (·[index]?) (mapM_eq_ok.mp ran)
    rw [cell, if_neg field]
    simpa [inside, long] using same

theorem columns_full {refs : List ColumnRef} {columns : List (List Value)}
    (ran : refs.mapM (column rows · layout) = .ok columns) : ∀ cells ∈ columns, cells.length = rows.length := by
  intro cells member
  obtain ⟨ref, -, found⟩ := mem_of_mapM ran member
  exact (column_cells found).1

theorem mapM_key {refs : List ColumnRef} {columns : List (List Value)}
    (ran : refs.mapM (column rows · layout) = .ok columns) :
    rows.mapM (·.key refs layout) = .ok ((List.range rows.length).map fun index =>
      columns.map fun cells => Group.Key.ofCell (cells.getD index .null)) := by
  rw [mapM_eq_ok]
  apply List.ext_getElem
  · simp
  · intro index one two
    have inside : index < rows.length := by simpa using one
    have each : columns.map (fun cells => Except.ok (Group.Key.ofCell (cells.getD index .null))) =
        refs.map fun ref => (rows[index].cell ref layout).map Group.Key.ofCell := by
      apply map_of_mapM ran
      intro ref _ cells found
      rw [(column_cells found).2 index inside]
      rfl
    have own : rows[index].key refs layout =
        .ok (columns.map fun cells => Group.Key.ofCell (cells.getD index .null)) := by
      rw [key, mapM_eq_ok, ← each, List.map_map]
      rfl
    simpa using own

end Row

namespace Select

variable {wanted : Select} {rows : List Row} {layout : Layout}

theorem length_columns_add (wanted : Select) :
    wanted.columns.length + wanted.aggregates.length = wanted.items.length := by
  unfold columns aggregates
  induction wanted.items with
  | nil => rfl
  | cons item items ih =>
    cases shape : item.expr <;> simp [shape] <;> omega

theorem length_groupRow {group : List Row} {items : List SelectItem} {keys cells : List Value}
    (ran : groupRow layout group items keys = .ok cells) : cells.length = items.length := by
  induction items generalizing keys cells with
  | nil =>
    cases ran
    rfl
  | cons item items ih =>
    unfold groupRow at ran
    split at ran
    next =>
      obtain ⟨rest, others, ran⟩ := ok_of_bind ran
      cases ran
      rw [List.length_cons, ih others, List.length_cons]
    next =>
      obtain ⟨value, _, ran⟩ := ok_of_bind ran
      obtain ⟨rest, others, ran⟩ := ok_of_bind ran
      cases ran
      rw [List.length_cons, ih others, List.length_cons]

/-- The shape of a result over the rows that a filter keeps. -/
structure Shaped (layout : Layout) (wanted : Select) (rows : List Row) (table : ResultTable) : Prop where
  columns : table.columns = wanted.columnNames layout
  cells : ∀ row ∈ table.rows, row.length = table.columns.length
  plain : wanted.aggregates = [] → table.rows.length = rows.length
  single : wanted.aggregates ≠ [] → wanted.columns = [] → table.rows.length = 1
  grouped : wanted.aggregates ≠ [] → wanted.columns ≠ [] →
    ∃ keys, rows.mapM (·.key wanted.columns layout) = .ok keys ∧ table.rows.length = keys.eraseDups.length

theorem starTable_shaped (valid : wanted.WellFormed) (star : wanted.star = true) {table : ResultTable}
    (ran : starTable rows layout = .ok table) : Shaped layout wanted rows table := by
  have none := valid.columns
  rw [if_pos star] at none
  obtain ⟨cells, listed, ran⟩ := ok_of_bind ran
  cases ran
  constructor
  · rw [columnNames, if_pos star]
  · intro row member
    obtain ⟨source, -, shown⟩ := mem_of_mapM listed member
    simp only at shown
    split at shown
    next =>
      obtain ⟨text, -, shown⟩ := ok_of_bind shown
      cases shown
      simp
    next =>
      cases shown
      simp
  · intro _
    exact length_of_mapM listed
  · intro several
    simp [aggregates, none] at several
  · intro several
    simp [aggregates, none] at several

theorem plainRows_length {cells : List (List Value)} (some_column : wanted.columns ≠ [])
    (ran : wanted.plainRows rows layout = .ok cells) :
    cells.length = rows.length ∧ ∀ row ∈ cells, row.length = wanted.columns.length := by
  obtain ⟨columns, found, ran⟩ := ok_of_bind ran
  have count := length_of_mapM found
  have full : ∀ column ∈ columns.map fun cells => cells.map Value.orNull, column.length = rows.length := by
    simpa using Row.columns_full found
  split at ran
  next empty =>
    rw [List.isEmpty_iff] at empty
    subst empty
    exact absurd (List.length_eq_zero_iff.mp count.symm) some_column
  next =>
    cases ran
    rw [Group.transpose_eq .null full]
    refine ⟨by simp, ?_⟩
    simp [count]

theorem groupedRows_length {cells : List (List Value)} (ran : wanted.groupedRows rows layout = .ok cells) :
    (∀ row ∈ cells, row.length = wanted.items.length) ∧
      ∃ keys, rows.mapM (·.key wanted.columns layout) = .ok keys ∧ cells.length = keys.eraseDups.length := by
  obtain ⟨columns, found, ran⟩ := ok_of_bind ran
  have known := Row.mapM_key found
  split at ran
  next empty =>
    cases ran
    rw [List.isEmpty_iff] at empty
    subst empty
    exact ⟨nofun, [], rfl, rfl⟩
  next =>
    obtain ⟨groups, made, ran⟩ := ok_of_bind ran
    refine ⟨?_, _, known, ?_⟩
    · intro row member
      obtain ⟨⟨keys, group⟩, -, shown⟩ := mem_of_mapM ran member
      exact length_groupRow shown
    · rw [length_of_mapM ran, Group.length_ofRows (Row.columns_full found) made]

theorem evaluate_shaped (valid : wanted.WellFormed) {submissions : List Submission} {table : ResultTable}
    (ran : wanted.evaluate submissions layout = .ok table) :
    ∃ rows, wanted.filter.rows (Row.ofSubmissions submissions layout) layout = .ok rows ∧
      Shaped layout wanted rows table := by
  obtain ⟨rows, kept, ran⟩ := ok_of_bind ran
  refine ⟨rows, kept, ?_⟩
  have parts := length_columns_add wanted
  have some_column := valid.columns
  split at ran
  next star => exact starTable_shaped valid star ran
  next listed =>
    rw [if_neg listed] at some_column
    have names : wanted.items.map (·.outputName) = wanted.columnNames layout := (if_neg listed).symm
    simp only at ran
    split at ran
    next plain =>
      obtain ⟨cells, found, ran⟩ := ok_of_bind ran
      cases ran
      rw [List.isEmpty_iff] at plain
      rw [plain, List.length_nil, Nat.add_zero] at parts
      -- All items are columns here, so there is one to count the rows by.
      have several : wanted.columns ≠ [] := by
        rwa [← List.length_pos_iff, parts, List.length_pos_iff]
      obtain ⟨count, wide⟩ := plainRows_length several found
      refine ⟨names, fun row member => ?_, fun _ => count, fun other => absurd plain other,
        fun other => absurd plain other⟩
      rw [wide row member, parts, List.length_map]
    next some_aggregate =>
      rw [List.isEmpty_iff] at some_aggregate
      split at ran
      next grouped =>
        obtain ⟨cells, found, ran⟩ := ok_of_bind ran
        cases ran
        obtain ⟨wide, keys⟩ := groupedRows_length found
        have mixed : wanted.columns ≠ [] := by
          simp only [isGrouped, Bool.and_eq_true, Bool.not_eq_true', List.isEmpty_eq_false_iff] at grouped
          exact grouped.2
        refine ⟨names, fun row member => ?_, fun none => absurd none some_aggregate, fun _ none => absurd none mixed,
          fun _ _ => keys⟩
        rw [wide row member, List.length_map]
      next single =>
        obtain ⟨cells, found, ran⟩ := ok_of_bind ran
        cases ran
        have none : wanted.columns = [] := by
          simpa [isGrouped, some_aggregate] using single
        rw [none, List.length_nil, Nat.zero_add] at parts
        refine ⟨names, fun row member => ?_, fun other => absurd other some_aggregate, fun _ _ => rfl,
          fun _ other => absurd none other⟩
        rw [List.mem_singleton.mp member, length_of_mapM found, parts, List.length_map]

/-- The SQL of a SELECT and its evaluation name the same columns, whatever the layout, and in the text where its names
are plain; and the result has the shape that is wanted. -/
theorem evaluate_matches {source : String} {schema : Snapshot} {sql : Sql} {submissions : List Submission}
    {table : ResultTable}
    (compiled : (QuerySource.text source).compile schema layout = .ok (.compiled (.select wanted) sql))
    (evaluated : wanted.evaluate submissions layout = .ok table) :
    Sql.columnNames? sql.symbols = some table.columns ∧
      (layout.IsPlain → Sql.columnNamesOfText? sql.text = some table.columns) ∧
      ∃ rows, wanted.filter.rows (Row.ofSubmissions submissions layout) layout = .ok rows ∧
        Shaped layout wanted rows table := by
  obtain ⟨read, written⟩ := QuerySource.parts_of_compiled compiled
  have valid : wanted.WellFormed := Query.wellFormed_of_read read
  obtain ⟨rows, kept, shaped⟩ := evaluate_shaped valid evaluated
  rw [shaped.columns]
  exact ⟨Sql.columnNames?_select valid written, fun plain => Sql.columnNamesOfText?_select valid plain written, rows,
    kept, shaped⟩

def passesSelect (test : Select → Sql → Bool) : Except Fault Compilation → Bool
  | .ok (.compiled (.select wanted) sql) => test wanted sql
  | _ => false

theorem select_of_passes {test : Select → Sql → Bool} {result : Except Fault Compilation}
    (passed : passesSelect test result = true) :
    ∃ wanted sql, result = .ok (.compiled (.select wanted) sql) ∧ test wanted sql = true := by
  unfold passesSelect at passed
  split at passed
  next wanted sql => exact ⟨wanted, sql, rfl, passed⟩
  next => cases passed

/-- Columns and aggregates in turn, one item twice, over a group of two rows and a row without the field. -/
theorem evaluate_matches_mixed :
    let source := "SELECT FIELD('a') AS 'it''s', COUNT(*), FIELD('a'), MIN(submission_id) FROM 'f'"
    let row (id : String) (document : Fields) : Submission :=
      [("form_id", .text "f"), ("id", .text id), ("submission_data", .record document)]
    let submissions := [row "r1" [("a", .text "x")], row "r2" [], row "r3" [("a", .text "x")]]
    ∃ wanted sql table,
      (QuerySource.text source).compile ⟨[.ofColumns "f" ["a"]]⟩ {} = .ok (.compiled (.select wanted) sql) ∧
      wanted.evaluate submissions {} = .ok table ∧
      table.columns = ["it's", "count", "a", "min_submission_id"] ∧ table.rows.length = 2 ∧
      Sql.columnNames? sql.symbols = some table.columns ∧
      (({} : Layout).IsPlain → Sql.columnNamesOfText? sql.text = some table.columns) ∧
      ∃ rows, wanted.filter.rows (Row.ofSubmissions submissions {}) {} = .ok rows ∧ Shaped {} wanted rows table := by
  intro source row submissions
  have shown : passesSelect (fun wanted _ => passes (fun table =>
      table.columns = ["it's", "count", "a", "min_submission_id"] && table.rows.length = 2)
        (wanted.evaluate submissions {})) ((QuerySource.text source).compile ⟨[.ofColumns "f" ["a"]]⟩ {}) = true := by
    decide +kernel
  obtain ⟨wanted, sql, compiled, shown⟩ := select_of_passes shown
  obtain ⟨table, evaluated, shown⟩ := ok_of_passes shown
  obtain ⟨names, count⟩ : table.columns = ["it's", "count", "a", "min_submission_id"] ∧ table.rows.length = 2 := by
    simpa using shown
  exact ⟨wanted, sql, table, compiled, evaluated, names, count, evaluate_matches compiled evaluated⟩

end Select

end FormQuery
