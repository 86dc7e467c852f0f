import FormQuery.Proofs.FilterAgreement
import FormQuery.Proofs.ResultShape

/-! Evaluation row by row. A sample is evaluated a column at a time, yet whether a row is kept and what is shown of it
follow from this row alone. A query over fields looks at documents only, so what it says of two samples together is what
it says of the one and then of the other. -/

namespace FormQuery

open Sql (aggregates_of_fieldsOnly)

variable {layout : Layout}

namespace Row

/-- The cell that a row has in a column; null where there is none. -/
def shown (layout : Layout) (row : Row) (ref : ColumnRef) : Value :=
  match row.cell ref layout with
  | .ok cell => cell
  | .error _ => .null

theorem column_shown {rows : List Row} {ref : ColumnRef} {cells : List Value}
    (ran : column rows ref layout = .ok cells) : cells = rows.map (·.shown layout ref) := by
  obtain ⟨long, each⟩ := column_cells ran
  refine List.ext_getElem (by simpa using long) fun index one two => ?_
  have own := each index (long ▸ one)
  simp [shown, own, one]

theorem shown_document (row : Row) {ref : ColumnRef} (field : ref.pseudo = false) :
    row.shown layout ref = (Row.mk [] row.document).shown layout ref := by
  have answers : row.answer ref.name = (Row.mk [] row.document).answer ref.name := rfl
  simp only [shown, cell, field, Bool.false_eq_true, if_false, answers]

def documentCell (row : Row) : Value :=
  match row.document with
  | .record fields =>
    match (Value.record fields).jsonText .plain with
    | .ok text => .text text
    | .error _ => .null
  | _ => .null

def starCells (layout : Layout) (row : Row) : List Value :=
  layout.pseudoColumns.map (fun (_, physical) => ((Fields.get? row.cells physical).getD .null).orNull) ++
    [row.documentCell]

end Row

/-- Whether a condition keeps a cell, when it is asked about this cell alone. -/
def Condition.keeps (condition : Condition) (cell : Value) : Bool := passes (· = [true]) (condition.mask [cell])

theorem Condition.mask_keeps {condition : Condition} {cells : List Value} {mask : List Bool}
    (ran : condition.mask cells = .ok mask) : mask = cells.map condition.keeps := by
  unfold Condition.mask at ran
  split at ran
  next same =>
    cases ran
    exact List.map_congr_left fun cell _ => by simp [keeps, Condition.mask, same, passes]
  next same =>
    cases ran
    exact List.map_congr_left fun cell _ => by simp [keeps, Condition.mask, same, passes]
  next =>
    split at ran
    next => cases ran
    next accepts known =>
      split at ran
      next number =>
        split at ran
        next => cases ran
        next right read =>
          refine eq_map_of_mapM ran fun cell _ kept found => ?_
          have alone : [cell].mapM (numberCell condition.operator accepts right) = .ok [kept] := by
            simp [found]
          simp [keeps, Condition.mask, known, number, read, alone, passes]
      next text =>
        cases ran
        exact List.map_congr_left fun cell _ => by simp [keeps, Condition.mask, known, text, passes]

theorem Condition.rowMask_keeps {condition : Condition} {rows : List Row} {mask : List Bool}
    (ran : condition.rowMask rows layout = .ok mask) :
    mask = rows.map fun row => condition.keeps (row.shown layout condition.column) := by
  obtain ⟨cells, read, ran⟩ := ok_of_bind ran
  rw [mask_keeps ran, Row.column_shown read, List.map_map]
  rfl

namespace Filter

def chainKeeps (layout : Layout) (row : Row) : Bool → List (Connector × Condition) → Bool
  | kept, [] => kept
  | kept, (connector, condition) :: rest =>
    chainKeeps layout row (connector.join kept (condition.keeps (row.shown layout condition.column))) rest

def keeps (layout : Layout) : Filter → Row → Bool
  | all, _ => true
  | empty, _ => false
  | chain first rest, row => chainKeeps layout row (first.keeps (row.shown layout first.column)) rest

theorem chainMask_keeps {rows : List Row} {rest : List (Connector × Condition)} {kept : Row → Bool} {mask : List Bool}
    (ran : chainMask rows layout (rows.map kept) rest = .ok mask) :
    mask = rows.map fun row => chainKeeps layout row (kept row) rest := by
  induction rest generalizing kept with
  | nil =>
    cases ran
    rfl
  | cons link rest ih =>
    obtain ⟨connector, condition⟩ := link
    obtain ⟨next, found, ran⟩ := ok_of_bind ran
    rw [Condition.rowMask_keeps found, List.zipWith_map, List.zipWith_self] at ran
    exact ih ran

theorem mask_keeps {filter : Filter} {rows : List Row} {mask : List Bool} (ran : filter.mask rows layout = .ok mask) :
    mask = rows.map (filter.keeps layout) := by
  cases filter with
  | all =>
    cases ran
    rfl
  | empty => cases ran
  | chain first rest =>
    obtain ⟨start, found, ran⟩ := ok_of_bind ran
    rw [Condition.rowMask_keeps found] at ran
    exact chainMask_keeps ran

theorem rows_keeps {filter : Filter} {rows kept : List Row} (ran : filter.rows rows layout = .ok kept) :
    kept = rows.filter (filter.keeps layout) := by
  unfold Filter.rows at ran
  split at ran
  next none =>
    cases ran
    simp [List.isEmpty_iff.mp none]
  next =>
    obtain ⟨mask, found, ran⟩ := ok_of_bind ran
    obtain rfl := mask_keeps found
    cases ran
    exact (filter_eq_masked rows (filter.keeps layout)).symm

theorem chainKeeps_congr {row other : Row} {rest : List (Connector × Condition)}
    (same : ∀ link ∈ rest, row.shown layout link.2.column = other.shown layout link.2.column) (kept : Bool) :
    chainKeeps layout row kept rest = chainKeeps layout other kept rest := by
  induction rest generalizing kept with
  | nil => rfl
  | cons link rest ih =>
    obtain ⟨first, others⟩ := List.forall_mem_cons.mp same
    rw [chainKeeps, chainKeeps, first]
    exact ih others _

/-- A filter tells rows apart by the columns that it compares. -/
theorem keeps_congr {filter : Filter} {row other : Row}
    (same : ∀ condition ∈ filter.conditions,
      row.shown layout condition.column = other.shown layout condition.column) :
    filter.keeps layout row = filter.keeps layout other := by
  cases filter with
  | all => rfl
  | empty => rfl
  | chain first rest =>
    simp only [conditions, List.forall_mem_cons, List.forall_mem_map] at same
    rw [keeps, keeps, same.1]
    exact chainKeeps_congr same.2 _

end Filter

namespace Select

def cells (layout : Layout) (wanted : Select) (row : Row) : List Value :=
  if wanted.star then row.starCells layout else wanted.columns.map fun ref => (row.shown layout ref).orNull

variable {wanted : Select}

theorem starTable_rows {rows : List Row} {table : ResultTable} (ran : starTable rows layout = .ok table) :
    table = ⟨layout.pseudoColumns.map Prod.fst ++ [layout.documentColumn], rows.map (·.starCells layout)⟩ := by
  obtain ⟨cells, found, ran⟩ := ok_of_bind ran
  cases ran
  congr 1
  refine eq_map_of_mapM found fun row _ shown ran => ?_
  cases shape : row.document with
  | record fields =>
    rw [shape] at ran
    obtain ⟨text, printed, ran⟩ := ok_of_bind ran
    cases ran
    simp only [Row.starCells, Row.documentCell, shape, printed]
  | null | bool | int | float | decimal | bytes | text | list =>
    rw [shape] at ran
    cases ran
    simp only [Row.starCells, Row.documentCell, shape]

theorem plainRows_rows (some_column : wanted.columns ≠ []) {rows : List Row} {shown : List (List Value)}
    (ran : wanted.plainRows rows layout = .ok shown) :
    shown = rows.map fun row => wanted.columns.map fun ref => (row.shown layout ref).orNull := by
  obtain ⟨columns, read, ran⟩ := ok_of_bind ran
  have known : columns = wanted.columns.map fun ref => rows.map (·.shown layout ref) :=
    eq_map_of_mapM read fun ref _ cells found => Row.column_shown found
  have cells : columns.map (fun cells => cells.map Value.orNull) =
      (wanted.columns.map fun ref (row : Row) => (row.shown layout ref).orNull).map rows.map := by
    rw [known, List.map_map, List.map_map]
    exact List.map_congr_left fun ref _ => List.map_map
  rw [if_neg (by simpa [known] using some_column)] at ran
  cases ran
  rw [cells, transpose_columns]
  exact List.map_congr_left fun row _ => List.map_map

/-- A listing shows the rows that its filter keeps, each on its own. -/
theorem evaluate_rows (valid : wanted.WellFormed) (listing : wanted.aggregates = []) {submissions : List Submission}
    {table : ResultTable} (ran : wanted.evaluate submissions layout = .ok table) :
    table = ⟨wanted.columnNames layout,
      ((Row.ofSubmissions submissions layout).filter (wanted.filter.keeps layout)).map (wanted.cells layout)⟩ := by
  obtain ⟨rows, filtered, ran⟩ := ok_of_bind ran
  rw [← Filter.rows_keeps filtered]
  have some_item := valid.columns
  split at ran
  next star =>
    rw [starTable_rows ran, columnNames, if_pos star]
    simp [cells, star]
  next listed =>
    rw [if_neg listed] at some_item
    simp only [listing, List.isEmpty_nil, if_true] at ran
    obtain ⟨shown, found, ran⟩ := ok_of_bind ran
    cases ran
    have several : wanted.columns ≠ [] := by
      have parts := length_columns_add wanted
      rw [listing, List.length_nil, Nat.add_zero] at parts
      rwa [← List.length_pos_iff, parts, List.length_pos_iff]
    rw [plainRows_rows several found, columnNames, if_neg listed]
    simp [cells, listed]

def shownOf (layout : Layout) (wanted : Select) (documents : List Value) : List (List Value) :=
  ((documents.map (Row.mk [])).filter (wanted.filter.keeps layout)).map (wanted.cells layout)

section Fields

variable (valid : wanted.WellFormed) (fields : wanted.FieldsOnly)

include fields

theorem FieldsOnly.keeps_document (row : Row) :
    wanted.filter.keeps layout row = wanted.filter.keeps layout ⟨[], row.document⟩ :=
  Filter.keeps_congr fun condition member => row.shown_document (fields.conditions condition member)

theorem FieldsOnly.cells_document (row : Row) : wanted.cells layout row = wanted.cells layout ⟨[], row.document⟩ := by
  simp only [cells, fields.listed, Bool.false_eq_true, if_false]
  exact List.map_congr_left fun ref member => by rw [row.shown_document (fields.columns ref member)]

theorem FieldsOnly.shown_rows (rows : List Row) :
    (rows.filter (wanted.filter.keeps layout)).map (wanted.cells layout) =
      wanted.shownOf layout (rows.map (·.document)) := by
  rw [shownOf, List.map_map, List.filter_map, List.map_map]
  have kept : wanted.filter.keeps layout ∘ (Row.mk [] ∘ (·.document)) = wanted.filter.keeps layout :=
    funext fun row => (fields.keeps_document row).symm
  rw [kept]
  exact List.map_congr_left fun row _ => fields.cells_document row

include valid

/-- A query over fields is evaluated on every sample, from its documents. -/
theorem FieldsOnly.evaluate_documents {records : List Submission} (readable : Readable layout records) :
    wanted.evaluate records layout = .ok ⟨wanted.items.map (·.outputName),
      wanted.shownOf layout (records.map (Row.fetched · layout.documentColumn))⟩ := by
  have listing := aggregates_of_fieldsOnly fields
  obtain ⟨table, ran⟩ := evaluate_runs valid fields.isPlaced listing readable
  rw [ran, evaluate_rows valid listing ran, fields.shown_rows, Row.documents_ofSubmissions, columnNames,
    if_neg (by simp [fields.listed])]

omit valid in
theorem FieldsOnly.length_of_shownOf {documents : List Value} {row : List Value}
    (member : row ∈ wanted.shownOf layout documents) : row.length = wanted.items.length := by
  have parts := length_columns_add wanted
  rw [aggregates_of_fieldsOnly fields, List.length_nil, Nat.add_zero] at parts
  obtain ⟨source, -, rfl⟩ := List.mem_map.mp member
  simp [cells, fields.listed, parts]

end Fields

theorem shownOf_append (wanted : Select) (first second : List Value) :
    wanted.shownOf layout (first ++ second) = wanted.shownOf layout first ++ wanted.shownOf layout second := by
  simp only [shownOf, List.map_append, List.filter_append]

/-- A query that treats each record on its own, by its document. -/
structure Rowwise (layout : Layout) (wanted : Select) : Prop where
  /-- It never fails, and its rows have as many cells as there are columns. -/
  full : ∀ records, Readable layout records → ∃ table, wanted.evaluate records layout = .ok table ∧
    table.columns = wanted.items.map (·.outputName) ∧ ∀ row ∈ table.rows, row.length = table.columns.length
  /-- Records that follow others add their rows to those of the others. -/
  append : ∀ first second, Readable layout first → Readable layout second → ∃ columns rows others,
    wanted.evaluate first layout = .ok ⟨columns, rows⟩ ∧ wanted.evaluate second layout = .ok ⟨columns, others⟩ ∧
      wanted.evaluate (first ++ second) layout = .ok ⟨columns, rows ++ others⟩
  documents : ∀ first second, Readable layout first →
    first.map (Row.fetched · layout.documentColumn) = second.map (Row.fetched · layout.documentColumn) →
      wanted.evaluate first layout = wanted.evaluate second layout

/-- Every query over fields that is read from a text treats each record on its own, in every layout. -/
theorem evaluate_rowwise {source : String} {wanted : Select} (read : Query.read source = .accepted (.select wanted))
    (fields : wanted.FieldsOnly) (layout : Layout) : wanted.Rowwise layout := by
  have valid : wanted.WellFormed := Query.wellFormed_of_read read
  constructor
  · intro records readable
    refine ⟨_, fields.evaluate_documents valid readable, rfl, fun row member => ?_⟩
    rw [fields.length_of_shownOf member, List.length_map]
  · intro first second one two
    have both : Readable layout (first ++ second) := List.forall_mem_append.mpr ⟨one, two⟩
    refine ⟨_, _, _, fields.evaluate_documents valid one, fields.evaluate_documents valid two, ?_⟩
    rw [fields.evaluate_documents valid both, List.map_append, shownOf_append]
  · intro first second one same
    have two : Readable layout second := fun record member => by
      have inside := List.mem_map_of_mem (f := (Row.fetched · layout.documentColumn)) member
      rw [← same] at inside
      obtain ⟨own, known, alike⟩ := List.mem_map.mp inside
      exact alike ▸ one own known
    rw [fields.evaluate_documents valid one, fields.evaluate_documents valid two, same]

def readsSelect (test : Select → Bool) : Reading → Bool
  | .accepted (.select wanted) => test wanted
  | _ => false

theorem select_of_reads {test : Select → Bool} {reading : Reading} (passed : readsSelect test reading = true) :
    ∃ wanted, reading = .accepted (.select wanted) ∧ test wanted = true := by
  unfold readsSelect at passed
  split at passed
  next wanted => exact ⟨wanted, rfl, passed⟩
  next => cases passed

/-- A field twice under two names, a number, a pattern and both connectors. -/
theorem evaluate_rowwise_mixed :
    let source := "SELECT FIELD('a') AS 'x', FIELD('b'), FIELD('a') FROM 'f' " ++
      "WHERE FIELD('n') >= 1.50 OR FIELD('a') LIKE '%z' AND FIELD('b') != ''"
    ∃ wanted, Query.read source = .accepted (.select wanted) ∧ wanted.FieldsOnly ∧ wanted.Rowwise {} := by
  intro source
  have shown : readsSelect (fun wanted => decide wanted.FieldsOnly) (Query.read source) = true := by decide +kernel
  obtain ⟨wanted, read, fields⟩ := select_of_reads shown
  have fields := of_decide_eq_true fields
  exact ⟨wanted, read, fields, evaluate_rowwise read fields {}⟩

end Select

end FormQuery
