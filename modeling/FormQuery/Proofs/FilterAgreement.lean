import FormQuery.Compilation
import FormQuery.Proofs.ClauseReading
import FormQuery.Proofs.SampleRuns

/-! Filtering in a database and filtering a fetched sample. A clause is true for a row exactly when the mask of the
sample keeps it: a null is neither true in the one nor kept by the other, and both join conditions from left to
right. -/

namespace FormQuery

open Sql

variable {layout : Layout}

/-- A text in a cell; what is missing is null. -/
def Value.ofText? : Option String → Value
  | some content => .text content
  | none => .null

def Record.cell (layout : Layout) (record : Record) (key : String) : Value :=
  .ofText? (extracted record layout.documentColumn key)

theorem extracted_eq (record : Record) (column key : String) :
    extracted record column key = fieldText (Row.fetched record column) key := by
  unfold extracted Row.fetched
  cases Fields.get? record column <;> rfl

theorem Row.answer_eq {row : Row} {key : String} {cell : Value} (ran : row.answer key = .ok cell) :
    cell = .ofText? (fieldText row.document key) := by
  obtain ⟨cells, document⟩ := row
  cases document with
  | record document =>
    obtain ⟨text?, found, ran⟩ := ok_of_bind ran
    simp only [fieldText, found]
    cases text? <;> cases ran <;> rfl
  | null | bool | int | float | decimal | bytes | text | list =>
    cases ran
    rfl

/-- The rows of a sample hold the documents of its records. -/
def Hold (layout : Layout) (rows : List Row) (records : List Record) : Prop :=
  rows.map (·.document) = records.map (Row.fetched · layout.documentColumn)

theorem hold_ofSubmissions (records : List Record) (layout : Layout) :
    Hold layout (Row.ofSubmissions records layout) records :=
  Row.documents_ofSubmissions records layout

theorem column_fields {rows : List Row} {ref : ColumnRef} (field : ref.pseudo = false) {cells : List Value}
    (ran : Row.column rows ref layout = .ok cells) :
    cells = rows.map fun row => .ofText? (fieldText row.document ref.name) := by
  simp only [Row.column, field, Bool.false_eq_true, if_false] at ran
  exact eq_map_of_mapM ran fun row _ cell found => Row.answer_eq found

theorem column_cells {rows : List Row} {records : List Record} (hold : Hold layout rows records) {ref : ColumnRef}
    (field : ref.pseudo = false) {cells : List Value} (ran : Row.column rows ref layout = .ok cells) :
    cells = records.map (Record.cell layout · ref.name) := by
  calc cells = (rows.map (·.document)).map fun document => .ofText? (fieldText document ref.name) := by
        rw [column_fields field ran, List.map_map]; rfl
    _ = records.map (Record.cell layout · ref.name) := by
        rw [hold, List.map_map]
        exact List.map_congr_left fun record _ => by rw [Record.cell, extracted_eq]; rfl

theorem verdict_of_accepts {comparison : Comparison} {accepts : Ordering → Bool}
    (known : comparison.accepts? = some accepts) (order : Ordering) :
    verdict comparison order = some (accepts order) := by
  cases comparison <;> cases known <;> cases order <;> rfl

theorem textCell_ofText? {operator : Comparison} {accepts : Ordering → Bool} (known : operator.accepts? = some accepts)
    (content : String) (text? : Option String) :
    Condition.textCell accepts content (.ofText? text?) =
      (text?.bind (compareTexts operator · content) == some true) := by
  cases text? with
  | none => rfl
  | some text =>
    have ordered : compareTexts operator text content = some (accepts (compare text content)) := by
      rw [← verdict_of_accepts known]
      cases operator <;> first | rfl | cases known
    simp [Condition.textCell, Value.ofText?, Value.isMissing, Value.isBlankLeaf, Value.display, ordered]

theorem numberCell_ofText? {operator : Comparison} {accepts : Ordering → Bool}
    (known : operator.accepts? = some accepts) {right : Decimal} (finite : right.isFinite = true)
    (text? : Option String) :
    Condition.numberCell operator accepts right (.ofText? text?) =
      .ok (text?.bind (fun text => (Value.text text).number?.bind (compareNumbers operator · right)) == some true) := by
  cases text? with
  | none => rfl
  | some text =>
    simp only [Condition.numberCell, Value.ofText?, Option.bind_some]
    cases (Value.text text).number? with
    | none => rfl
    | some left =>
      simp only [Option.bind_some, compareNumbers]
      rcases compare?_of_finite left finite with ⟨found, ordered⟩ | ⟨ordered, missing⟩
      · have present : (Value.decimal left).isMissing = false := by
          cases left with
          | missing => cases ordered
          | finite | infinite => rfl
        simp [present, ordered, Comparison.numbers, verdict_of_accepts known]
      · simp [missing, ordered]

theorem likeCell_ofText? (pattern : String) (anyCase : Bool) (text? : Option String) :
    Condition.likeCell pattern anyCase (.ofText? text?) =
      (text?.bind (compareTexts (if anyCase then .ilike else .like) · pattern) == some true) := by
  cases text? with
  | none => rfl
  | some text => cases anyCase <;> simp [Condition.likeCell, Value.ofText?, Value.isNull, Value.display, compareTexts]

/-- A condition keeps the cells for which its clause is true. -/
theorem Condition.mask_eq {condition : Condition} (valid : condition.WellFormed) (records : List Record) :
    condition.mask (records.map (Record.cell layout · condition.column.name)) =
      .ok (records.map (condition.clause layout).selects) := by
  rcases valid.value with quoted | numeric
  · have plain := quoted.isNumber
    obtain ⟨content, value, _⟩ := quoted
    have truth (record : Record) : (condition.clause layout).selects record =
        ((extracted record layout.documentColumn condition.column.name).bind
          (compareTexts condition.operator · content) == some true) := by
      rw [Condition.clause_of_text value]
      rfl
    have pointwise {cell : Value → Bool}
        (same : ∀ text?, cell (.ofText? text?) =
          (text?.bind (compareTexts condition.operator · content) == some true)) :
        (records.map (Record.cell layout · condition.column.name)).map cell =
          records.map (condition.clause layout).selects := by
      rw [List.map_map]
      exact List.map_congr_left fun record _ => (same _).trans (truth record).symm
    rcases accepts?_of_known valid.known with like | ilike | ⟨accepts, known⟩
    · simp only [mask, value, Value.display, like] at pointwise ⊢
      rw [pointwise (likeCell_ofText? content false)]
    · simp only [mask, value, Value.display, ilike] at pointwise ⊢
      rw [pointwise (likeCell_ofText? content true)]
    · rw [mask_ordered known]
      simp only [value, Value.display, plain, Bool.false_eq_true, if_false]
      rw [pointwise (textCell_ofText? known content)]
  · have number := numeric.isNumber
    obtain ⟨raw, right, typed, spelled, read, value⟩ := numeric
    have finite := Decimal.isFinite_of_spelled spelled read
    have truth (record : Record) : (condition.clause layout).selects record =
        ((extracted record layout.documentColumn condition.column.name).bind
          (fun text => (Value.text text).number?.bind (compareNumbers condition.operator · right)) == some true) := by
      rw [Condition.clause_of_number value]
      rfl
    have ordered : ∃ accepts, condition.operator.accepts? = some accepts := by
      have plain : condition.operator.isPattern ≠ true := fun pattern => by
        simp [(valid.pattern pattern).isNumber] at number
      rcases accepts?_of_known valid.known with like | ilike | ordered
      · exact absurd (by rw [like]; rfl) plain
      · exact absurd (by rw [ilike]; rfl) plain
      · exact ordered
    obtain ⟨accepts, known⟩ := ordered
    have typed : Decimal.ofText? condition.value.text = some right := by simpa [Literal.text, typed] using read
    rw [mask_ordered known]
    simp only [number, if_true, typed]
    rw [mapM_eq_ok, List.map_map, List.map_map]
    refine List.map_congr_left fun record _ => ?_
    simp only [Function.comp_apply, truth, Record.cell]
    exact numberCell_ofText? known finite _

section Filters

variable {rows : List Row} {records : List Record} (hold : Hold layout rows records)

include hold

theorem Condition.rowMask_eq {condition : Condition} (valid : condition.WellFormed)
    (field : condition.column.pseudo = false) {mask : List Bool} (ran : condition.rowMask rows layout = .ok mask) :
    mask = records.map (condition.clause layout).selects := by
  obtain ⟨cells, read, ran⟩ := ok_of_bind ran
  rw [column_cells hold field read, mask_eq valid] at ran
  exact (Except.ok.inj ran).symm

omit hold in
/-- Joining masks joins truths: unknown is kept by neither. -/
theorem selects_connector (connector : Connector) (left right : Clause) (record : Record) :
    (connector.clause left right).selects record = connector.join (left.selects record) (right.selects record) := by
  cases connector with
  | and =>
    simp only [Connector.clause, Connector.join, Clause.selects, Clause.truth]
    rcases left.truth record with _ | _ | _ <;> rcases right.truth record with _ | _ | _ <;> rfl
  | or | other =>
    simp only [Connector.clause, Connector.join, Clause.selects, Clause.truth]
    rcases left.truth record with _ | _ | _ <;> rcases right.truth record with _ | _ | _ <;> rfl

theorem Filter.chainMask_eq {rest : List (Connector × Condition)} (valid : ∀ link ∈ rest, link.2.WellFormed)
    (fields : ∀ link ∈ rest, link.2.column.pseudo = false) {clause : Clause} {mask : List Bool}
    (ran : Filter.chainMask rows layout (records.map clause.selects) rest = .ok mask) :
    mask = records.map (Filter.chainClause layout clause rest).selects := by
  induction rest generalizing clause with
  | nil => exact (Except.ok.inj ran).symm
  | cons link rest ih =>
    obtain ⟨connector, condition⟩ := link
    obtain ⟨known, valid⟩ := List.forall_mem_cons.mp valid
    obtain ⟨field, fields⟩ := List.forall_mem_cons.mp fields
    obtain ⟨next, found, ran⟩ := ok_of_bind ran
    obtain rfl := Condition.rowMask_eq hold known field found
    refine ih valid fields ?_
    have joined :
        List.zipWith connector.join (records.map clause.selects) (records.map (condition.clause layout).selects) =
        records.map (connector.clause clause (condition.clause layout)).selects := by
      rw [List.zipWith_map, List.zipWith_self]
      exact List.map_congr_left fun record _ => (selects_connector connector clause _ record).symm
    rwa [joined] at ran

def Filter.wants (layout : Layout) (filter : Filter) (record : Record) : Bool :=
  match filter.clause? layout with
  | none => true
  | some clause => clause.selects record

theorem Filter.mask_eq {filter : Filter} (valid : filter.WellFormed)
    (fields : ∀ condition ∈ filter.conditions, condition.column.pseudo = false) {mask : List Bool}
    (ran : filter.mask rows layout = .ok mask) : mask = records.map (filter.wants layout) := by
  cases filter with
  | all =>
    obtain rfl := Except.ok.inj ran
    have size : rows.length = records.length := by simpa using congrArg List.length hold
    have every : Filter.all.wants layout = fun _ => true := rfl
    simp [every, List.map_const', size]
  | empty => cases valid
  | chain first rest =>
    obtain ⟨start, found, ran⟩ := ok_of_bind ran
    simp only [conditions, List.forall_mem_cons, List.forall_mem_map] at fields
    obtain rfl := Condition.rowMask_eq hold valid.1 fields.1 found
    exact Filter.chainMask_eq hold (fun link member => (valid.2 link member).2) fields.2 ran

omit hold in
/-- Selecting rows by a mask selects the documents of the records that the mask was made of. -/
theorem hold_filter {rows : List Row} {records : List Record} (hold : Hold layout rows records)
    (wants : Record → Bool) :
    Hold layout (((rows.zip (records.map wants)).filter Prod.snd).map Prod.fst) (records.filter wants) := by
  induction records generalizing rows with
  | nil => simp [Hold]
  | cons record records ih =>
    cases rows with
    | nil => cases hold
    | cons row rows =>
      simp only [Hold, List.map_cons, List.cons.injEq] at hold ih ⊢
      have rest := ih hold.2
      cases wanted : wants record with
      | true => simpa [wanted, hold.1] using rest
      | false => simpa [wanted] using rest

theorem Filter.rows_hold {filter : Filter} (valid : filter.WellFormed)
    (fields : ∀ condition ∈ filter.conditions, condition.column.pseudo = false) {kept : List Row}
    (ran : filter.rows rows layout = .ok kept) : Hold layout kept (records.filter (filter.wants layout)) := by
  unfold Filter.rows at ran
  split at ran
  next empty =>
    cases ran
    obtain rfl : rows = [] := by simpa using empty
    obtain rfl : records = [] := by simpa [Hold] using hold
    rfl
  next =>
    obtain ⟨mask, found, ran⟩ := ok_of_bind ran
    obtain rfl := Filter.mask_eq hold valid fields found
    cases ran
    exact hold_filter hold _

end Filters

def Select.shown (layout : Layout) (wanted : Select) (record : Record) : List Value :=
  wanted.columns.map fun ref => Record.cell layout record ref.name

/-- Columns that are read off rows give the rows back. -/
theorem transpose_columns {α β : Type} (rows : List α) (columns : List (α → β)) :
    Group.transpose rows.length (columns.map rows.map) = rows.map fun row => columns.map (· row) := by
  refine List.ext_getElem (by simp [Group.transpose]) fun index below _ => ?_
  have inside : index < rows.length := by simpa [Group.transpose] using below
  have picked : ((·[index]?) ∘ rows.map) = fun column : α → β => some (column rows[index]) := by
    funext column
    simp [List.getElem?_eq_getElem inside]
  simp only [Group.transpose, List.getElem_map, List.getElem_range, List.filterMap_map, picked, List.filterMap_eq_map']

theorem Select.FieldsOnly.columns {wanted : Select} (fields : wanted.FieldsOnly) :
    ∀ ref ∈ wanted.columns, ref.pseudo = false := by
  intro ref member
  obtain ⟨item, inside, shown⟩ := List.mem_filterMap.mp member
  obtain ⟨own, same, plain⟩ := SelectExpr.column_of_isField (fields.items item inside)
  rw [same] at shown
  exact Option.some.inj shown ▸ plain

theorem Select.FieldsOnly.columns_ne_nil {wanted : Select} (fields : wanted.FieldsOnly) (valid : wanted.WellFormed) :
    wanted.columns ≠ [] := by
  have some_item := valid.columns
  rw [fields.listed] at some_item
  obtain ⟨item, items, shape⟩ := List.exists_cons_of_ne_nil (by simpa using some_item)
  obtain ⟨ref, same, _⟩ := SelectExpr.column_of_isField (fields.items item (by simp [shape]))
  simp [Select.columns, shape, same]

theorem Select.FieldsOnly.isPlaced {wanted : Select} (fields : wanted.FieldsOnly) : wanted.IsPlaced layout := by
  intro ref member
  apply ColumnRef.isPlaced_of_field
  obtain listed | compared := List.mem_append.mp member
  · obtain ⟨item, inside, shown⟩ := List.mem_filterMap.mp listed
    obtain ⟨own, same, plain⟩ := SelectExpr.column_of_isField (fields.items item inside)
    rw [same] at shown
    exact Option.some.inj shown ▸ plain
  · obtain ⟨condition, inside, rfl⟩ := List.mem_map.mp compared
    exact fields.conditions condition inside

theorem orNull_cell (record : Record) (key : String) :
    (Record.cell layout record key).orNull = Record.cell layout record key := by
  unfold Record.cell
  cases extracted record layout.documentColumn key <;> rfl

theorem Select.plainRows_eq {wanted : Select} (valid : wanted.WellFormed) (fields : wanted.FieldsOnly)
    {rows : List Row} {records : List Record} (hold : Hold layout rows records) {shown : List (List Value)}
    (ran : wanted.plainRows rows layout = .ok shown) : shown = records.map (wanted.shown layout) := by
  obtain ⟨columns, read, ran⟩ := ok_of_bind ran
  have known : columns = wanted.columns.map fun ref => records.map (Record.cell layout · ref.name) :=
    eq_map_of_mapM read fun ref member cells found => column_cells hold (fields.columns ref member) found
  have size : rows.length = records.length := by simpa using congrArg List.length hold
  have some_column : columns.isEmpty = false := by simpa [known] using fields.columns_ne_nil valid
  rw [some_column] at ran
  have cells : columns.map (fun cells => cells.map Value.orNull) =
      (wanted.columns.map fun ref => (Record.cell layout · ref.name)).map records.map := by
    simp only [known, List.map_map]
    exact List.map_congr_left fun ref _ => by simp [Function.comp_def, orNull_cell]
  obtain rfl := Except.ok.inj ran
  rw [cells, size, transpose_columns]
  exact List.map_congr_left fun record _ => by rw [Select.shown, List.map_map]; rfl

theorem Select.evaluate_eq {wanted : Select} (valid : wanted.WellFormed) (fields : wanted.FieldsOnly)
    {records : List Record} {table : ResultTable} (ran : wanted.evaluate records layout = .ok table) :
    table = ⟨wanted.items.map (·.outputName),
      (records.filter (wanted.filter.wants layout)).map (wanted.shown layout)⟩ := by
  obtain ⟨rows, filtered, ran⟩ := ok_of_bind ran
  have hold := Filter.rows_hold (hold_ofSubmissions records layout) valid.filter fields.conditions filtered
  simp only [fields.listed, aggregates_of_fieldsOnly fields, Bool.false_eq_true, if_false, List.isEmpty_nil,
    if_true] at ran
  obtain ⟨shown, projected, ran⟩ := ok_of_bind ran
  obtain rfl := Except.ok.inj ran
  rw [Select.plainRows_eq valid fields hold projected]

section Documents

variable {rows : List Row} {records : List Record} (hold : Hold layout rows records)
  (json : ∀ record ∈ records, (Row.fetched record layout.documentColumn).IsJson)

include hold json

theorem Filter.mask_succeeds {filter : Filter} (valid : filter.WellFormed)
    (fields : ∀ condition ∈ filter.conditions, condition.column.pseudo = false) :
    ∃ mask, filter.mask rows layout = .ok mask := by
  refine mask_runs (fun row member _ _ => ?_) valid fun condition inside =>
    ColumnRef.isPlaced_of_field (fields condition inside)
  have inside : row.document ∈ records.map (Row.fetched · layout.documentColumn) :=
    hold ▸ List.mem_map_of_mem member
  obtain ⟨record, own, same⟩ := List.mem_map.mp inside
  exact same ▸ json record own

omit hold in
theorem Select.evaluate_succeeds {wanted : Select} (valid : wanted.WellFormed) (fields : wanted.FieldsOnly) :
    ∃ table, wanted.evaluate records layout = .ok table :=
  evaluate_runs valid fields.isPlaced (aggregates_of_fieldsOnly fields) fun record member _ _ => json record member

end Documents

def Record.isOf (layout : Layout) (table : String) (record : Record) : Bool :=
  columnText record layout.partitionColumn = some table

theorem selects_ownClause (wanted : Select) (record : Record) :
    (wanted.ownClause layout).selects record = Record.isOf layout wanted.table.name record := by
  simp only [Select.ownClause, Clause.selects, Clause.truth, Operand.compare, Record.isOf]
  cases columnText record layout.partitionColumn with
  | none => rfl
  | some text =>
    simp only [Option.bind_some, compareTexts, verdict, Option.some.injEq]
    by_cases same : text = wanted.table.name
    · simp [same]
    · have apart : compare text wanted.table.name ≠ .eq := fun equal =>
        same (Std.LawfulEqOrd.compare_eq_iff_eq.mp equal)
      simp [same, apart]

theorem filter_clause (wanted : Select) (records : List Record) :
    records.filter (wanted.clause layout).selects =
      (records.filter (Record.isOf layout wanted.table.name)).filter (wanted.filter.wants layout) := by
  rw [List.filter_filter]
  refine List.filter_congr fun record _ => ?_
  unfold Select.clause Filter.wants
  cases wanted.filter.clause? layout with
  | none => simp [selects_ownClause]
  | some clause =>
    have joined := selects_connector .and (wanted.ownClause layout) clause record
    simp only [Connector.clause, Connector.join, selects_ownClause] at joined
    rw [joined, Bool.and_comm]

theorem QuerySource.parts_of_compiled {source : String} {schema : Snapshot} {query : Query} {sql : Sql}
    (compiled : (QuerySource.text source).compile schema layout = .ok (.compiled query sql)) :
    Query.read source = .accepted query ∧ Sql.ofQuery layout query = .ok sql := by
  simp only [compile, QuerySource.read] at compiled
  split at compiled
  next => cases compiled
  next => cases compiled
  next found shown =>
    obtain ⟨rfl, _, written⟩ := Compilation.parts_of_ofQuery compiled
    exact ⟨shown, written⟩

/-- A mask picks what a filter picks. -/
theorem filter_eq_masked {α : Type} (items : List α) (wants : α → Bool) :
    items.filter wants = ((items.zip (items.map wants)).filter Prod.snd).map Prod.fst := by
  induction items with
  | nil => rfl
  | cons item items ih => cases wanted : wants item <;> simp [wanted, ih]

/-- A clause selects rows as the evaluator does: of the rows of the form, given to the evaluator, exactly the ones that
the mask keeps, in the same order, and the result shows these. Masks and results exist when the documents are JSON. -/
structure Agrees (layout : Layout) (wanted : Select) (clause : Clause) (records own : List Record) : Prop where
  masked : ∀ mask, wanted.filter.mask (Row.ofSubmissions own layout) layout = .ok mask →
    records.filter clause.selects = ((own.zip mask).filter Prod.snd).map Prod.fst
  evaluated : ∀ table, wanted.evaluate own layout = .ok table →
    table = ⟨wanted.items.map (·.outputName), (records.filter clause.selects).map (wanted.shown layout)⟩
  evaluates : (∀ record ∈ own, (Row.fetched record layout.documentColumn).IsJson) →
    (∃ mask, wanted.filter.mask (Row.ofSubmissions own layout) layout = .ok mask) ∧
      ∃ table, wanted.evaluate own layout = .ok table

/-- The WHERE clause of a compiled SELECT over fields is read by a database as a clause that selects as the evaluator
does. It is read from the symbols of the statement in every layout, and from its text where names are plain. -/
theorem Select.clause_agrees {source : String} {schema : Snapshot} {wanted : Select} {sql : Sql}
    (compiled : (QuerySource.text source).compile schema layout = .ok (.compiled (.select wanted) sql))
    (fields : wanted.FieldsOnly) (ascii : wanted.AsciiNumbers) :
    ∃ clause, Clause.ofSymbols sql.symbols = some clause ∧ (layout.IsPlain → Clause.ofText sql.text = some clause) ∧
      ∀ records : List Record,
        Agrees layout wanted clause records (records.filter (Record.isOf layout wanted.table.name)) := by
  obtain ⟨read, written⟩ := QuerySource.parts_of_compiled compiled
  have valid : wanted.WellFormed := Query.wellFormed_of_read read
  refine ⟨wanted.clause layout, ofSymbols_select valid fields written,
    fun plain => ofText_select valid fields plain ascii written, fun records => ?_⟩
  have selected : records.filter (wanted.clause layout).selects =
      (records.filter (Record.isOf layout wanted.table.name)).filter (wanted.filter.wants layout) :=
    filter_clause wanted records
  generalize records.filter (Record.isOf layout wanted.table.name) = own at selected
  have whole := hold_ofSubmissions own layout
  constructor
  · intro mask found
    obtain rfl := Filter.mask_eq whole valid.filter fields.conditions found
    rw [selected, filter_eq_masked]
  · intro table found
    rw [selected]
    exact Select.evaluate_eq valid fields found
  · intro json
    exact ⟨Filter.mask_succeeds whole json valid.filter fields.conditions, Select.evaluate_succeeds json valid fields⟩

private def showsFields : Except Fault Compilation → Bool
  | .ok (.compiled (.select wanted) _) => decide (wanted.FieldsOnly ∧ wanted.AsciiNumbers)
  | _ => false

private theorem fields_of_shown (outcome : Except Fault Compilation) (shown : showsFields outcome = true) :
    ∃ wanted sql, outcome = .ok (.compiled (.select wanted) sql) ∧ wanted.FieldsOnly ∧ wanted.AsciiNumbers := by
  unfold showsFields at shown
  split at shown
  next wanted sql => exact ⟨wanted, sql, rfl, of_decide_eq_true shown⟩
  next => cases shown

/-- Both connectors, a pattern, a number and a doubled quote in one statement. -/
theorem Select.clause_agrees_mixed : ∃ wanted sql,
    (QuerySource.text
        "SELECT FIELD('a') FROM 'f' WHERE FIELD('a') = 'it''s' OR FIELD('n') > 1.50 AND FIELD('b') ILIKE '%z'").compile
        ⟨[.ofColumns "f" ["a", "b", "n"]]⟩ {} =
        .ok (.compiled (.select wanted) sql) ∧
    wanted.FieldsOnly ∧ wanted.AsciiNumbers ∧
    ∃ clause, Clause.ofSymbols sql.symbols = some clause ∧
      (({} : Layout).IsPlain → Clause.ofText sql.text = some clause) ∧
      ∀ records : List Record, Agrees {} wanted clause records (records.filter (Record.isOf {} wanted.table.name)) := by
  obtain ⟨wanted, sql, compiled, fields, ascii⟩ := fields_of_shown
    ((QuerySource.text
      "SELECT FIELD('a') FROM 'f' WHERE FIELD('a') = 'it''s' OR FIELD('n') > 1.50 AND FIELD('b') ILIKE '%z'").compile
      ⟨[.ofColumns "f" ["a", "b", "n"]]⟩ {}) (by decide +kernel)
  exact ⟨wanted, sql, compiled, fields, ascii, Select.clause_agrees compiled fields ascii⟩

end FormQuery
