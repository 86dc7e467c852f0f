import FormQuery.Proofs.RowwiseEvaluation

/-! Types of system columns. The cells of a column have one type over the whole sample, so an integer or a null can
become a floating-point number because of another record. This is all that a record knows of the others: where the
columns that a listing looks at keep their types, the records are selected and shown as they were before others were
added. A sample has the columns of its layout one by one when these are apart. -/

namespace FormQuery

variable {layout : Layout}

namespace Value

/-- A cell as a column holds it that has floating-point numbers throughout, or none by force. -/
def typed (floating : Bool) (cell : Value) : Value := if floating then cell.toFloating else cell

theorem unifyCells_eq (cells : List Value) :
    unifyCells cells = cells.map (typed (CellKinds.ofCells cells).isFloating) := by
  unfold unifyCells
  split
  next floating =>
    rw [floating]
    rfl
  next plain =>
    rw [Bool.not_eq_true] at plain
    rw [plain]
    exact (List.map_id cells).symm

end Value

namespace CellKinds

theorem foldl_add_of_other {kinds : CellKinds} (settled : kinds.other = true) (cells : List Value) :
    cells.foldl add kinds = kinds := by
  induction cells with
  | nil => rfl
  | cons cell cells ih =>
    have kept : kinds.add cell = kinds := if_pos settled
    rw [List.foldl_cons, kept, ih]

theorem isFloating_of_text {cells : List Value} {content : String} (member : .text content ∈ cells) :
    (ofCells cells).isFloating = false := by
  obtain ⟨before, behind, rfl⟩ := List.append_of_mem member
  have settled : ((before.foldl add {}).add (.text content)).other = true := by
    unfold add
    split
    next known => exact known
    next => rfl
  rw [ofCells, List.foldl_append, List.foldl_cons, foldl_add_of_other settled, isFloating, settled]
  rfl

theorem isFloating_of_nulls {cells : List Value} (nulls : ∀ cell ∈ cells, cell = .null) :
    (ofCells cells).isFloating = false := by
  have folded : ∀ kinds : CellKinds, kinds.fraction = false ∧ kinds.missing = false ∧ kinds.whole = false →
      (cells.foldl add kinds).isFloating = false := by
    induction cells with
    | nil =>
      intro kinds ⟨fraction, missing, whole⟩
      simp [isFloating, fraction, missing, whole]
    | cons cell cells ih =>
      intro kinds none
      obtain ⟨rfl, others⟩ := List.forall_mem_cons.mp nulls
      refine ih others _ ?_
      unfold add
      split
      · exact none
      · exact none
  exact folded {} ⟨rfl, rfl, rfl⟩

end CellKinds

theorem Value.unifyCells_of_texts {cells : List Value} (texts : ∀ cell ∈ cells, ∃ text?, cell = ofText? text?) :
    unifyCells cells = cells := by
  have plain : (CellKinds.ofCells cells).isFloating = false := by
    by_cases shown : ∃ content, .text content ∈ cells
    · obtain ⟨content, member⟩ := shown
      exact CellKinds.isFloating_of_text member
    · refine CellKinds.isFloating_of_nulls fun cell member => ?_
      obtain ⟨text?, rfl⟩ := texts cell member
      cases text? with
      | none => rfl
      | some content => exact absurd ⟨content, member⟩ shown
  unfold unifyCells
  rw [if_neg (by simp [plain])]

theorem Fields.get?_map {α : Type} (names : List String) (value : String → α) (name : String) :
    get? (names.map fun name => (name, value name)) name = if name ∈ names then some (value name) else none := by
  induction names with
  | nil => rfl
  | cons first rest ih =>
    by_cases same : first = name
    · simp [get?, same]
    · simp [get?, same, ih, Ne.symm same]

theorem Layout.mem_distinct {names : List String} {name : String} : name ∈ distinct names ↔ name ∈ names := by
  have folded (kept : List String) :
      name ∈ names.foldl (fun kept name => if name ∈ kept then kept else kept ++ [name]) kept ↔
        name ∈ kept ∨ name ∈ names := by
    induction names generalizing kept with
    | nil => simp
    | cons first rest ih =>
      rw [List.foldl_cons, ih]
      split
      next known => simp only [List.mem_cons]; grind
      next => simp only [List.mem_append, List.mem_cons, List.not_mem_nil, or_false, or_assoc]
  simpa [distinct] using folded []

theorem Layout.distinct_cons {name : String} {names : List String} (fresh : name ∉ names) :
    distinct (name :: names) = name :: distinct names := by
  have folded (kept : List String) :
      names.foldl (fun kept name => if name ∈ kept then kept else kept ++ [name]) (name :: kept) =
        name :: names.foldl (fun kept name => if name ∈ kept then kept else kept ++ [name]) kept := by
    induction names generalizing kept with
    | nil => rfl
    | cons first rest ih =>
      have other : first ≠ name := (List.ne_of_not_mem_cons fresh).symm
      have fresh : name ∉ rest := List.not_mem_of_not_mem_cons fresh
      simp only [List.foldl_cons, List.mem_cons, other, false_or]
      split
      next => exact ih fresh kept
      next => exact ih fresh (kept ++ [first])
  exact folded []

theorem Layout.distinct_columns (apart : layout.Apart) :
    distinct (layout.partitionColumn :: layout.pseudoColumns.map Prod.snd) ++ [layout.documentColumn] =
      layout.sampleColumns := by
  have alone : layout.partitionColumn ∉ distinct (layout.pseudoColumns.map Prod.snd) := fun member =>
    (List.nodup_cons.mp apart).1 (List.mem_append_left _ member)
  rw [distinct_cons fun member => alone (mem_distinct.mpr member)]
  rfl

/-- Fetched rows have the columns of a sample, where these are apart. -/
theorem Layout.recordColumns_eq (apart : layout.Apart) : layout.recordColumns = layout.sampleColumns := by
  rw [← distinct_columns apart, recordColumns, distinct, List.foldl_cons, List.foldl_map]
  rfl

example : Layout.Apart {} := by decide

theorem Layout.mem_of_physical {name physical : String} (found : layout.physical name = .ok physical) :
    physical ∈ layout.pseudoColumns.map Prod.snd := by
  unfold Layout.physical at found
  split at found
  next column own =>
    cases found
    exact List.mem_map_of_mem (Fields.mem_of_get? own)
  next => cases found

namespace Row

def isFloating (submissions : List Submission) (column : String) : Bool :=
  (CellKinds.ofCells (submissions.map (fetched · column))).isFloating

def systemColumns (layout : Layout) : List String :=
  Layout.distinct (layout.partitionColumn :: layout.pseudoColumns.map Prod.snd)

def ofSubmission (layout : Layout) (floating : String → Bool) (submission : Submission) : Row :=
  ⟨(systemColumns layout).map fun column => (column, (fetched submission column).typed (floating column)),
    fetched submission layout.documentColumn⟩

theorem zipCells_map {α : Type} (names : List String) (cell : String → α → Value) (document : α → Value)
    (items : List α) :
    zipCells (names.map fun name => (name, items.map (cell name))) (items.map document) =
      items.map fun item => ⟨names.map fun name => (name, cell name item), document item⟩ := by
  induction items with
  | nil => rfl
  | cons item items ih =>
    simp only [List.map_cons, zipCells, List.map_map, Function.comp_def, List.head?_cons, Option.getD_some,
      List.tail_cons, ih]

theorem ofSubmissions_eq (submissions : List Submission) (layout : Layout) :
    ofSubmissions submissions layout = submissions.map (ofSubmission layout (isFloating submissions)) := by
  have columns : (systemColumns layout).map (fun name => (name, Value.unifyCells (submissions.map (fetched · name)))) =
      (systemColumns layout).map fun name =>
        (name, submissions.map fun submission => (fetched submission name).typed (isFloating submissions name)) := by
    refine List.map_congr_left fun name _ => ?_
    rw [Value.unifyCells_eq, List.map_map]
    rfl
  unfold ofSubmissions
  exact (congrArg (zipCells · _) columns).trans (zipCells_map _ _ _ _)

theorem columns_ofSubmissions (apart : layout.Apart) {submissions : List Submission} {row : Row}
    (member : row ∈ ofSubmissions submissions layout) :
    row.cells.map Prod.fst ++ [layout.documentColumn] = layout.sampleColumns := by
  rw [ofSubmissions_eq] at member
  obtain ⟨submission, -, rfl⟩ := List.mem_map.mp member
  rw [← Layout.distinct_columns apart, ofSubmission, List.map_map]
  exact congrArg (· ++ [layout.documentColumn]) (List.map_id _)

theorem get?_ofSubmission {floating : String → Bool} {submission : Submission} {column : String}
    (known : column ∈ layout.pseudoColumns.map Prod.snd) :
    Fields.get? (ofSubmission layout floating submission).cells column =
      some ((fetched submission column).typed (floating column)) := by
  have inside : column ∈ systemColumns layout := Layout.mem_distinct.mpr (List.mem_cons_of_mem _ known)
  exact (Fields.get?_map _ _ _).trans (if_pos inside)

theorem shown_ofSubmission {floating : String → Bool} {submission : Submission} {ref : ColumnRef} {physical : String}
    (pseudo : ref.pseudo = true) (found : layout.physical ref.name = .ok physical) :
    (ofSubmission layout floating submission).shown layout ref =
      (fetched submission physical).typed (floating physical) := by
  have known := Layout.mem_of_physical found
  have cell : (ofSubmission layout floating submission).cell ref layout =
      .ok ((fetched submission physical).typed (floating physical)) := by
    rw [Row.cell, if_pos pseudo, bind_ok found, get?_ofSubmission known]
    rfl
  rw [shown, cell]

/-- Records keep their cells in a column when others are added: the column keeps its type, or its type makes no
difference to them. -/
def KeepsCells (records more : List Submission) (column : String) : Prop :=
  isFloating (records ++ more) column = isFloating records column ∨
    ∀ record ∈ records, (fetched record column).toFloating = fetched record column

/-- No weaker condition keeps the cells. -/
theorem keepsCells_iff {records more : List Submission} {column : String} :
    KeepsCells records more column ↔ ∀ record ∈ records,
      (fetched record column).typed (isFloating (records ++ more) column) =
        (fetched record column).typed (isFloating records column) := by
  unfold KeepsCells Value.typed
  cases isFloating (records ++ more) column <;> cases isFloating records column <;> simp [eq_comm]

theorem keepsCells_of_text {records more : List Submission} {column content : String}
    (shows : .text content ∈ records.map (fetched · column)) : KeepsCells records more column := by
  refine .inl ?_
  have longer : .text content ∈ (records ++ more).map (fetched · column) := by
    rw [List.map_append]
    exact List.mem_append_left _ shows
  rw [isFloating, isFloating, CellKinds.isFloating_of_text shows, CellKinds.isFloating_of_text longer]

end Row

namespace Select

/-- A listing looks at a system column: it compares it or shows it. -/
def LooksAt (layout : Layout) (wanted : Select) (physical : String) : Prop :=
  (wanted.star = true ∧ physical ∈ layout.pseudoColumns.map Prod.snd) ∨
    ∃ ref ∈ (Query.select wanted).columnRefs, ref.pseudo = true ∧ layout.physical ref.name = .ok physical

variable {wanted : Select} {records more : List Submission}

section Beside

variable (keeps : ∀ physical, wanted.LooksAt layout physical → Row.KeepsCells records more physical)
  {record : Submission} (member : record ∈ records)

include keeps member

theorem shown_beside {ref : ColumnRef} (looked : ref ∈ (Query.select wanted).columnRefs) :
    (Row.ofSubmission layout (Row.isFloating (records ++ more)) record).shown layout ref =
      (Row.ofSubmission layout (Row.isFloating records) record).shown layout ref := by
  cases pseudo : ref.pseudo with
  | false =>
    exact (Row.shown_document (Row.ofSubmission layout (Row.isFloating (records ++ more)) record) pseudo).trans
      (Row.shown_document (Row.ofSubmission layout (Row.isFloating records) record) pseudo).symm
  | true =>
    cases found : layout.physical ref.name with
    | error fault => simp [Row.shown, Row.cell, pseudo, found, bind, Except.bind]
    | ok physical =>
      rw [Row.shown_ofSubmission pseudo found, Row.shown_ofSubmission pseudo found]
      exact Row.keepsCells_iff.mp (keeps physical (.inr ⟨ref, looked, pseudo, found⟩)) record member

theorem keeps_beside :
    wanted.filter.keeps layout (Row.ofSubmission layout (Row.isFloating (records ++ more)) record) =
      wanted.filter.keeps layout (Row.ofSubmission layout (Row.isFloating records) record) :=
  Filter.keeps_congr fun _ compared =>
    shown_beside keeps member (List.mem_append_right _ (List.mem_map_of_mem compared))

theorem cells_beside :
    wanted.cells layout (Row.ofSubmission layout (Row.isFloating (records ++ more)) record) =
      wanted.cells layout (Row.ofSubmission layout (Row.isFloating records) record) := by
  unfold cells
  split
  next star =>
    simp only [Row.starCells]
    congr 1
    refine List.map_congr_left fun column inside => ?_
    have known : column.2 ∈ layout.pseudoColumns.map Prod.snd := List.mem_map_of_mem (f := Prod.snd) inside
    simp only [Row.get?_ofSubmission known, Option.getD_some]
    rw [Row.keepsCells_iff.mp (keeps column.2 (.inl ⟨star, known⟩)) record member]
  next =>
    refine List.map_congr_left fun ref shown => ?_
    rw [shown_beside keeps member (mem_columnRefs_of_columns shown)]

end Beside

/-- The records that come first are selected and shown as they are without those that are added. -/
structure Undisturbed (layout : Layout) (wanted : Select) (records more : List Submission) : Prop where
  selected : ∀ mask longer, wanted.filter.mask (Row.ofSubmissions records layout) layout = .ok mask →
    wanted.filter.mask (Row.ofSubmissions (records ++ more) layout) layout = .ok longer →
      mask.length = records.length ∧ ∃ others, longer = mask ++ others
  shown : ∀ table longer, wanted.evaluate records layout = .ok table →
    wanted.evaluate (records ++ more) layout = .ok longer →
      longer.columns = table.columns ∧ ∃ others, longer.rows = table.rows ++ others
  /-- All of them are looked at when the documents are JSON, or no records. -/
  runs : layout.Complete → Readable layout (records ++ more) →
    (∃ mask, wanted.filter.mask (Row.ofSubmissions records layout) layout = .ok mask) ∧
    (∃ mask, wanted.filter.mask (Row.ofSubmissions (records ++ more) layout) layout = .ok mask) ∧
    (∃ table, wanted.evaluate records layout = .ok table) ∧
    ∃ table, wanted.evaluate (records ++ more) layout = .ok table
  /-- What is compared and shown, integers included, is what is stored, unless the column holds floating-point
  numbers. -/
  stored : ∀ ref ∈ (Query.select wanted).columnRefs, ref.pseudo = true →
    ∀ physical, layout.physical ref.name = .ok physical → Row.isFloating (records ++ more) physical = false →
      ∀ cells, Row.column (Row.ofSubmissions (records ++ more) layout) ref layout = .ok cells →
        cells = (records ++ more).map (Row.fetched · physical)

/-- A listing that is read from a text selects and shows records beside others as without them, if the columns that it
looks at keep their cells. -/
theorem evaluate_beside {source : String} {wanted : Select} (read : Query.read source = .accepted (.select wanted))
    (listing : wanted.aggregates = []) {records more : List Submission}
    (keeps : ∀ physical, wanted.LooksAt layout physical → Row.KeepsCells records more physical) :
    wanted.Undisturbed layout records more := by
  have valid : wanted.WellFormed := Query.wellFormed_of_read read
  constructor
  · intro mask longer found after
    rw [Filter.mask_keeps found, Filter.mask_keeps after, Row.ofSubmissions_eq, Row.ofSubmissions_eq, List.map_map,
      List.map_map, List.map_append]
    refine ⟨by simp, _, congrArg (· ++ _) ?_⟩
    exact List.map_congr_left fun record member => keeps_beside keeps member
  · intro table longer found after
    rw [evaluate_rows valid listing found, evaluate_rows valid listing after, Row.ofSubmissions_eq,
      Row.ofSubmissions_eq, List.map_append, List.filter_append, List.map_append]
    refine ⟨rfl, _, congrArg (· ++ _) ?_⟩
    rw [List.filter_map, List.filter_map, List.map_map, List.map_map]
    have same :
        records.filter (wanted.filter.keeps layout ∘ Row.ofSubmission layout (Row.isFloating (records ++ more))) =
          records.filter (wanted.filter.keeps layout ∘ Row.ofSubmission layout (Row.isFloating records)) :=
      List.filter_congr fun record member => keeps_beside keeps member
    rw [same]
    exact List.map_congr_left fun record kept => cells_beside keeps (List.mem_filter.mp kept).1
  · intro complete readable
    have placed := valid.isPlaced complete
    have first : Readable layout records := (List.forall_mem_append.mp readable).1
    exact ⟨Filter.mask_runs (Row.readable_ofSubmissions first) valid.filter placed.conditions,
      Filter.mask_runs (Row.readable_ofSubmissions readable) valid.filter placed.conditions,
      evaluate_runs valid placed listing first, evaluate_runs valid placed listing readable⟩
  · intro ref _ pseudo physical found plain cells ran
    rw [Row.column_shown ran, Row.ofSubmissions_eq, List.map_map]
    refine List.map_congr_left fun record _ => ?_
    rw [Function.comp_apply, Row.shown_ofSubmission pseudo found, plain]
    rfl

theorem LooksAt.known {physical : String} (looks : wanted.LooksAt layout physical) :
    physical ∈ layout.pseudoColumns.map Prod.snd := by
  obtain ⟨-, known⟩ | ⟨ref, -, -, found⟩ := looks
  · exact known
  · exact Layout.mem_of_physical found

/-- Texts next to a null, and integers next to integers. -/
theorem evaluate_beside_integers :
    let source := "SELECT submission_id, submitted_by, FIELD('a') FROM 'f' " ++
      "WHERE submitted_by = '7' OR submission_id > 'r'"
    let row (id user time : Value) : Submission :=
      [("form_id", .text "f"), ("id", id), ("submitted_by", user), ("created_at", time)]
    let records := [row (.text "r1") (.int 7) (.text "t"), row .null (.int 8) .null]
    let more := [row (.int 5) (.int 7) (.float 0.5)]
    ∃ wanted, Query.read source = .accepted (.select wanted) ∧ wanted.aggregates = [] ∧
      (∀ physical, wanted.LooksAt {} physical → Row.KeepsCells records more physical) ∧
      wanted.Undisturbed {} records more := by
  intro source row records more
  have shown : readsSelect (fun wanted => wanted.aggregates.isEmpty) (Query.read source) = true := by decide +kernel
  obtain ⟨wanted, read, listing⟩ := select_of_reads shown
  have listing := List.isEmpty_iff.mp listing
  have keeps : ∀ physical, wanted.LooksAt {} physical → Row.KeepsCells records more physical := by
    intro physical looks
    have known : physical = "id" ∨ physical = "submitted_by" ∨ physical = "created_at" := by
      simpa [pseudoColumns] using looks.known
    obtain rfl | rfl | rfl := known
    · exact Row.keepsCells_of_text (List.mem_cons_self ..)
    · exact .inl (by decide +kernel)
    · exact Row.keepsCells_of_text (List.mem_cons_self ..)
  exact ⟨wanted, read, listing, keeps, evaluate_beside read listing keeps⟩

/-- An integer that is selected by its text is not selected any more when the identifier of another record is null. -/
theorem integer_disturbed :
    let source := "SELECT submission_id FROM 'f' WHERE submission_id = '5'"
    let records : List Submission := [[("form_id", .text "f"), ("id", .int 5)]]
    let more : List Submission := [[("form_id", .text "f"), ("id", .null)]]
    ∃ wanted table longer, Query.read source = .accepted (.select wanted) ∧ wanted.aggregates = [] ∧
      wanted.evaluate records {} = .ok table ∧ wanted.evaluate (records ++ more) {} = .ok longer ∧
      table.rows.length = 1 ∧ longer.rows = [] ∧ ¬wanted.Undisturbed {} records more := by
  intro source records more
  have shown : readsSelect (fun wanted => wanted.aggregates.isEmpty &&
      passes (fun table => table.rows.length = 1) (wanted.evaluate records {}) &&
      passes (fun table => table.rows.isEmpty) (wanted.evaluate (records ++ more) {})) (Query.read source) = true := by
    decide +kernel
  obtain ⟨wanted, read, shown⟩ := select_of_reads shown
  obtain ⟨⟨listing, before⟩, after⟩ : (_ ∧ _) ∧ _ := by simpa only [Bool.and_eq_true] using shown
  obtain ⟨table, found, one⟩ := ok_of_passes before
  obtain ⟨longer, evaluated, none⟩ := ok_of_passes after
  have one := of_decide_eq_true one
  have none := List.isEmpty_iff.mp none
  refine ⟨wanted, table, longer, read, List.isEmpty_iff.mp listing, found, evaluated, one, none, fun undisturbed => ?_⟩
  obtain ⟨-, others, same⟩ := undisturbed.shown table longer found evaluated
  have long := congrArg List.length same
  rw [none, List.length_append, one, List.length_nil] at long
  omega

end Select

end FormQuery
