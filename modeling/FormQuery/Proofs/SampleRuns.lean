import FormQuery.Proofs.CompilationOutcome
import FormQuery.Proofs.JsonRoundTrip
import FormQuery.Sample.Projection

/-! Runs over a sample. A SELECT that was read from a text is evaluated without a fault over every list of submissions
whose documents are JSON or no records at all, where the layout has a column behind each system column of the query. -/

namespace FormQuery

variable {layout : Layout}

theorem Value.documentText_succeeds {value : Value} (json : value.IsJson) :
    ∃ text?, value.documentText = .ok text? := by
  obtain ⟨text, printed⟩ := Json.print_succeeds json .plain
  cases json with
  | null | text | bool => exact ⟨_, rfl⟩
  | int | float | list | record =>
    exact ⟨some (String.ofList text), by simp [documentText, jsonText, printed, Except.map]⟩

/-- A document whose answers have texts: a record of JSON, or no record. What is no record has no answers. -/
def Value.IsReadable (document : Value) : Prop := ∀ fields, document = .record fields → document.IsJson

theorem Row.answer_succeeds {row : Row} (readable : row.document.IsReadable) (key : String) :
    ∃ cell, row.answer key = .ok cell := by
  obtain ⟨cells, document⟩ := row
  cases document with
  | record fields =>
    cases readable fields rfl with
    | record each =>
      have field : ((Fields.get? fields key).getD .null).IsJson := by
        cases found : Fields.get? fields key with
        | none => exact .null
        | some value => exact each _ (Fields.mem_of_get? found)
      obtain ⟨text?, found⟩ := Value.documentText_succeeds field
      simp only [answer, bind_ok found]
      cases text? <;> exact ⟨_, rfl⟩
  | null | bool | int | float | decimal | bytes | text | list => exact ⟨_, rfl⟩

/-- A system column has a column behind it; fields need none. -/
def ColumnRef.IsPlaced (layout : Layout) (ref : ColumnRef) : Prop :=
  ref.pseudo = true → ∃ physical, layout.physical ref.name = .ok physical

theorem ColumnRef.isPlaced_of_field {ref : ColumnRef} (field : ref.pseudo = false) : ref.IsPlaced layout :=
  fun pseudo => by rw [field] at pseudo; cases pseudo

theorem ColumnRef.WellFormed.isPlaced {ref : ColumnRef} (valid : ref.WellFormed) (complete : layout.Complete) :
    ref.IsPlaced layout :=
  fun pseudo => Layout.physical_succeeds complete (valid pseudo)

/-- A number that is none has no order, and a finite one has an order with every other. -/
theorem compare?_of_finite (left : Decimal) {right : Decimal} (finite : right.isFinite = true) :
    (∃ found, left.compare? right = some found) ∨
      (left.compare? right = none ∧ (Value.decimal left).isMissing = true) := by
  cases right with
  | finite negative coefficient exponent =>
    cases left with
    | finite => exact Or.inl ⟨_, rfl⟩
    | infinite negative => cases negative <;> exact Or.inl ⟨_, rfl⟩
    | missing => exact Or.inr ⟨rfl, rfl⟩
  | infinite | missing => cases finite

theorem accepts?_of_known {comparison : Comparison} (known : comparison ∈ Comparison.known) :
    comparison = .like ∨ comparison = .ilike ∨ ∃ accepts, comparison.accepts? = some accepts := by
  simp only [Comparison.known, List.mem_cons, List.not_mem_nil, or_false] at known
  rcases known with rfl | rfl | rfl | rfl | rfl | rfl | rfl | rfl | rfl <;>
    simp [Comparison.accepts?]

theorem Condition.numberCell_succeeds {comparison : Comparison} {accepts : Ordering → Bool} {right : Decimal}
    (finite : right.isFinite = true) (cell : Value) : ∃ kept, numberCell comparison accepts right cell = .ok kept := by
  unfold numberCell
  split
  next => exact ⟨_, rfl⟩
  next left _ =>
    rcases compare?_of_finite left finite with ⟨found, ordered⟩ | ⟨_, missing⟩
    · split
      · exact ⟨_, rfl⟩
      · exact ⟨accepts found, by rw [Comparison.numbers, ordered]⟩
    · exact ⟨_, if_pos missing⟩

/-- A comparison by order is with a number when the literal is one, and of texts otherwise. -/
theorem Condition.mask_ordered {condition : Condition} {accepts : Ordering → Bool}
    (ordering : condition.operator.accepts? = some accepts) (cells : List Value) :
    condition.mask cells =
      if condition.value.isNumber then
        match Decimal.ofText? condition.value.text with
        | none => .error .malformedNumber
        | some right => cells.mapM (numberCell condition.operator accepts right)
      else .ok (cells.map (textCell accepts condition.value.value.display)) := by
  unfold mask
  split
  next like => simp [like, Comparison.accepts?] at ordering
  next like => simp [like, Comparison.accepts?] at ordering
  next =>
    split
    next unknown => cases ordering.symm.trans unknown
    next own known =>
      obtain rfl : accepts = own := Option.some.inj (ordering.symm.trans known)
      rfl

theorem Condition.mask_succeeds {condition : Condition} (valid : condition.WellFormed) (cells : List Value) :
    ∃ mask, condition.mask cells = .ok mask := by
  obtain like | ilike | ⟨accepts, ordering⟩ := accepts?_of_known valid.known
  · rw [mask, like]
    exact ⟨_, rfl⟩
  · rw [mask, ilike]
    exact ⟨_, rfl⟩
  · rw [mask_ordered ordering]
    split
    next number =>
      obtain ⟨raw, right, typed, spelled, read, _⟩ := valid.value.numeric number
      have typed : Decimal.ofText? condition.value.text = some right := by simpa [Literal.text, typed] using read
      simp only [typed]
      exact mapM_succeeds fun cell _ => numberCell_succeeds (Decimal.isFinite_of_spelled spelled read) cell
    next => exact ⟨_, rfl⟩

section Rows

variable {rows : List Row} (readable : ∀ row ∈ rows, row.document.IsReadable)

include readable

theorem Row.column_succeeds {ref : ColumnRef} (placed : ref.IsPlaced layout) :
    ∃ cells, Row.column rows ref layout = .ok cells := by
  unfold Row.column
  split
  next pseudo =>
    obtain ⟨physical, found⟩ := placed pseudo
    exact ⟨_, bind_ok found _⟩
  next => exact mapM_succeeds fun row member => Row.answer_succeeds (readable row member) ref.name

theorem Condition.rowMask_succeeds {condition : Condition} (valid : condition.WellFormed)
    (placed : condition.column.IsPlaced layout) : ∃ mask, condition.rowMask rows layout = .ok mask :=
  bind_succeeds (Row.column_succeeds readable placed) (mask_succeeds valid)

theorem Filter.chainMask_runs {rest : List (Connector × Condition)} (valid : ∀ link ∈ rest, link.2.WellFormed)
    (placed : ∀ link ∈ rest, link.2.column.IsPlaced layout) (start : List Bool) :
    ∃ mask, chainMask rows layout start rest = .ok mask := by
  induction rest generalizing start with
  | nil => exact ⟨start, rfl⟩
  | cons link rest ih =>
    obtain ⟨known, valid⟩ := List.forall_mem_cons.mp valid
    obtain ⟨first, placed⟩ := List.forall_mem_cons.mp placed
    exact bind_succeeds (Condition.rowMask_succeeds readable known first) fun next => ih valid placed _

theorem Filter.mask_runs {filter : Filter} (valid : filter.WellFormed)
    (placed : ∀ condition ∈ filter.conditions, condition.column.IsPlaced layout) :
    ∃ mask, filter.mask rows layout = .ok mask := by
  cases filter with
  | all => exact ⟨_, rfl⟩
  | empty => cases valid
  | chain first rest =>
    simp only [conditions, List.forall_mem_cons, List.forall_mem_map] at placed
    exact bind_succeeds (Condition.rowMask_succeeds readable valid.1 placed.1) fun start =>
      chainMask_runs readable (fun link member => (valid.2 link member).2) placed.2 start

theorem Filter.rows_run {filter : Filter} (valid : filter.WellFormed)
    (placed : ∀ condition ∈ filter.conditions, condition.column.IsPlaced layout) :
    ∃ kept, filter.rows rows layout = .ok kept := by
  unfold Filter.rows
  split
  · exact ⟨_, rfl⟩
  · exact bind_succeeds (mask_runs readable valid placed) fun mask => ⟨_, rfl⟩

end Rows

theorem Filter.mem_of_rows {filter : Filter} {rows kept : List Row} (ran : filter.rows rows layout = .ok kept) :
    ∀ row ∈ kept, row ∈ rows := by
  unfold Filter.rows at ran
  split at ran
  next =>
    cases ran
    exact nofun
  next =>
    obtain ⟨mask, _, ran⟩ := ok_of_bind ran
    cases ran
    intro row member
    obtain ⟨⟨_, mark⟩, inside, rfl⟩ := List.mem_map.mp member
    exact (List.of_mem_zip (List.mem_filter.mp inside).1).1

theorem Row.documents_zipCells (columns : List (String × List Value)) (documents : List Value) :
    (zipCells columns documents).map (·.document) = documents := by
  induction documents generalizing columns with
  | nil => simp [zipCells]
  | cons document documents ih => simp [zipCells, ih]

theorem Row.documents_ofSubmissions (submissions : List Submission) (layout : Layout) :
    (ofSubmissions submissions layout).map (·.document) = submissions.map (fetched · layout.documentColumn) :=
  documents_zipCells _ _

/-- Submissions whose documents are JSON, or no records at all. -/
def Readable (layout : Layout) (submissions : List Submission) : Prop :=
  ∀ submission ∈ submissions, (Row.fetched submission layout.documentColumn).IsReadable

theorem Row.readable_ofSubmissions {submissions : List Submission} (readable : Readable layout submissions) :
    ∀ row ∈ ofSubmissions submissions layout, row.document.IsReadable := by
  intro row member
  have inside := List.mem_map_of_mem (f := (·.document)) member
  rw [documents_ofSubmissions] at inside
  obtain ⟨submission, own, same⟩ := List.mem_map.mp inside
  exact same ▸ readable submission own

namespace Select

/-- Every system column of a query has a column behind it. -/
def IsPlaced (layout : Layout) (wanted : Select) : Prop :=
  ∀ ref ∈ (Query.select wanted).columnRefs, ref.IsPlaced layout

theorem WellFormed.isPlaced {wanted : Select} (valid : wanted.WellFormed) (complete : layout.Complete) :
    wanted.IsPlaced layout := by
  intro ref member
  obtain listed | compared := List.mem_append.mp member
  · obtain ⟨item, inside, shown⟩ := List.mem_filterMap.mp listed
    have known := valid.items item inside
    cases shape : item.expr with
    | column own =>
      rw [shape] at known shown
      cases shown
      exact ColumnRef.WellFormed.isPlaced known complete
    | aggregate call =>
      rw [shape] at known shown
      exact (known.argument ref shown).isPlaced complete
  · obtain ⟨condition, inside, rfl⟩ := List.mem_map.mp compared
    exact (Filter.conditions_wellFormed valid.filter condition inside).column.isPlaced complete

theorem IsPlaced.conditions {wanted : Select} (placed : wanted.IsPlaced layout) :
    ∀ condition ∈ wanted.filter.conditions, condition.column.IsPlaced layout :=
  fun _ member => placed _ (List.mem_append_right _ (List.mem_map_of_mem member))

theorem mem_columnRefs_of_columns {wanted : Select} {ref : ColumnRef} (member : ref ∈ wanted.columns) :
    ref ∈ (Query.select wanted).columnRefs :=
  List.mem_append_left _ (column_mem_items member)

theorem IsPlaced.columns {wanted : Select} (placed : wanted.IsPlaced layout) :
    ∀ ref ∈ wanted.columns, ref.IsPlaced layout :=
  fun ref member => placed ref (mem_columnRefs_of_columns member)

section Listing

variable {rows : List Row} (readable : ∀ row ∈ rows, row.document.IsReadable)

include readable

theorem starTable_succeeds : ∃ table, starTable rows layout = .ok table := by
  refine bind_succeeds (mapM_succeeds fun row member => ?_) fun cells => ⟨_, rfl⟩
  have readable := readable row member
  cases shape : row.document with
  | record fields =>
    rw [shape] at readable
    obtain ⟨text, printed⟩ := Json.print_succeeds (readable fields rfl) .plain
    have shown : (Value.record fields).jsonText .plain = .ok (String.ofList text) := by rw [Value.jsonText, printed]
    exact bind_succeeds ⟨_, shown⟩ fun text => ⟨_, rfl⟩
  | null | bool | int | float | decimal | bytes | text | list => exact ⟨_, rfl⟩

theorem columns_succeed {refs : List ColumnRef} (placed : ∀ ref ∈ refs, ref.IsPlaced layout) :
    ∃ columns, refs.mapM (Row.column rows · layout) = .ok columns :=
  mapM_succeeds fun ref member => Row.column_succeeds readable (placed ref member)

theorem plainRows_succeeds {wanted : Select} (placed : ∀ ref ∈ wanted.columns, ref.IsPlaced layout) :
    ∃ shown, wanted.plainRows rows layout = .ok shown := by
  refine bind_succeeds (columns_succeed readable placed) fun columns => ?_
  split <;> exact ⟨_, rfl⟩

end Listing

theorem evaluate_runs {wanted : Select} (valid : wanted.WellFormed) (placed : wanted.IsPlaced layout)
    (listing : wanted.aggregates = []) {submissions : List Submission} (readable : Readable layout submissions) :
    ∃ table, wanted.evaluate submissions layout = .ok table := by
  have readable := Row.readable_ofSubmissions readable
  obtain ⟨rows, filtered⟩ := Filter.rows_run readable valid.filter placed.conditions
  have readable : ∀ row ∈ rows, row.document.IsReadable :=
    fun row member => readable row (Filter.mem_of_rows filtered row member)
  rw [evaluate, bind_ok filtered]
  split
  · exact starTable_succeeds readable
  · simp only [listing, List.isEmpty_nil, if_true]
    exact bind_succeeds (plainRows_succeeds readable placed.columns) fun shown => ⟨_, rfl⟩

end Select

end FormQuery
