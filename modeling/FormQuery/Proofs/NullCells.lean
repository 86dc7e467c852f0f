import FormQuery.Proofs.ColumnTypes

/-! Null cells. A null meets no comparison, whatever it is compared with. Patterns ask for less: where a null of a
system column has become a missing number, because the record lacks the column or because the column holds
floating-point numbers, it matches a pattern as the text of that number. -/

namespace FormQuery

variable {layout : Layout}

def Condition.fits (condition : Condition) (text : String) : Bool :=
  match condition.operator with
  | .like => Pattern.like condition.value.value.display text
  | .ilike => Pattern.ilike condition.value.value.display text
  | _ => false

theorem Value.number?_of_missing {cell : Value} (missing : cell.isMissing = true) : cell.number? = none :=
  if_pos missing

theorem Condition.keeps_pattern {condition : Condition} (pattern : condition.operator.isPattern = true) (cell : Value) :
    condition.keeps cell = (!cell.isNull && condition.fits cell.display) := by
  cases operator : condition.operator with
  | like | ilike => simp [keeps, Condition.mask, operator, likeCell, passes, fits]
  | equal | notEqual | lessGreater | less | greater | atMost | atLeast | other =>
    rw [operator] at pattern
    cases pattern

theorem Condition.keeps_missing {condition : Condition} (ordered : condition.operator.isPattern = false) {cell : Value}
    (missing : cell.isMissing = true) : condition.keeps cell = false := by
  unfold keeps Condition.mask
  split
  next same =>
    rw [same] at ordered
    cases ordered
  next same =>
    rw [same] at ordered
    cases ordered
  next =>
    split
    next => rfl
    next accepts _ =>
      split
      next =>
        split
        next => rfl
        next right _ =>
          have refused : numberCell condition.operator accepts right cell = .ok false := by
            rw [numberCell, Value.number?_of_missing missing]
          simp [refused, passes]
      next => simp [textCell, missing, passes]

/-- The cell of a record in a column is null: its document lacks the field or has a null there, or the record lacks the
system column or has a null there. -/
def ColumnRef.IsNullIn (layout : Layout) (ref : ColumnRef) (record : Submission) : Prop :=
  if ref.pseudo then
    ∀ physical, layout.physical ref.name = .ok physical → (Fields.get? record physical).getD .null = .null
  else
    ∀ fields, Fields.get? record layout.documentColumn = some (.record fields) →
      (Fields.get? fields ref.name).getD .null = .null

/-- A null of a system column has become a missing number: the record lacks the column, or the column holds
floating-point numbers. -/
def ColumnRef.IsNumberIn (layout : Layout) (ref : ColumnRef) (records : List Submission) (record : Submission) : Prop :=
  ref.pseudo = true ∧ ∃ physical, layout.physical ref.name = .ok physical ∧
    (Fields.get? record physical = none ∨ Row.isFloating records physical = true)

namespace Row

variable {records : List Submission} {record : Submission} {ref : ColumnRef}

theorem shown_of_error {row : Row} (pseudo : ref.pseudo = true) {fault : Fault}
    (failed : layout.physical ref.name = .error fault) : row.shown layout ref = .null := by
  simp [shown, cell, pseudo, failed, bind, Except.bind]

theorem shown_null_field {floating : String → Bool} (field : ref.pseudo = false)
    (null : ref.IsNullIn layout record) : (ofSubmission layout floating record).shown layout ref = .null := by
  simp only [ColumnRef.IsNullIn, field, Bool.false_eq_true, if_false] at null
  have unanswered : (ofSubmission layout floating record).answer ref.name = .ok .null := by
    cases own : Fields.get? record layout.documentColumn with
    | none => simp [answer, ofSubmission, fetched, own, pure, Except.pure]
    | some document =>
      cases document with
      | record fields =>
        simp [answer, ofSubmission, fetched, own, null fields own, Value.documentText, pure, Except.pure, bind,
          Except.bind]
      | null | bool | int | float | decimal | bytes | text | list =>
        simp [answer, ofSubmission, fetched, own, pure, Except.pure]
  simp [shown, cell, field, unanswered]

theorem fetched_eq (record : Submission) (column : String) :
    fetched record column = (Fields.get? record column).getD (.float Binary.missing) := rfl

theorem shown_number (null : ref.IsNullIn layout record) (number : ref.IsNumberIn layout records record) :
    (ofSubmission layout (isFloating records) record).shown layout ref = .float Binary.missing := by
  obtain ⟨pseudo, physical, found, lacking | floating⟩ := number
  · rw [shown_ofSubmission pseudo found, fetched_eq, lacking]
    cases isFloating records physical <;> rfl
  · simp only [ColumnRef.IsNullIn, pseudo, if_true] at null
    rw [shown_ofSubmission pseudo found, fetched_eq, floating]
    cases own : Fields.get? record physical with
    | none => rfl
    | some cell =>
      obtain rfl : cell = .null := by simpa [own] using null physical found
      rfl

theorem shown_null (null : ref.IsNullIn layout record) (apart : ¬ref.IsNumberIn layout records record) :
    (ofSubmission layout (isFloating records) record).shown layout ref = .null := by
  cases pseudo : ref.pseudo with
  | false => exact shown_null_field pseudo null
  | true =>
    cases found : layout.physical ref.name with
    | error fault => exact shown_of_error pseudo found
    | ok physical =>
      simp only [ColumnRef.IsNullIn, pseudo, if_true] at null
      rw [shown_ofSubmission pseudo found, fetched_eq]
      cases own : Fields.get? record physical with
      | none => exact absurd ⟨pseudo, physical, found, .inl own⟩ apart
      | some cell =>
        obtain rfl : cell = .null := by simpa [own] using null physical found
        have plain : isFloating records physical = false := by
          by_contra floating
          exact apart ⟨pseudo, physical, found, .inr (Bool.eq_true_of_not_eq_false floating)⟩
        rw [plain]
        rfl

end Row

namespace Condition

/-- What a condition says of the nulls of records: it keeps none of them, but for those that a pattern sees as missing
numbers and that it fits as such. -/
structure PassesNulls (layout : Layout) (condition : Condition) (records : List Submission) (mask : List Bool) :
    Prop where
  length : mask.length = records.length
  unmet : ∀ (index : Nat) (record : Submission), records[index]? = some record →
    condition.column.IsNullIn layout record →
      ¬(condition.operator.isPattern = true ∧ condition.column.IsNumberIn layout records record) →
        mask[index]? = some false
  matched : ∀ (index : Nat) (record : Submission), records[index]? = some record →
    condition.column.IsNullIn layout record → condition.operator.isPattern = true →
      condition.column.IsNumberIn layout records record → mask[index]? = some (condition.fits "nan")

theorem keeps_null (condition : Condition) : condition.keeps .null = false := by
  cases pattern : condition.operator.isPattern with
  | true => rw [keeps_pattern pattern]; rfl
  | false => exact keeps_missing pattern rfl

/-- Every condition treats nulls in this way, with any comparison and any literal, and it is evaluated when it was read
from a text. -/
theorem rowMask_nulls (layout : Layout) (condition : Condition) (records : List Submission) :
    (∀ mask, condition.rowMask (Row.ofSubmissions records layout) layout = .ok mask →
      condition.PassesNulls layout records mask) ∧
    (condition.WellFormed → layout.Complete → Readable layout records →
      ∃ mask, condition.rowMask (Row.ofSubmissions records layout) layout = .ok mask) := by
  constructor
  · intro mask ran
    rw [Row.ofSubmissions_eq] at ran
    obtain rfl := rowMask_keeps ran
    have kept {index : Nat} {record : Submission} (found : records[index]? = some record) :
        ((records.map (Row.ofSubmission layout (Row.isFloating records))).map fun row =>
          condition.keeps (row.shown layout condition.column))[index]? =
        some (condition.keeps
          ((Row.ofSubmission layout (Row.isFloating records) record).shown layout condition.column)) := by
      simp [found]
    refine ⟨by simp, ?_, ?_⟩
    · intro index record found null unseen
      rw [kept found]
      by_cases number : condition.column.IsNumberIn layout records record
      · have ordered : condition.operator.isPattern = false := by
          by_contra pattern
          exact unseen ⟨Bool.eq_true_of_not_eq_false pattern, number⟩
        rw [Row.shown_number null number, keeps_missing ordered (by decide +kernel)]
      · rw [Row.shown_null null number, keeps_null]
    · intro index record found null pattern number
      have shown : (Value.float Binary.missing).display = "nan" := by decide +kernel
      rw [kept found, Row.shown_number null number, keeps_pattern pattern, shown]
      rfl
  · intro valid complete readable
    exact rowMask_succeeds (Row.readable_ofSubmissions readable) valid (valid.column.isPlaced complete)

theorem rowMask_nulls_beside_text :
    let condition : Condition := ⟨⟨"submitted_by", 0, true⟩, .ilike, ⟨.text "n_N", 0, none⟩⟩
    let records : List Submission := [[("submitted_by", .text "nun")], [("submitted_by", .null)], []]
    condition.rowMask (Row.ofSubmissions records {}) {} = .ok [true, false, true] ∧
      condition.PassesNulls {} records [true, false, true] := by
  intro condition records
  have shown : passes (· = [true, false, true]) (condition.rowMask (Row.ofSubmissions records {}) {}) = true := by
    decide +kernel
  obtain ⟨mask, ran, same⟩ := ok_of_passes shown
  obtain rfl := of_decide_eq_true same
  exact ⟨ran, (rowMask_nulls {} condition records).1 _ ran⟩

/-- A null beside an integer is selected by a pattern for any text. -/
theorem null_matched :
    let condition : Condition := ⟨⟨"submitted_by", 0, true⟩, .like, ⟨.text "%", 0, none⟩⟩
    let records : List Submission := [[("submitted_by", .int 5)], [("submitted_by", .null)]]
    ∃ record, records[1]? = some record ∧ condition.column.IsNullIn {} record ∧
      condition.rowMask (Row.ofSubmissions records {}) {} = .ok [true, true] := by
  intro condition records
  have shown : passes (· = [true, true]) (condition.rowMask (Row.ofSubmissions records {}) {}) = true := by
    decide +kernel
  obtain ⟨mask, ran, same⟩ := ok_of_passes shown
  obtain rfl := of_decide_eq_true same
  refine ⟨_, rfl, fun physical found => ?_, ran⟩
  cases found
  rfl

end Condition

end FormQuery
