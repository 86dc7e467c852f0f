import FormQuery.Proofs.GroupedAggregates
import FormQuery.Proofs.NumericText

/-! Cells that count as numbers. A condition with a number and an aggregate of numbers read the same cells: each of them
stands on one side of every number or is equal to it, and all other cells can be left out or put in anywhere. -/

namespace FormQuery

open Sql

variable {layout : Layout}

def fieldNumber? (document : Value) (field : String) : Option Decimal :=
  (fieldText document field).bind fun text => (Value.text text).number?

def fieldRational? (document : Value) (field : String) : Option ℚ :=
  (fieldNumber? document field).bind Decimal.rational?

theorem exists_rational {document : Value} {field : String} {number : Decimal}
    (counted : fieldNumber? document field = some number) : ∃ value, number.rational? = some value := by
  obtain ⟨text, -, counted⟩ := Option.bind_eq_some_iff.mp counted
  obtain ⟨numeral, -, -, rfl⟩ := Value.number?_text_eq_some.mp counted
  exact ⟨numeral.value, numeral.rational?_decimal⟩

theorem isSome_fieldRational? (document : Value) (field : String) :
    (fieldRational? document field).isSome = (fieldNumber? document field).isSome := by
  rw [fieldRational?]
  cases counted : fieldNumber? document field with
  | none => rfl
  | some number =>
    obtain ⟨value, same⟩ := exists_rational counted
    simp [same]

theorem AggregateCall.evaluate_numbers {call : AggregateCall} {field : String} {place : Nat}
    (argument : call.argument = some ⟨field, place, false⟩) (numeric : call.function ≠ .count) {rows : List Row}
    {cells : List Value} (ran : Row.column rows ⟨field, place, false⟩ layout = .ok cells) :
    call.evaluate rows layout =
      ofNumbers call.function ((rows.filterMap fun row => fieldNumber? row.document field).map Binary.ofDecimal) := by
  have seen : (cells.filter fun cell => !cell.isMissing).filterMap Value.number? =
      rows.filterMap fun row => fieldNumber? row.document field := by
    rw [column_fields rfl ran, List.filter_map, List.filterMap_map, List.filterMap_filter]
    refine List.filterMap_congr fun row _ => ?_
    rw [Function.comp_apply, Function.comp_apply, fieldNumber?]
    cases fieldText row.document field <;> rfl
  rw [evaluate, argument]
  simp only [bind_ok ran, numeric, if_false, Bool.false_eq_true, seen]

theorem Decimal.compare?_of_rational {left right : Decimal} {first second : ℚ} (one : left.rational? = some first)
    (two : right.rational? = some second) : left.compare? right = some (compare first second) := by
  cases left with
  | finite leftNegative leftCoefficient leftExponent =>
    cases right with
    | finite rightNegative rightCoefficient rightExponent =>
      rw [← Option.some.inj one, ← Option.some.inj two, ← compareFinite_eq_compare]
      rfl
    | infinite | missing => cases two
  | infinite | missing => cases one

def Literal.rational? (literal : Literal) : Option ℚ :=
  match literal.value with
  | .decimal number => number.rational?
  | _ => none

theorem Literal.Numeric.exists_rational {literal : Literal} (numeric : literal.Numeric) :
    ∃ number value, Decimal.ofText? literal.text = some number ∧ literal.value = .decimal number ∧
      number.rational? = some value ∧ literal.rational? = some value := by
  obtain ⟨raw, number, typed, spelled, read, value⟩ := numeric
  have finite := Decimal.isFinite_of_spelled spelled read
  have text : literal.text = raw := by simp [Literal.text, typed]
  cases number with
  | finite negative coefficient exponent =>
    exact ⟨_, _, text ▸ read, value, rfl, by rw [Literal.rational?, value]; rfl⟩
  | infinite | missing => cases finite

theorem Condition.rowMask_numbers {condition : Condition} (field : condition.column.pseudo = false)
    {accepts : Ordering → Bool} (ordering : condition.operator.accepts? = some accepts)
    (numeric : condition.value.Numeric) {bound : ℚ} (same : condition.value.rational? = some bound) {rows : List Row}
    {cells : List Value} (ran : Row.column rows condition.column layout = .ok cells) :
    condition.rowMask rows layout = .ok (rows.map fun row =>
      (fieldRational? row.document condition.column.name).any fun own => accepts (compare own bound)) := by
  obtain ⟨number, value, read, -, stands, own⟩ := numeric.exists_rational
  obtain rfl : value = bound := Option.some.inj (own.symm.trans same)
  have each (row : Row) : numberCell condition.operator accepts number
      (.ofText? (fieldText row.document condition.column.name)) =
        .ok ((fieldRational? row.document condition.column.name).any fun own => accepts (compare own value)) := by
    rw [fieldRational?, fieldNumber?]
    cases fieldText row.document condition.column.name with
    | none => rfl
    | some text =>
      rw [numberCell, Value.ofText?, Option.bind_some]
      cases counted : (Value.text text).number? with
      | none => rfl
      | some left =>
        obtain ⟨numeral, -, -, rfl⟩ := Value.number?_text_eq_some.mp counted
        have ordered := Decimal.compare?_of_rational numeral.rational?_decimal stands
        simp only [Comparison.numbers, ordered, Option.bind_some, numeral.rational?_decimal]
        rfl
  have masked : cells.map (numberCell condition.operator accepts number) =
      (rows.map fun row =>
        (fieldRational? row.document condition.column.name).any fun own => accepts (compare own value)).map .ok := by
    rw [column_fields field ran, List.map_map, List.map_map]
    exact List.map_congr_left fun row _ => each row
  rw [rowMask, bind_ok ran, mask_ordered ordering]
  simp only [numeric.isNumber, if_true, read]
  exact mapM_eq_ok.mpr masked

/-- Everything in a field that is below a number or not below it; the positions are those of the two columns. -/
def Filter.around (field : String) (first second : Nat) (lower upper : Literal) : Filter :=
  .chain ⟨⟨field, first, false⟩, .less, lower⟩ [(.or, ⟨⟨field, second, false⟩, .atLeast, upper⟩)]

section Around

variable {field : String} {lower upper : Literal} (one : lower.Numeric) (two : upper.Numeric)
  (same : lower.rational? = upper.rational?) (first second : Nat)

include one two same

/-- What is below a number or not below it is a number. -/
theorem Filter.mask_around {rows : List Row} {cells : List Value}
    (ran : Row.column rows ⟨field, first, false⟩ layout = .ok cells) :
    (around field first second lower upper).mask rows layout =
      .ok (rows.map fun row => (fieldRational? row.document field).isSome) := by
  obtain ⟨-, bound, -, -, -, stands⟩ := one.exists_rational
  have below : Condition.rowMask ⟨⟨field, first, false⟩, .less, lower⟩ rows layout = _ :=
    Condition.rowMask_numbers rfl rfl one stands ran
  have above : Condition.rowMask ⟨⟨field, second, false⟩, .atLeast, upper⟩ rows layout = _ :=
    Condition.rowMask_numbers rfl rfl two (same ▸ stands) ran
  rw [around, mask, bind_ok below, chainMask, bind_ok above, chainMask, List.zipWith_map, List.zipWith_self]
  refine congrArg Except.ok (List.map_congr_left fun row _ => ?_)
  cases fieldRational? row.document field with
  | none => rfl
  | some own => cases ordered : compare own bound <;> simp [Connector.join, ordered]

/-- The filter keeps the rows that have a number. It fails where the column of the field does. -/
theorem Filter.rows_around (rows : List Row) :
    (around field first second lower upper).rows rows layout =
      (Row.column rows ⟨field, first, false⟩ layout).map fun _ =>
        rows.filter fun row => (fieldRational? row.document field).isSome := by
  rw [Filter.rows]
  split
  next none =>
    rw [List.isEmpty_iff.mp none]
    rfl
  next =>
    cases ran : Row.column rows ⟨field, first, false⟩ layout with
    | error fault =>
      have stopped : Condition.rowMask ⟨⟨field, first, false⟩, .less, lower⟩ rows layout = .error fault := by
        rw [Condition.rowMask, ran]
        rfl
      rw [around, mask, stopped]
      rfl
    | ok cells =>
      rw [bind_ok (mask_around one two same first second ran), ← filter_eq_masked]
      rfl

end Around

namespace Select

structure Totals (wanted : Select) (function : Aggregate) (field : String) : Prop where
  listed : wanted.star = false
  item : ∃ place position alias?,
    wanted.items = [⟨.aggregate ⟨function, some ⟨field, place, false⟩, position⟩, alias?⟩]
  all : wanted.filter = .all

variable {wanted : Select} {function : Aggregate} {field : String}

theorem Totals.evaluate_eq (totals : wanted.Totals function field) (layout : Layout) :
    ∃ call : AggregateCall, ∃ place, call.function = function ∧ call.argument = some ⟨field, place, false⟩ ∧
      ∀ filter records, { wanted with filter }.evaluate records layout =
        (filter.rows (Row.ofSubmissions records layout) layout >>= fun rows =>
          (call.evaluate rows layout).map fun value => ⟨wanted.items.map (·.outputName), [[value]]⟩) := by
  obtain ⟨listed, ⟨place, position, alias?, shape⟩, -⟩ := totals
  let call : AggregateCall := ⟨function, some ⟨field, place, false⟩, position⟩
  refine ⟨call, place, rfl, rfl, fun filter records => ?_⟩
  obtain ⟨star, items, table, own⟩ := wanted
  obtain rfl : star = false := listed
  obtain rfl : items = [⟨.aggregate call, alias?⟩] := shape
  rw [evaluate]
  refine congrArg _ (funext fun rows => ?_)
  have alone (columns : List String) : ([call].mapM (·.evaluate rows layout) >>= fun cells => pure ⟨columns, [cells]⟩) =
      (call.evaluate rows layout).map fun value => (⟨columns, [[value]]⟩ : ResultTable) := by
    rw [List.mapM_cons, List.mapM_nil]
    cases call.evaluate rows layout <;> rfl
  exact alone _

/-- What numeric aggregates and numeric conditions make of a field of records. -/
structure SeesNumbers (wanted : Select) (field : String) (layout : Layout) : Prop where
  /-- A value exists when every document is JSON or no record. -/
  succeeds : ∀ records, Readable layout records → ∃ value,
    wanted.evaluate records layout = .ok ⟨wanted.items.map (·.outputName), [[value]]⟩
  /-- The filter that every number passes changes nothing, and where the one query fails so does the other. -/
  filtered : ∀ (first second : Nat) (lower upper : Literal), lower.Numeric → upper.Numeric →
    lower.rational? = upper.rational? → ∀ records,
      { wanted with filter := .around field first second lower upper }.evaluate records layout =
        wanted.evaluate records layout
  /-- Records without a number do not count, wherever they stand: those that have one settle the value. -/
  skipped : ∀ records others, Readable layout records → Readable layout others →
    (records.filter fun record => (fieldRational? (Row.fetched record layout.documentColumn) field).isSome) =
      (others.filter fun record => (fieldRational? (Row.fetched record layout.documentColumn) field).isSome) →
    wanted.evaluate records layout = wanted.evaluate others layout
  /-- A number is below another one, equal to it or above it, and what is no number is none of these. -/
  compared : ∀ bound : Literal, bound.Numeric → ∃ value, bound.rational? = some value ∧
    ∀ place records, Readable layout records → ∃ below equal above : Submission → Bool,
      Condition.rowMask ⟨⟨field, place, false⟩, .less, bound⟩ (Row.ofSubmissions records layout) layout =
        .ok (records.map below) ∧
      Condition.rowMask ⟨⟨field, place, false⟩, .equal, bound⟩ (Row.ofSubmissions records layout) layout =
        .ok (records.map equal) ∧
      Condition.rowMask ⟨⟨field, place, false⟩, .greater, bound⟩ (Row.ofSubmissions records layout) layout =
        .ok (records.map above) ∧
      ∀ record ∈ records, match fieldRational? (Row.fetched record layout.documentColumn) field with
        | some own => below record = decide (own < value) ∧ equal record = decide (own = value) ∧
            above record = decide (value < own) ∧ [below record, equal record, above record].count true = 1
        | none => [below record, equal record, above record].count true = 0

theorem Totals.value_of_numbers (totals : wanted.Totals function field) (known : function ∈ Aggregate.known)
    (numeric : function ≠ .count) (layout : Layout) : ∃ value : List Decimal → Value, ∀ records,
      Readable layout records → wanted.evaluate records layout = .ok ⟨wanted.items.map (·.outputName),
        [[value (records.filterMap fun record => fieldNumber? (Row.fetched record layout.documentColumn) field)]]⟩ := by
  obtain ⟨call, place, rfl, argument, evaluated⟩ := totals.evaluate_eq layout
  have each (numbers : List Decimal) :
      ∃ value, AggregateCall.ofNumbers call.function (numbers.map Binary.ofDecimal) = .ok value :=
    AggregateCall.ofNumbers_succeeds known numeric _
  choose value shown using each
  refine ⟨value, fun records readable => ?_⟩
  obtain ⟨cells, ran⟩ : ∃ cells, Row.column (Row.ofSubmissions records layout) ⟨field, place, false⟩ layout = .ok cells :=
    Row.column_succeeds (Row.readable_ofSubmissions readable) (ColumnRef.isPlaced_of_field rfl)
  have numbers : ((Row.ofSubmissions records layout).filterMap fun row => fieldNumber? row.document field) =
      records.filterMap fun record => fieldNumber? (Row.fetched record layout.documentColumn) field := by
    have documents := congrArg (List.filterMap (fieldNumber? · field)) (Row.documents_ofSubmissions records layout)
    rwa [List.filterMap_map, List.filterMap_map] at documents
  have unfiltered : wanted = { wanted with filter := .all } := by rw [← totals.all]
  rw [unfiltered, evaluated, bind_ok (Filter.rows_all _), AggregateCall.evaluate_numbers argument numeric ran,
    numbers, shown]
  rfl

theorem filterMap_numbers {α : Type} (document : α → Value) (field : String) (items : List α) :
    (items.filter fun item => (fieldRational? (document item) field).isSome).filterMap
      (fun item => fieldNumber? (document item) field) = items.filterMap fun item => fieldNumber? (document item) field := by
  rw [List.filterMap_filter]
  refine List.filterMap_congr fun item _ => ?_
  rw [isSome_fieldRational?]
  cases fieldNumber? (document item) field <;> rfl

theorem Totals.filtered (totals : wanted.Totals function field) (numeric : function ≠ .count) (first second : Nat)
    {lower upper : Literal} (one : lower.Numeric) (two : upper.Numeric) (same : lower.rational? = upper.rational?)
    (records : List Submission) :
    { wanted with filter := .around field first second lower upper }.evaluate records layout =
      wanted.evaluate records layout := by
  obtain ⟨call, place, rfl, argument, evaluated⟩ := totals.evaluate_eq layout
  have unfiltered : wanted = { wanted with filter := .all } := by rw [← totals.all]
  conv_rhs => rw [unfiltered, evaluated, bind_ok (Filter.rows_all _)]
  rw [evaluated, Filter.rows_around one two same]
  generalize Row.ofSubmissions records layout = rows
  cases ran : Row.column rows ⟨field, first, false⟩ layout with
  | error fault =>
    have stopped : call.evaluate rows layout = .error fault := by
      have column : Row.column rows ⟨field, place, false⟩ layout = .error fault := ran
      rw [AggregateCall.evaluate, argument]
      simp only [column]
      rfl
    rw [stopped]
    rfl
  | ok cells =>
    have whole : Row.column rows ⟨field, place, false⟩ layout = .ok cells := ran
    obtain ⟨others, kept⟩ : ∃ others, Row.column
        (rows.filter fun row => (fieldRational? row.document field).isSome) ⟨field, place, false⟩ layout = .ok others :=
      mapM_of_subset ran fun row member => (List.mem_filter.mp member).1
    have alike : call.evaluate (rows.filter fun row => (fieldRational? row.document field).isSome) layout =
        call.evaluate rows layout := by
      rw [AggregateCall.evaluate_numbers argument numeric kept,
        AggregateCall.evaluate_numbers argument numeric whole, filterMap_numbers Row.document]
    rw [← alike]
    rfl

/-- A numeric aggregate and a numeric condition see the same cells of a field. -/
theorem evaluate_numeric (totals : wanted.Totals function field) (known : function ∈ Aggregate.known)
    (numeric : function ≠ .count) (layout : Layout) : wanted.SeesNumbers field layout := by
  obtain ⟨value, evaluated⟩ := totals.value_of_numbers known numeric layout
  constructor
  case succeeds => exact fun records readable => ⟨_, evaluated records readable⟩
  case filtered =>
    exact fun first second lower upper one two same records => totals.filtered numeric first second one two same records
  case skipped =>
    intro records others one two same
    rw [evaluated records one, evaluated others two,
      ← filterMap_numbers (Row.fetched · layout.documentColumn) field records, same, filterMap_numbers]
  case compared =>
    intro bound typed
    obtain ⟨-, value, -, -, -, stands⟩ := typed.exists_rational
    refine ⟨value, stands, fun place records readable => ?_⟩
    have masked {comparison : Comparison} {accepts : Ordering → Bool} (ordering : comparison.accepts? = some accepts) :
        Condition.rowMask ⟨⟨field, place, false⟩, comparison, bound⟩ (Row.ofSubmissions records layout) layout =
          .ok (records.map fun record =>
            (fieldRational? (Row.fetched record layout.documentColumn) field).any fun own =>
              accepts (compare own value)) := by
      obtain ⟨cells, ran⟩ : ∃ cells,
          Row.column (Row.ofSubmissions records layout) ⟨field, place, false⟩ layout = .ok cells :=
        Row.column_succeeds (Row.readable_ofSubmissions readable) (ColumnRef.isPlaced_of_field rfl)
      rw [Condition.rowMask_numbers rfl ordering typed stands ran]
      have documents := congrArg (List.map fun document =>
        (fieldRational? document field).any fun own => accepts (compare own value))
          (Row.documents_ofSubmissions records layout)
      rw [List.map_map, List.map_map] at documents
      exact congrArg Except.ok documents
    refine ⟨_, _, _, masked rfl, masked rfl, masked rfl, fun record _ => ?_⟩
    cases fieldRational? (Row.fetched record layout.documentColumn) field with
    | none => rfl
    | some own =>
      obtain below | same | above := lt_trichotomy own value
      · simp [compare_lt_iff_lt.mpr below, below, below.ne, below.not_gt]
      · simp [same]
      · simp [compare_gt_iff_gt.mpr above, above, above.ne', above.not_gt]

theorem evaluate_numeric_median :
    let wanted : Select := ⟨false, [⟨.aggregate ⟨.median, some ⟨"n", 20, false⟩, 7⟩, none⟩], ⟨"f", 31⟩, .all⟩
    let bound : Literal := ⟨.decimal (.finite false 15 (-1)), 48, some "1.5"⟩
    let record (document : List (String × Value)) : Submission := [("submission_data", .record document)]
    let numbers := [record [("n", .int (-1))], record [("n", .text "2.50")]]
    let records := [record [("n", .text "")], record [("n", .int (-1))], record [], record [("n", .list [.int 1])],
      record [("n", .text "2.50")], record [("n", .bool true)], record [("n", .text "12a")]]
    wanted.Totals .median "n" ∧ .median ∈ Aggregate.known ∧ bound.Numeric ∧
      wanted.evaluate records {} = wanted.evaluate numbers {} ∧
      { wanted with filter := .around "n" 40 52 bound bound }.evaluate records {} = wanted.evaluate records {} := by
  intro wanted bound record numbers records
  have totals : wanted.Totals .median "n" := ⟨rfl, ⟨20, 7, none, rfl⟩, rfl⟩
  have known : .median ∈ Aggregate.known := by simp [Aggregate.known]
  have numeric : bound.Numeric := by
    have digits : IsDigits ['1'] ∧ IsDigits ['5'] := by simp [IsDigits]; decide
    exact ⟨"1.5", _, rfl, .fraction digits.1 digits.2, by decide +kernel, rfl⟩
  have json (document : List (String × Value)) (each : ∀ field ∈ document, field.2.IsJson) :
      (Row.fetched (record document) "submission_data").IsReadable := fun _ _ => .record each
  have readable : Readable {} records := by
    simp only [Readable, records, List.forall_mem_cons]
    refine ⟨json _ ?_, json _ ?_, json _ ?_, json _ ?_, json _ ?_, json _ ?_, json _ ?_, by simp⟩
    all_goals simp [Value.IsJson.text, Value.IsJson.int, Value.IsJson.bool, Value.IsJson.list]
  have fewer : Readable {} numbers := by
    have inside : ∀ record ∈ numbers, record ∈ records := by simp [numbers, records]
    exact fun record member => readable record (inside record member)
  obtain ⟨-, filtered, skipped, -⟩ := evaluate_numeric totals known (by simp) {}
  let counts (record : Submission) : Bool := (fieldRational? (Row.fetched record "submission_data") "n").isSome
  have shown : records.map counts = [false, true, false, false, true, false, false] := by decide +kernel
  have both : numbers.map counts = [true, true] := by decide +kernel
  have kept : records.filter counts = numbers.filter counts := by
    rw [filter_eq_masked records, filter_eq_masked numbers, shown, both]
    rfl
  exact ⟨totals, known, numeric, skipped records numbers readable fewer kept,
    filtered 40 52 bound bound numeric numeric rfl records⟩

end Select

end FormQuery
