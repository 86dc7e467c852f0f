import FormQuery.Proofs.NearestFloat
import FormQuery.Proofs.PrintedNumbers
import FormQuery.Proofs.SampleRuns

/-! Numbers of documents. An integer counts as itself. A float counts when its JSON text is in plain notation, and not
at all when the text has a power of ten. -/

namespace FormQuery

open Decimal

namespace Value

theorem documentText_int (whole : Int) :
    (int whole).documentText = .ok (some (String.ofList (Json.integerText whole))) := rfl

theorem documentText_float {x : Float} (finite : x.isFinite = true) :
    (float x).documentText = .ok (some (Binary.toText x)) := by
  obtain ⟨number, bounded⟩ := Binary.classes_of_isFinite finite
  have shown : (float x).documentText = .ok (some (String.ofList (Json.floatText x))) := rfl
  rw [shown, Json.floatText, number, bounded]
  simp

theorem number?_integerText {whole : Int} (short : (digitsOf whole.natAbs).length < readableDigits) :
    (text (String.ofList (Json.integerText whole))).number? = some (.ofInt whole) := by
  have some_digit : digitsOf whole.natAbs ≠ [] := Nat.toDigits_ne_nil
  have ascii : ∀ c ∈ digitsOf whole.natAbs ++ [], isAsciiDigit c = true := by
    simpa using Numeral.ascii_digitsOf whole.natAbs
  refine number?_text_eq_some.mpr ⟨⟨whole < 0, digitsOf whole.natAbs, [], some_digit, ascii⟩, .inl ?_, ?_, ?_⟩
  · simp [Json.integerText, Numeral.text, Numeral.magnitudeText]
  · refine Numeral.isReadable_of_short ?_
    simp only [Numeral.text, Numeral.magnitudeText]
    split <;> simp <;> omega
  · have same := Numeral.digitsValue_digitsOf whole.natAbs
    simp [Numeral.decimal, Numeral.coefficient, same, ofInt]

theorem ofDecimal_printed {x : Float} (finite : x.isFinite = true) {numeral : Numeral}
    (printed : Binary.PrintedAs x numeral) : Binary.ofDecimal numeral.decimal = x := by
  rw [Numeral.decimal, printed.sign]
  by_cases none : Binary.magnitude x = 0
  case pos =>
    rw [printed.zero none]
    exact Binary.ofDecimal_zero none _
  case neg => exact Binary.ofDecimal_of_covers finite none (printed.near none)

/-- The text of a float is read as the float when it is in plain notation, and is no number otherwise. -/
theorem number?_toText {x : Float} (finite : x.isFinite = true) :
    (Binary.IsPlain x → ∃ number, (text (Binary.toText x)).number? = some number ∧ Binary.ofDecimal number = x) ∧
    (¬Binary.IsPlain x → (text (Binary.toText x)).number? = none) := by
  constructor
  · intro plain
    obtain ⟨numeral, printed⟩ := Binary.exists_printedAs finite plain
    have readable := Numeral.isReadable_of_short printed.short
    exact ⟨numeral.decimal, number?_text_eq_some.mpr ⟨numeral, .inl printed.shown, readable, rfl⟩,
      ofDecimal_printed finite printed⟩
  · intro marked
    rw [Option.eq_none_iff_forall_ne_some]
    intro number counted
    obtain ⟨numeral, shown, -⟩ := number?_text_eq_some.mp counted
    exact Binary.not_isShownBy finite marked numeral shown

end Value

/-- The document of a row has a value under a name. -/
def Row.Stores (row : Row) (field : String) (value : Value) : Prop :=
  ∃ document, row.document = .record document ∧ Fields.get? document field = some value

/-- A number of a document. -/
inductive StoredNumber where
  | whole (number : Int)
  | float (number : Float)

namespace StoredNumber

def value : StoredNumber → Value
  | whole number => .int number
  | float number => .float number

/-- A finite float, or an integer of no more digits than a decimal has. -/
def IsFinite : StoredNumber → Prop
  | whole number => (digitsOf number.natAbs).length < readableDigits
  | float number => number.isFinite = true

/-- Its text has no power of ten, which the text of an integer never has. -/
def IsPlain : StoredNumber → Prop
  | whole _ => True
  | float number => Binary.IsPlain number

instance : DecidablePred IsPlain
  | whole _ => inferInstanceAs (Decidable True)
  | float number => inferInstanceAs (Decidable (Binary.IsPlain number))

def text : StoredNumber → String
  | whole number => String.ofList (Json.integerText number)
  | float number => Binary.toText number

/-- A decimal is an integer exactly, and a float when the float is the one nearest to it. -/
def Is (decimal : Decimal) : StoredNumber → Prop
  | whole number => decimal = .ofInt number
  | float number => Binary.ofDecimal decimal = number

/-- The float that stands for a number in sums: itself, or the one nearest to an integer. -/
def rounded : StoredNumber → Float
  | whole number => Binary.ofDecimal (.ofInt number)
  | float number => number

variable {number : StoredNumber}

theorem documentText_value (finite : number.IsFinite) : number.value.documentText = .ok (some number.text) := by
  cases number with
  | whole number => exact Value.documentText_int number
  | float number => exact Value.documentText_float finite

theorem number?_shown (finite : number.IsFinite) :
    (number.IsPlain → ∃ decimal, (Value.text number.text).number? = some decimal ∧ number.Is decimal) ∧
    (¬number.IsPlain → (Value.text number.text).number? = none) := by
  cases number with
  | whole number => exact ⟨fun _ => ⟨_, Value.number?_integerText finite, rfl⟩, fun marked => absurd trivial marked⟩
  | float number => exact Value.number?_toText finite

theorem Is.rounded {decimal : Decimal} (is : number.Is decimal) : Binary.ofDecimal decimal = number.rounded := by
  cases number with
  | whole number => exact congrArg Binary.ofDecimal is
  | float number => exact is

theorem numbers_of_texts {numbers : List StoredNumber} (finite : ∀ number ∈ numbers, number.IsFinite) :
    ((numbers.map fun number => Value.text number.text).filterMap Value.number?).map Binary.ofDecimal =
      (numbers.filter (·.IsPlain)).map rounded := by
  induction numbers with
  | nil => rfl
  | cons number numbers others =>
    obtain ⟨first, finite⟩ := List.forall_mem_cons.mp finite
    obtain ⟨counted, skipped⟩ := number?_shown first
    rw [List.map_cons]
    by_cases plain : number.IsPlain
    · obtain ⟨decimal, shown, is⟩ := counted plain
      rw [List.filterMap_cons_some shown, List.map_cons, is.rounded, others finite,
        List.filter_cons_of_pos (by simpa), List.map_cons]
    · rw [List.filterMap_cons_none (skipped plain), others finite, List.filter_cons_of_neg (by simpa)]

end StoredNumber

/-- The documents of all rows have a finite number under a name. -/
def Row.HoldNumbers (rows : List Row) (field : String) (number : Row → StoredNumber) : Prop :=
  ∀ row ∈ rows, row.Stores field (number row).value ∧ (number row).IsFinite

namespace Row

variable {row : Row} {field : String}

theorem answer_of_stores {value : Value} (stored : row.Stores field value) {text : String}
    (shown : value.documentText = .ok (some text)) : row.answer field = .ok (.text text) := by
  obtain ⟨document, record, present⟩ := stored
  simp only [answer, record, present, Option.getD_some, shown]
  rfl

theorem column_answers {rows : List Row} {ref : ColumnRef} (field : ref.pseudo = false) {cell : Row → Value}
    (each : ∀ row ∈ rows, row.answer ref.name = .ok (cell row)) (layout : Layout) :
    column rows ref layout = .ok (rows.map cell) := by
  simp only [column, field, Bool.false_eq_true, if_false]
  rw [mapM_eq_ok, List.map_map]
  exact List.map_congr_left each

end Row

section Numbers

variable {rows : List Row} {number : Row → StoredNumber}

theorem Row.column_of_numbers {ref : ColumnRef} (field : ref.pseudo = false)
    (stored : Row.HoldNumbers rows ref.name number) (layout : Layout) :
    Row.column rows ref layout = .ok (rows.map fun row => .text (number row).text) := by
  refine column_answers field (fun row member => ?_) layout
  obtain ⟨present, finite⟩ := stored row member
  exact answer_of_stores present (StoredNumber.documentText_value finite)

/-- Aggregates over numbers see those in plain notation, and only those. -/
theorem AggregateCall.evaluate_of_numbers {call : AggregateCall} {ref : ColumnRef} (argument : call.argument = some ref)
    (field : ref.pseudo = false) (numeric : call.function ≠ .count) (stored : Row.HoldNumbers rows ref.name number)
    (layout : Layout) :
    call.evaluate rows layout = ofNumbers call.function (((rows.map number).filter (·.IsPlain)).map (·.rounded)) := by
  have texts := Row.column_of_numbers field stored layout
  have present : (rows.map fun row => Value.text (number row).text).filter (fun cell => !cell.isMissing) =
      rows.map fun row => .text (number row).text := by
    rw [List.filter_eq_self]
    intro cell member
    obtain ⟨row, -, rfl⟩ := List.mem_map.mp member
    rfl
  have seen : ((rows.map fun row => Value.text (number row).text).filterMap Value.number?).map Binary.ofDecimal =
      ((rows.map number).filter (·.IsPlain)).map (·.rounded) := by
    have finite : ∀ each ∈ rows.map number, each.IsFinite := by
      intro each member
      obtain ⟨row, inside, rfl⟩ := List.mem_map.mp member
      exact (stored row inside).2
    rw [← StoredNumber.numbers_of_texts finite, List.map_map]
    rfl
  unfold evaluate
  rw [argument]
  simp only [bind_ok texts, present, numeric, field, if_false, Bool.false_eq_true, seen]

theorem Decimal.exists_compare? {text : String} {left right : Decimal} (counted : (Value.text text).number? = some left)
    (finite : right.isFinite = true) : ∃ order, left.compare? right = some order := by
  obtain ⟨numeral, -, -, rfl⟩ := Value.number?_text_eq_some.mp counted
  have present : (Value.decimal numeral.decimal).isMissing = false := rfl
  exact (compare?_of_finite numeral.decimal finite).resolve_right (by simp [present])

theorem Condition.numberCell_text {comparison : Comparison} {accepts : Ordering → Bool} {right : Decimal}
    (finite : right.isFinite = true) (text : String) :
    numberCell comparison accepts right (.text text) =
      .ok (((Value.text text).number?.bind (·.compare? right)).any accepts) := by
  unfold numberCell
  cases counted : (Value.text text).number? with
  | none => rfl
  | some left =>
    obtain ⟨order, ordered⟩ := Decimal.exists_compare? counted finite
    have present : (Value.decimal left).isMissing = false := by
      cases left with
      | missing => cases ordered
      | finite | infinite => rfl
    simp [present, Comparison.numbers, ordered]

/-- Numeric conditions over numbers compare the decimals that the texts are, and keep nothing else. -/
theorem Condition.rowMask_of_numbers {condition : Condition} {accepts : Ordering → Bool} {right : Decimal}
    (field : condition.column.pseudo = false) (ordering : condition.operator.accepts? = some accepts)
    (numeric : condition.value.isNumber = true) (read : Decimal.ofText? condition.value.text = some right)
    (finite : right.isFinite = true) (stored : Row.HoldNumbers rows condition.column.name number) (layout : Layout) :
    condition.rowMask rows layout = .ok (rows.map fun row =>
      ((Value.text (number row).text).number?.bind (·.compare? right)).any accepts) := by
  have each : (rows.map fun row => Value.text (number row).text).map
      (numberCell condition.operator accepts right) =
      (rows.map fun row => ((Value.text (number row).text).number?.bind (·.compare? right)).any accepts).map .ok := by
    rw [List.map_map, List.map_map]
    exact List.map_congr_left fun row _ => numberCell_text finite (number row).text
  rw [rowMask, bind_ok (Row.column_of_numbers field stored layout), mask_ordered ordering]
  simp only [numeric, if_true, read]
  exact mapM_eq_ok.mpr each

end Numbers

/-- Which numbers of documents count under a name. -/
structure Row.NumbersCount (field : String) : Prop where
  /-- An integer counts as itself, as far as a decimal has digits. -/
  whole : ∀ (row : Row) (whole : Int), row.Stores field (.int whole) → (digitsOf whole.natAbs).length < readableDigits →
    ∃ text, row.answer field = .ok (.text text) ∧ (Value.text text).number? = some (.ofInt whole)
  /-- A finite float counts as itself when it is in plain notation, and otherwise not at all. -/
  float : ∀ (row : Row) (x : Float), row.Stores field (.float x) → x.isFinite = true →
    ∃ text, row.answer field = .ok (.text text) ∧
      (Binary.IsPlain x → ∃ number, (Value.text text).number? = some number ∧ Binary.ofDecimal number = x) ∧
      (¬Binary.IsPlain x → (Value.text text).number? = none)
  /-- Sums and the like are over the numbers in plain notation alone. -/
  aggregates : ∀ (call : AggregateCall) (position : Nat) (rows : List Row) (number : Row → StoredNumber)
      (layout : Layout), call.argument = some ⟨field, position, false⟩ → call.function ≠ .count →
    Row.HoldNumbers rows field number →
    call.evaluate rows layout =
      AggregateCall.ofNumbers call.function (((rows.map number).filter (·.IsPlain)).map (·.rounded))
  /-- Numeric conditions compare the numbers in plain notation, and keep no others. -/
  conditions : ∀ (condition : Condition) (position : Nat) (accepts : Ordering → Bool) (right : Decimal)
      (rows : List Row) (number : Row → StoredNumber) (layout : Layout), condition.column = ⟨field, position, false⟩ →
    condition.operator.accepts? = some accepts → condition.value.isNumber = true →
    Decimal.ofText? condition.value.text = some right → right.isFinite = true → Row.HoldNumbers rows field number →
    ∃ keeps : Row → Bool, condition.rowMask rows layout = .ok (rows.map keeps) ∧ ∀ row ∈ rows,
      ((number row).IsPlain → ∃ left order, (Value.text (number row).text).number? = some left ∧
        (number row).Is left ∧ left.compare? right = some order ∧ keeps row = accepts order) ∧
      (¬(number row).IsPlain → keeps row = false)

/-- Every integer of a document counts, and of the finite floats zero and those between `10 ^ -4` and `10 ^ 16`. -/
theorem Row.number_of_document (field : String) : Row.NumbersCount field := by
  constructor
  · intro row whole stored short
    exact ⟨_, answer_of_stores stored (Value.documentText_int whole), Value.number?_integerText short⟩
  · intro row x stored finite
    exact ⟨_, answer_of_stores stored (Value.documentText_float finite), Value.number?_toText finite⟩
  · intro call position rows number layout argument numeric stored
    exact AggregateCall.evaluate_of_numbers argument rfl numeric stored layout
  · intro condition position accepts right rows number layout column ordering numeric read finite stored
    have name : condition.column.name = field := by rw [column]
    have kept := Condition.rowMask_of_numbers (column ▸ rfl) ordering numeric read finite (name ▸ stored) layout
    refine ⟨_, kept, fun row member => ?_⟩
    obtain ⟨counted, skipped⟩ := StoredNumber.number?_shown (stored row member).2
    constructor
    · intro plain
      obtain ⟨left, shown, is⟩ := counted plain
      obtain ⟨order, ordered⟩ := Decimal.exists_compare? shown finite
      refine ⟨left, order, shown, is, ordered, ?_⟩
      simp [shown, ordered]
    · intro marked
      simp [skipped marked]

/-- A fraction and an integer count as themselves, and so they do in the sum over both and beside a number in a
condition. -/
theorem Row.number_of_document_half :
    let half : Row := ⟨[], .record [("c1", .float 0.5)]⟩
    let seven : Row := ⟨[("id", .text "r")], .record [("c1", .int 7)]⟩
    (∃ text, half.answer "c1" = .ok (.text text) ∧
      ∃ number, (Value.text text).number? = some number ∧ Binary.ofDecimal number = 0.5) ∧
    (∃ text, seven.answer "c1" = .ok (.text text) ∧ (Value.text text).number? = some (.ofInt 7)) ∧
    AggregateCall.evaluate ⟨.sum, some ⟨"c1", 12, false⟩, 7⟩ [half, seven] {} = AggregateCall.ofNumbers .sum [0.5, 7] ∧
    Condition.rowMask ⟨⟨"c1", 12, false⟩, .less, ⟨.decimal (.finite false 3 0), 18, some "3"⟩⟩ [half, seven] {} =
      .ok [true, false] := by
  intro half seven
  have fraction : half.Stores "c1" (.float 0.5) := ⟨_, rfl, rfl⟩
  have integer : seven.Stores "c1" (.int 7) := ⟨_, rfl, rfl⟩
  have finite : (0.5 : Float).isFinite = true := by decide +kernel
  have short : (digitsOf 7).length < readableDigits := by decide +kernel
  have plain : Binary.IsPlain 0.5 := by decide +kernel
  let number (row : Row) : StoredNumber := if row.cells.isEmpty then .float 0.5 else .whole 7
  have each : Row.HoldNumbers [half, seven] "c1" number :=
    List.forall_mem_cons.mpr ⟨⟨fraction, finite⟩, List.forall_mem_singleton.mpr ⟨integer, short⟩⟩
  obtain ⟨wholes, floats, sums, conditions⟩ := Row.number_of_document "c1"
  refine ⟨?_, wholes seven 7 integer short, ?_, ?_⟩
  · obtain ⟨text, answered, counted, -⟩ := floats half 0.5 fraction finite
    exact ⟨text, answered, counted plain⟩
  · have seen : (([half, seven].map number).filter (·.IsPlain)).map (·.rounded) = [0.5, 7] := by decide +kernel
    rw [sums _ 12 [half, seven] number {} rfl (by decide) each, seen]
  · obtain ⟨keeps, ran, kept⟩ := conditions ⟨⟨"c1", 12, false⟩, .less, ⟨.decimal (.finite false 3 0), 18, some "3"⟩⟩ 12
      (· == .lt) (.finite false 3 0) [half, seven] number {} rfl rfl rfl (by decide +kernel) rfl each
    obtain ⟨left, order, shown, -, ordered, less⟩ := (kept half (by simp)).1 plain
    obtain ⟨other, above, -, rfl, greater, more⟩ := (kept seven (by simp)).1 trivial
    have read : (Value.text (number half).text).number? = some (.finite false 5 (-1)) := by decide +kernel
    obtain rfl : .finite false 5 (-1) = left := Option.some.inj (read.symm.trans shown)
    obtain rfl : .lt = order := Option.some.inj ordered
    obtain rfl : .gt = above := Option.some.inj greater
    rw [ran, List.map_cons, List.map_singleton, less, more]
    rfl

/-- A large number is a number of its document, but its text is not, and a sum does not see it. -/
theorem Row.number_of_large_document :
    let row : Row := ⟨[], .record [("c1", .float 1e16)]⟩
    (1e16 : Float).isFinite = true ∧ row.answer "c1" = .ok (.text "1e+16") ∧ (Value.text "1e+16").number? = none ∧
      AggregateCall.evaluate ⟨.sum, some ⟨"c1", 11, false⟩, 7⟩ [row] {} = .ok .null := by
  intro row
  have stored : row.Stores "c1" (.float 1e16) := ⟨_, rfl, rfl⟩
  have finite : (1e16 : Float).isFinite = true := by decide +kernel
  have large : ¬Binary.IsPlain 1e16 := by decide +kernel
  have shown : Binary.toText 1e16 = "1e+16" := by decide +kernel
  have each : Row.HoldNumbers [row] "c1" fun _ => .float 1e16 := List.forall_mem_singleton.mpr ⟨stored, finite⟩
  refine ⟨finite, shown ▸ Row.answer_of_stores stored (Value.documentText_float finite),
    shown ▸ (Value.number?_toText finite).2 large, ?_⟩
  have total : AggregateCall.evaluate ⟨.sum, some ⟨"c1", 11, false⟩, 7⟩ [row] {} = _ :=
    AggregateCall.evaluate_of_numbers rfl rfl (by decide) each {}
  have marked : ¬(StoredNumber.float 1e16).IsPlain := large
  simpa [marked, AggregateCall.ofNumbers] using total

end FormQuery
