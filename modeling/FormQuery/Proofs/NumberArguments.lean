import FormQuery.Proofs.BareNumbers
import FormQuery.Proofs.CharacterPositions
import FormQuery.Proofs.DecimalText
import FormQuery.Proofs.DocumentNumbers
import FormQuery.Proofs.NumericCells

/-! Numbers as text arguments. A number that is typed in a query is a text in the functions of a new value: the digits
with all typed places, or, when the number is small and has more than six places, digits and a power of ten. Texts of
the second kind do not count as numbers once they are stored. -/

namespace FormQuery

open Decimal

namespace StringFunction

def takesText : StringFunction → Nat → Bool
  | left, index | right, index | substring, index => index = 0
  | _, _ => true

theorem apply_congr {function : StringFunction} {before : List Value} (text : function.takesText before.length = true)
    {first second : Value} (same : argumentText first = argumentText second) (after : List Value) :
    function.apply (before ++ first :: after) = function.apply (before ++ second :: after) := by
  cases function with
  | left | right =>
    obtain rfl : before = [] := by simpa [takesText] using text
    rcases after with _ | ⟨a, _ | ⟨b, rest⟩⟩ <;> simp [apply, same]
  | substring =>
    obtain rfl : before = [] := by simpa [takesText] using text
    rcases after with _ | ⟨a, _ | ⟨b, _ | ⟨c, rest⟩⟩⟩
    -- A length that is null is a length that is not given.
    case cons.cons.nil => cases b <;> simp [apply, same]
    all_goals simp [apply, same]
  | concat => simp [apply, same]
  | upper | lower | trim | length =>
    rcases before with _ | ⟨a, before⟩
    · cases after <;> simp [apply, same]
    · cases before <;> simp [apply]
  | replace =>
    rcases before with _ | ⟨a, _ | ⟨b, _ | ⟨c, before⟩⟩⟩
    · rcases after with _ | ⟨b, _ | ⟨c, _ | ⟨d, rest⟩⟩⟩ <;> simp [apply, same]
    · rcases after with _ | ⟨c, _ | ⟨d, rest⟩⟩ <;> simp [apply, same]
    · cases after <;> simp [apply, same]
    · cases before <;> simp [apply]

end StringFunction

namespace ValueExpr

open StringFunction

variable {submission : Submission} {layout : Layout}

theorem evaluateAll_eq_mapM (arguments : List ValueExpr) :
    evaluateAll submission layout arguments = arguments.mapM (evaluate submission layout) := by
  induction arguments with
  | nil => rfl
  | cons argument rest ih => rw [evaluateAll, List.mapM_cons, ih]

theorem evaluate_call_congr {name : String} {function : StringFunction} (found : find? name = some function)
    {before : List ValueExpr} (text : function.takesText before.length = true) {first second : ValueExpr}
    {one two : Value} (first_ran : first.evaluate submission layout = .ok one)
    (second_ran : second.evaluate submission layout = .ok two) (same : argumentText one = argumentText two)
    (after : List ValueExpr) (position : Nat) :
    (call name (before ++ first :: after) position).evaluate submission layout =
      (call name (before ++ second :: after) position).evaluate submission layout := by
  simp only [evaluate, found, evaluateAll_eq_mapM, List.mapM_append, List.mapM_cons, first_ran, second_ran]
  cases ran : before.mapM (evaluate submission layout) with
  | error fault => rfl
  | ok values =>
    cases rest_ran : after.mapM (evaluate submission layout) with
    | error fault => rfl
    | ok others => exact apply_congr (length_of_mapM ran ▸ text) same others

end ValueExpr

section Stored

variable {field text : String}

theorem Row.fieldText_of_stores {row : Row} (stored : row.Stores field (.text text)) :
    Sql.fieldText row.document field = some text := by
  obtain ⟨document, record, present⟩ := stored
  simp only [Sql.fieldText, record, present]
  rfl

/-- A condition of equality finds a stored text exactly when the text is a number of the same value. -/
theorem Condition.rowMask_stored {rows : List Row} (stored : ∀ row ∈ rows, row.Stores field (.text text))
    {literal : Literal} (numeric : literal.Numeric) {bound : ℚ} (same : literal.rational? = some bound) (place : Nat)
    (layout : Layout) :
    Condition.rowMask ⟨⟨field, place, false⟩, .equal, literal⟩ rows layout =
      .ok (rows.map fun _ =>
        ((Value.text text).number?.bind Decimal.rational?).any fun own => decide (own = bound)) := by
  have column : Row.column rows ⟨field, place, false⟩ layout = .ok (rows.map fun _ => .text text) :=
    Row.column_answers rfl (fun row member => Row.answer_of_stores (stored row member) rfl) layout
  rw [rowMask_numbers rfl rfl numeric same column]
  refine congrArg Except.ok (List.map_congr_left fun row member => ?_)
  rw [fieldRational?, fieldNumber?, Row.fieldText_of_stores (stored row member), Option.bind_some]
  refine congrArg (Option.any · _) (funext fun own => ?_)
  rw [Bool.eq_iff_iff, beq_iff_eq, compare_eq_iff_eq, decide_eq_true_iff]

end Stored

/-- What a typed number is in the functions of a new value, and in the document once it is stored. -/
structure Literal.ShownAs (literal : Literal) (number : Decimal) : Prop where
  value : literal.value = .decimal number
  /-- CONCAT of the number alone is its text. -/
  concat : ∀ name, StringFunction.find? name = some .concat → ∀ position submission layout,
    (ValueExpr.call name [.literal literal] position).evaluate submission layout = .ok (.text number.toText)
  /-- Every function that takes a text takes the number for this text. -/
  arguments : ∀ name function, StringFunction.find? name = some function → ∀ before after : List ValueExpr,
    function.takesText before.length = true → ∀ position submission layout,
      (ValueExpr.call name (before ++ .literal literal :: after) position).evaluate submission layout =
        (ValueExpr.call name (before ++ .literal ⟨.text number.toText, 0, none⟩ :: after) position).evaluate
          submission layout
  /-- In positional notation the text is a numeral of the number, and counts as the number with all its places. -/
  plain : number.IsPositional → ∃ numeral : Numeral, number.toText.toList = numeral.text ∧
    number.rational? = some numeral.value ∧ (Value.text number.toText).number? = some number
  marked : ¬number.IsPositional → (Value.text number.toText).number? = none
  /-- So an UPDATE that stores it through CONCAT is found again by the number in positional notation only. -/
  found : ∀ (change : Update) name position submission layout, StringFunction.find? name = some .concat →
    change.value = .call name [.literal literal] position →
      change.patch submission layout = .ok [(change.target.name, .text number.toText)] ∧
      ∀ rows : List Row, (∀ row ∈ rows, row.Stores change.target.name (.text number.toText)) → ∀ place,
        Condition.rowMask ⟨⟨change.target.name, place, false⟩, .equal, literal⟩ rows layout =
          .ok (rows.map fun _ => decide number.IsPositional)

theorem Literal.Numeric.shownAs {literal : Literal} (numeric : literal.Numeric) {number : Decimal}
    (read : Decimal.ofText? literal.text = some number) : literal.ShownAs number := by
  obtain ⟨raw, own, typed, spelled, same, value⟩ := id numeric
  obtain rfl : literal.text = raw := by simp [Literal.text, typed]
  obtain rfl : own = number := Option.some.inj (same.symm.trans read)
  obtain ⟨plain, marked⟩ := Value.number?_typed spelled read
  have evaluated {position : Nat} {submission : Submission} {layout : Layout} {name : String}
      (found : StringFunction.find? name = some .concat) :
      (ValueExpr.call name [.literal literal] position).evaluate submission layout = .ok (.text own.toText) := by
    have alone : StringFunction.concat.apply [.decimal own] = .ok (.text own.toText) := by
      simp [StringFunction.apply, StringFunction.argumentText, Value.display, StringFunction.textValue]
    simp only [ValueExpr.evaluate, found, ValueExpr.evaluateAll, value]
    exact alone
  constructor
  case value => exact value
  case concat => exact fun name found position submission layout => evaluated found
  case arguments =>
    intro name function found before after text position submission layout
    have same : StringFunction.argumentText literal.value = StringFunction.argumentText (.text own.toText) := by
      rw [value]
      rfl
    have constant (typed : Literal) : (ValueExpr.literal typed).evaluate submission layout = .ok typed.value := by
      rw [ValueExpr.evaluate]
    exact ValueExpr.evaluate_call_congr found text (constant literal) (constant _) same after position
  case plain => exact plain
  case marked => exact marked
  case found =>
    intro change name position submission layout found call
    refine ⟨?_, fun rows stored place => ?_⟩
    · rw [Update.patch, Update.newValue, call]
      simp only [evaluated found]
      rfl
    · obtain ⟨_, bound, again, -, stands, rational⟩ := numeric.exists_rational
      obtain rfl := Option.some.inj (read.symm.trans again)
      rw [Condition.rowMask_stored stored numeric rational]
      refine congrArg Except.ok (List.map_congr_left fun row _ => ?_)
      by_cases positional : own.IsPositional
      · obtain ⟨-, -, -, counted⟩ := plain positional
        simp [counted, stands, positional]
      · simp [marked positional, positional]

/-- A number that a query is read with is a text in every function, and a numeral only in positional notation. -/
theorem Query.number_as_text {source : String} {query : Query} (read : Query.read source = .accepted query)
    {literal : Literal} (among : literal ∈ query.allLiterals) (typed : literal.isNumber = true) :
    ∃ number, Decimal.ofText? literal.text = some number ∧ literal.ShownAs number := by
  have valid : literal.WellFormed := Query.allLiterals_wellFormed (Query.wellFormed_of_read read) literal among
  have numeric : literal.Numeric := valid.numeric typed
  obtain ⟨number, -, shown, -⟩ := numeric.exists_rational
  exact ⟨number, shown, numeric.shownAs shown⟩

private def Reading.concatenated? : Reading → Option (Update × Literal)
  | .accepted (.update change) =>
    match change.value with
    | .call "CONCAT" [.literal literal] _ => some (change, literal)
    | _ => none
  | _ => none

private theorem Query.update_of_concatenated (source target typed : String)
    (shown : ((Query.read source).concatenated?.any fun (change, literal) =>
      change.target.name = target && literal.isNumber && literal.text = typed) = true) :
    ∃ change literal position, Query.read source = .accepted (.update change) ∧ change.target.name = target ∧
      change.value = .call "CONCAT" [.literal literal] position ∧ literal.isNumber = true ∧ literal.text = typed ∧
      literal ∈ (Query.update change).allLiterals := by
  obtain ⟨⟨change, literal⟩, found, passed⟩ := (Option.any_eq_true _ _).mp shown
  simp only [Bool.and_eq_true, decide_eq_true_eq] at passed
  obtain ⟨⟨name, number⟩, text⟩ := passed
  generalize Query.read source = reading at found ⊢
  unfold Reading.concatenated? at found
  split at found
  next =>
    split at found
    next typed position value =>
      cases found
      refine ⟨change, literal, position, rfl, name, value, number, text, ?_⟩
      simp [Query.allLiterals, value, ValueExpr.literals, ValueExpr.literalsAll]
    next => cases found
  next => cases found

theorem Query.number_as_text_half :
    let source := "UPDATE FORM 'f1' SET FIELD('c1') = CONCAT(0.50) WHERE submission_id = 'r1'"
    ∃ change literal, Query.read source = .accepted (.update change) ∧
      literal ∈ (Query.update change).allLiterals ∧ literal.isNumber = true ∧
      change.patch [] {} = .ok [("c1", .text "0.50")] ∧
      Condition.rowMask ⟨⟨"c1", 6, false⟩, .equal, literal⟩ [⟨[], .record [("c1", .text "0.50")]⟩] {} = .ok [true] := by
  intro source
  obtain ⟨change, literal, position, read, target, value, typed, text, among⟩ :=
    Query.update_of_concatenated source "c1" "0.50" (by decide +kernel)
  obtain ⟨number, same, -, -, -, -, -, found⟩ := Query.number_as_text read among typed
  have half : Decimal.ofText? "0.50" = some (.finite false 50 (-2)) := by decide +kernel
  obtain rfl : .finite false 50 (-2) = number := Option.some.inj (half.symm.trans (text ▸ same))
  have positional : IsPositional (.finite false 50 (-2)) := ⟨by omega, .inl (by omega)⟩
  have shown : toText (.finite false 50 (-2)) = "0.50" := by decide +kernel
  obtain ⟨stored, again⟩ := found change "CONCAT" position [] {} (by decide +kernel) value
  rw [target, shown] at stored again
  have each : ∀ row ∈ [(⟨[], .record [("c1", .text "0.50")]⟩ : Row)], row.Stores "c1" (.text "0.50") := by
    simpa using ⟨_, rfl, rfl⟩
  exact ⟨change, literal, read, among, typed, stored, by simpa [positional] using again _ each 6⟩

/-- A number with seven places is stored with a power of ten. This is no number, and the number does not find it. -/
theorem Update.small_number_lost :
    let source := "UPDATE FORM 'f1' SET FIELD('c1') = CONCAT(0.0000001) WHERE submission_id = 'r1'"
    ∃ change literal position, Query.read source = .accepted (.update change) ∧
      change.value = .call "CONCAT" [.literal literal] position ∧
      literal.isNumber = true ∧ literal.text = "0.0000001" ∧
      change.value.evaluate [] {} = .ok (.text "1E-7") ∧ (Value.text "1E-7").number? = none ∧
      Condition.rowMask ⟨⟨"c1", 6, false⟩, .equal, literal⟩ [⟨[], .record [("c1", .text "1E-7")]⟩] {} =
        .ok [false] := by
  intro source
  obtain ⟨change, literal, position, read, target, value, typed, text, among⟩ :=
    Query.update_of_concatenated source "c1" "0.0000001" (by decide +kernel)
  have valid : literal.WellFormed := Query.allLiterals_wellFormed (Query.wellFormed_of_read read) literal among
  have numeric : literal.Numeric := valid.numeric typed
  have small : Decimal.ofText? literal.text = some (.finite false 1 (-7)) := by
    rw [text]
    decide +kernel
  have shown : toText (.finite false 1 (-7)) = "1E-7" := by decide +kernel
  have marked : ¬IsPositional (.finite false 1 (-7)) := by decide +kernel
  obtain ⟨-, concat, -, -, uncounted, found⟩ := numeric.shownAs small
  have name : StringFunction.find? "CONCAT" = some .concat := by decide +kernel
  obtain ⟨-, again⟩ := found change "CONCAT" position [] {} name value
  have uncounted := uncounted marked
  rw [target, shown] at again
  rw [shown] at uncounted
  have each : ∀ row ∈ [(⟨[], .record [("c1", .text "1E-7")]⟩ : Row)], row.Stores "c1" (.text "1E-7") := by
    simpa using ⟨_, rfl, rfl⟩
  refine ⟨change, literal, position, read, value, typed, text, ?_, uncounted, by simpa [marked] using again _ each 6⟩
  rw [value, concat "CONCAT" name, shown]

end FormQuery
