import FormQuery.Proofs.NearestFloat
import FormQuery.Proofs.Runs
import FormQuery.Sample.Assignment

/-! Parts of a text by the positions of their characters. A count goes through a floating-point number, which is exact
for the whole numbers that fit its mantissa, so LEFT, RIGHT and SUBSTRING take exactly the characters whose positions
are told by their counts, whatever the signs of these are and however far they lie outside of the text. -/

namespace FormQuery

namespace Binary

open Decimal Float.Model

theorem truncate_pack {whole : Nat} (positive : 0 < whole) (fits : whole < 2 ^ 53) (negative : Bool) :
    truncate (Float.ofModel (Float.Model.pack (.finite (signOf negative) (wholeParts whole).mantissa
      (wholeParts whole).exponent (wholeParts_canonical positive fits).positive))) =
        signed negative whole := by
  have canonical := wholeParts_canonical positive fits
  have bits := toBits_pack canonical (signOf negative)
  have bounded := Parts.toBits_lt canonical
  have sign : (signOf negative).toBitVec.toNat = if negative then 1 else 0 := by cases negative <;> rfl
  have two : Nat.pow 2 63 = 2 ^ 63 := rfl
  have magnitude : (wholeParts whole).mantissa * 2 ^ (wholeParts whole).exponent.toNat /
      2 ^ (-(wholeParts whole).exponent).toNat = whole := by
    simp [wholeParts, Nat.shiftLeft_eq]
  rw [truncate, bits, sign, two]
  cases negative with
  | false =>
    have below : (0 * 2 ^ 63 + (wholeParts whole).toBits) % 2 ^ 63 = (wholeParts whole).toBits := by omega
    simp only [Bool.false_eq_true, if_false, below, Parts.ofBits_toBits canonical]
    rw [if_pos (by omega)]
    exact congrArg Nat.cast magnitude
  | true =>
    have below : (1 * 2 ^ 63 + (wholeParts whole).toBits) % 2 ^ 63 = (wholeParts whole).toBits := by omega
    simp only [if_true, below, Parts.ofBits_toBits canonical]
    rw [if_neg (by omega)]
    exact congrArg (fun size : Nat => -(size : Int)) magnitude

/-- A float that holds a whole number, and gives it back. -/
structure IsWhole (x : Float) (whole : Int) : Prop where
  isNaN : x.isNaN = false
  isInf : x.isInf = false
  truncated : truncate x = whole

theorem isWhole_nearest {whole coefficient : Nat} {exponent : Int} (fits : whole < 2 ^ 53)
    (same : scaled coefficient exponent = whole) (negative : Bool) :
    IsWhole (withSign negative (nearest coefficient exponent)) (signed negative whole) := by
  rcases Nat.eq_zero_or_pos whole with rfl | positive
  case inl =>
    have power : (10 : ℚ) ^ exponent ≠ 0 := zpow_ne_zero _ (by norm_num)
    obtain rfl : coefficient = 0 := by simpa [scaled, power] using same
    rw [nearest, if_pos rfl]
    cases negative <;> constructor <;> decide +kernel
  case inr =>
    have canonical := wholeParts_canonical positive fits
    have covered : (wholeParts whole).Covers (scaled coefficient exponent) := by
      rw [same, ← wholeParts_value]
      exact covers_value canonical
    rw [nearest_of_covers canonical covered, withSign_pack canonical]
    obtain ⟨x, shown⟩ : ∃ x, x = Float.ofModel (Float.Model.pack (.finite (signOf negative)
      (wholeParts whole).mantissa (wholeParts whole).exponent canonical.positive)) := ⟨_, rfl⟩
    have unpacked := unpack_pack canonical negative
    have finite : x.isFinite = true := by
      have known : x.isFinite = x.toModel.unpack.isFinite := rfl
      rw [known, shown, unpacked]
      rfl
    obtain ⟨number, bounded⟩ := classes_of_isFinite finite
    rw [← shown]
    exact ⟨number, bounded, shown ▸ truncate_pack positive fits negative⟩

end Binary

/-- A value is given as a whole number: an integer, or a decimal whose places behind the point are zeros. -/
inductive Value.IsWhole : Value → Int → Prop
  | int (whole : Int) : IsWhole (.int whole) whole
  | decimal {negative : Bool} {coefficient : Nat} {exponent whole : Int}
      (same : Decimal.scaled (Decimal.signed negative coefficient) exponent = whole) :
      IsWhole (.decimal (.finite negative coefficient exponent)) whole

namespace StringFunction

theorem count_of_isWhole {value : Value} {number : Float} {whole : Int} (shown : countNumber value = .ok number)
    (known : Binary.IsWhole number whole) : count value = .ok whole := by
  rw [count, bind_ok shown, known.isNaN, known.isInf, known.truncated]
  rfl

theorem signed_natAbs (whole : Int) : Decimal.signed (whole < 0) whole.natAbs = whole := by
  simp only [Decimal.signed, decide_eq_true_eq]
  split <;> omega

theorem exists_size {negative : Bool} {coefficient : Nat} {exponent whole : Int}
    (same : Decimal.scaled (Decimal.signed negative coefficient) exponent = whole) :
    ∃ size : Nat, Decimal.scaled coefficient exponent = size ∧ whole = Decimal.signed negative size := by
  have least : 0 ≤ Decimal.scaled coefficient exponent := by
    unfold Decimal.scaled
    positivity
  cases negative with
  | false =>
    rw [Decimal.signed, if_neg Bool.false_ne_true] at same
    obtain ⟨size, rfl⟩ := Int.eq_ofNat_of_zero_le (by exact_mod_cast same ▸ least)
    exact ⟨size, by exact_mod_cast same, rfl⟩
  | true =>
    rw [Decimal.signed, if_pos rfl, Decimal.scaled_neg] at same
    have opposite : Decimal.scaled coefficient exponent = (-whole : Int) := by
      push_cast
      linarith
    obtain ⟨size, shown⟩ := @Int.eq_ofNat_of_zero_le (-whole) (by exact_mod_cast opposite ▸ least)
    refine ⟨size, by rw [opposite, shown]; rfl, ?_⟩
    rw [Decimal.signed, if_pos rfl]
    omega

theorem count_whole {value : Value} {whole : Int} (given : value.IsWhole whole) (small : whole.natAbs < 2 ^ 53) :
    count value = .ok whole := by
  cases given with
  | int =>
    have same : Decimal.scaled (whole.natAbs : Int) 0 = (whole.natAbs : Nat) := by simp [Decimal.scaled]
    have known := Binary.isWhole_nearest small same (whole < 0)
    have number : Binary.ofInt? whole = some (Binary.withSign (whole < 0) (Binary.nearest whole.natAbs 0)) := by
      rw [Binary.ofInt?, known.isInf]
      rfl
    refine count_of_isWhole ?_ (signed_natAbs whole ▸ known)
    rw [countNumber, number]
  | @decimal negative coefficient exponent _ same =>
    obtain ⟨size, scale, rfl⟩ := exists_size same
    have fits : size < 2 ^ 53 := by
      simpa [Decimal.signed, apply_ite Int.natAbs] using small
    exact count_of_isWhole rfl (Binary.isWhole_nearest fits scale negative)

end StringFunction

namespace Text

/-- The characters of a text whose positions, counted from one, are wanted. -/
def picked (wanted : Int → Bool) (text : List Char) : List Char :=
  ((text.zipIdx 1).filter fun (_, position) => wanted position).map Prod.fst

theorem picked_congr {wanted other : Int → Bool} {text : List Char}
    (same : ∀ position : Int, 1 ≤ position → position ≤ text.length → wanted position = other position) :
    picked wanted text = picked other text := by
  refine congrArg (List.map Prod.fst) (List.filter_congr fun ⟨c, position⟩ member => ?_)
  have low := List.le_snd_of_mem_zipIdx member
  have high := List.snd_lt_add_of_mem_zipIdx member
  simp only at low high
  exact same position (by omega) (by omega)

/-- Positions without a gap are those of a window, wherever it starts and ends. The induction is on the text, with the
number of its first position. -/
theorem window_zipIdx (low high : Int) (text : List Char) (first : Nat) :
    ((text.zipIdx first).filter fun (_, position) => (low ≤ position && position < high : Bool)).map Prod.fst =
      (text.take (high - first).toNat).drop (low - first).toNat := by
  induction text generalizing first with
  | nil => simp
  | cons c text ih =>
    rw [List.zipIdx_cons, List.filter_cons]
    by_cases beyond : high ≤ first
    case pos =>
      have closed : (high - first).toNat = 0 ∧ (high - (first + 1 : Nat)).toNat = 0 := by omega
      rw [if_neg (by simp; omega), ih, closed.1, closed.2, List.take_zero, List.take_zero, List.drop_nil, List.drop_nil]
    case neg =>
      obtain ⟨left, size, shorter⟩ : ∃ left : Nat, (high - first).toNat = left + 1 ∧
        (high - (first + 1 : Nat)).toNat = left := ⟨(high - first).toNat - 1, by omega, by omega⟩
      rw [size, List.take_succ_cons]
      by_cases before : (first : Int) < low
      case pos =>
        obtain ⟨skipped, more, less⟩ : ∃ skipped : Nat, (low - first).toNat = skipped + 1 ∧
          (low - (first + 1 : Nat)).toNat = skipped := ⟨(low - first).toNat - 1, by omega, by omega⟩
        rw [if_neg (by simp; omega), ih, shorter, less, more, List.drop_succ_cons]
      case neg =>
        have none : (low - first).toNat = 0 ∧ (low - (first + 1 : Nat)).toNat = 0 := by omega
        rw [if_pos (by simp; omega), List.map_cons, ih, shorter, none.1, none.2, List.drop_zero, List.drop_zero]

theorem picked_window (low high : Int) (text : List Char) :
    picked (fun position => low ≤ position && position < high) text =
      (text.take (high - 1).toNat).drop (low - 1).toNat :=
  window_zipIdx low high text 1

theorem picked_until (high : Int) (text : List Char) :
    picked (fun position => position ≤ high) text = text.take high.toNat := by
  have window := picked_window 1 (high + 1) text
  rw [add_sub_cancel_right, sub_self, Int.toNat_zero, List.drop_zero] at window
  rw [← window]
  refine picked_congr fun position least _ => ?_
  rw [decide_eq_true least, Bool.true_and, decide_eq_decide]
  omega

theorem picked_from (low : Int) (text : List Char) :
    picked (fun position => low ≤ position) text = text.drop (low - 1).toNat := by
  have window := picked_window low (text.length + 1) text
  rw [add_sub_cancel_right, Int.toNat_natCast, List.take_length] at window
  rw [← window]
  refine picked_congr fun position _ most => ?_
  have inside : position < text.length + 1 := by omega
  rw [decide_eq_true inside, Bool.and_true]

end Text

namespace StringFunction

open Text

variable (text : List Char) (whole : Int)

theorem takeLeft_picked : takeLeft text whole =
    picked (fun position => if 0 ≤ whole then position ≤ whole else position ≤ text.length + whole) text := by
  unfold takeLeft
  split
  next => exact (picked_until whole text).symm
  next negative =>
    rw [picked_until]
    congr 1
    omega

theorem takeRight_picked : takeRight text whole =
    picked (fun position =>
      if 0 < whole then position > text.length - whole else if whole = 0 then false else position > -whole) text := by
  unfold takeRight
  split
  next least =>
    have start : text.length - whole.toNat = (text.length - whole + 1 - 1).toNat := by omega
    rw [start, ← picked_from]
    refine picked_congr fun position _ most => ?_
    by_cases some_character : 0 < whole
    · rw [if_pos some_character, decide_eq_decide]
      omega
    · obtain rfl : whole = 0 := by omega
      simp
      omega
  next negative =>
    have start : whole.natAbs = (-whole + 1 - 1).toNat := by omega
    rw [start, ← picked_from]
    refine picked_congr fun position _ _ => ?_
    rw [if_neg (by omega), if_neg (by omega), decide_eq_decide]
    omega

theorem window_none : window text whole none = picked (fun position => whole ≤ position) text :=
  (picked_from whole text).symm

theorem window_some (size : Int) : window text whole (some size) =
    picked (fun position => whole ≤ position && position < whole + size) text := by
  have stop : whole - 1 + size = whole + size - 1 := by omega
  rw [picked_window, window, stop]

end StringFunction

namespace ValueExpr

open StringFunction Text

variable {submission : Submission} {layout : Layout}

theorem evaluate_call {name : String} {function : StringFunction} (found : find? name = some function)
    {arguments : List ValueExpr} {values : List Value} (ran : evaluateAll submission layout arguments = .ok values)
    (position : Nat) : (call name arguments position).evaluate submission layout = function.apply values := by
  rw [evaluate, found]
  exact bind_ok ran _

theorem evaluateAll_cons {argument : ValueExpr} {value : Value}
    (first : argument.evaluate submission layout = .ok value) {rest : List ValueExpr} {values : List Value}
    (others : evaluateAll submission layout rest = .ok values) :
    evaluateAll submission layout (argument :: rest) = .ok (value :: values) := by
  rw [evaluateAll, bind_ok first, bind_ok others]
  rfl

/-- LEFT, RIGHT and SUBSTRING give the characters at the positions that their counts tell. A text may be any value, and
null counts as the empty text; only a negative length is refused. -/
theorem evaluate_picked {text start : ValueExpr} {shown startValue : Value} {first : Int}
    (text_ran : text.evaluate submission layout = .ok shown)
    (start_ran : start.evaluate submission layout = .ok startValue) (given : startValue.IsWhole first)
    (small : first.natAbs < 2 ^ 53) (position : Nat) :
    let characters := argumentText shown
    (∀ name, find? name = some .left → (call name [text, start] position).evaluate submission layout =
      .ok (textValue (picked (fun position =>
        if 0 ≤ first then position ≤ first else position ≤ characters.length + first) characters))) ∧
    (∀ name, find? name = some .right → (call name [text, start] position).evaluate submission layout =
      .ok (textValue (picked (fun position =>
        if 0 < first then position > characters.length - first else if first = 0 then false else position > -first)
          characters))) ∧
    (∀ name, find? name = some .substring → (call name [text, start] position).evaluate submission layout =
      .ok (textValue (picked (fun position => first ≤ position) characters))) ∧
    ∀ name, find? name = some .substring → ∀ (size : ValueExpr) (sizeValue : Value) (length : Int),
      size.evaluate submission layout = .ok sizeValue → sizeValue.IsWhole length → length.natAbs < 2 ^ 53 →
        (call name [text, start, size] position).evaluate submission layout =
          if 0 ≤ length then
            .ok (textValue (picked (fun position => first ≤ position && position < first + length) characters))
          else .error .negativeLength := by
  have counted := count_whole given small
  have two : evaluateAll submission layout [text, start] = .ok [shown, startValue] :=
    evaluateAll_cons text_ran (evaluateAll_cons start_ran rfl)
  refine ⟨?_, ?_, ?_, ?_⟩
  · intro name found
    rw [evaluate_call found two, apply, bind_ok counted, takeLeft_picked]
    rfl
  · intro name found
    rw [evaluate_call found two, apply, bind_ok counted, takeRight_picked]
    rfl
  · intro name found
    rw [evaluate_call found two, apply, bind_ok counted, window_none]
    rfl
  · intro name found size sizeValue length size_ran sized fits
    have three : evaluateAll submission layout [text, start, size] = .ok [shown, startValue, sizeValue] :=
      evaluateAll_cons text_ran (evaluateAll_cons start_ran (evaluateAll_cons size_ran rfl))
    have some_size : sizeValue ≠ .null := by
      intro missing
      subst missing
      cases sized
    rw [evaluate_call found three, apply, bind_ok counted, bind_ok (count_whole sized fits), window_some]
    · by_cases least : 0 ≤ length
      · rw [if_pos least, if_neg (by omega)]
        rfl
      · rw [if_neg least, if_pos (by omega)]
        rfl
    · exact some_size

/-- Counts that are typed with places, and a window that starts before the text and ends in it. -/
theorem evaluate_picked_typed :
    let submission : Submission := [("submission_data", .record [("a", .text "naïve")])]
    let text : ValueExpr := .field ⟨"a", 0, false⟩
    let start : ValueExpr := .literal ⟨.decimal (.finite true 10 (-1)), 0, none⟩
    let size : ValueExpr := .literal ⟨.decimal (.finite false 500 (-2)), 0, some "5.00"⟩
    (Value.decimal (.finite true 10 (-1))).IsWhole (-1) ∧ (Value.decimal (.finite false 500 (-2))).IsWhole 5 ∧
      (call "LEFT" [text, start] 0).evaluate submission {} = .ok (.text "naïv") ∧
      (call "right" [text, start] 0).evaluate submission {} = .ok (.text "aïve") ∧
      (call "Substring" [text, start] 0).evaluate submission {} = .ok (.text "naïve") ∧
      (call "Substring" [text, start, size] 0).evaluate submission {} = .ok (.text "naï") := by
  intro submission text start size
  have before : (Value.decimal (.finite true 10 (-1))).IsWhole (-1) :=
    .decimal (by norm_num [Decimal.scaled, Decimal.signed])
  have five : (Value.decimal (.finite false 500 (-2))).IsWhole 5 :=
    .decimal (by norm_num [Decimal.scaled, Decimal.signed])
  obtain ⟨left, right, rest, window⟩ :=
    @evaluate_picked submission {} text start (.text "naïve") _ (-1) rfl rfl before (by decide) 0
  refine ⟨before, five, ?_, ?_, ?_, ?_⟩
  · exact left "LEFT" (by decide +kernel)
  · exact right "right" (by decide +kernel)
  · exact rest "Substring" (by decide +kernel)
  · exact window "Substring" (by decide +kernel) size _ 5 rfl five (by decide)

end ValueExpr

end FormQuery
