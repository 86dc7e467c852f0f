import FormQuery.Proofs.PrintedNumbers

/-! Decimals as text. A decimal is printed with the places that it has, so that the text is read back as the very same
number; a small one with more than six places is printed with a power of ten, and a text with a letter is no number. -/

namespace FormQuery

open Decimal

namespace Decimal

/-- A finite number that is printed without a power of ten: it has at most six places or is no smaller than what six
places can show. -/
def IsPositional : Decimal → Prop
  | .finite _ coefficient exponent => exponent ≤ 0 ∧ (-6 ≤ exponent ∨ scaled 1 (-6) ≤ scaled coefficient exponent)
  | _ => False

instance : DecidablePred IsPositional
  | .finite _ coefficient exponent =>
    inferInstanceAs (Decidable (exponent ≤ 0 ∧ (-6 ≤ exponent ∨ scaled 1 (-6) ≤ scaled coefficient exponent)))
  | .infinite _ | .missing .. => inferInstanceAs (Decidable False)

theorem place_iff {coefficient : Nat} {exponent : Int} :
    -6 < exponent + (digitsOf coefficient).length ↔ -6 ≤ exponent ∨ scaled 1 (-6) ≤ scaled coefficient exponent := by
  have million : scaled 1 (-6) = 10 ^ (-6 : Int) := by simp [scaled]
  obtain rfl | positive := Nat.eq_zero_or_pos coefficient
  · have one : (digitsOf 0).length = 1 := rfl
    have small : ¬scaled 1 (-6) ≤ scaled ((0 : Nat) : Int) exponent := by
      simp [scaled]
    rw [one, or_iff_left small]
    omega
  · have some_digit : 0 < (digitsOf coefficient).length := List.length_pos_iff.mpr Nat.toDigits_ne_nil
    obtain ⟨low, high⟩ := scaled_bounds (Int.natCast_pos.mpr positive) exponent
    rw [Int.natAbs_natCast] at low high
    constructor
    · intro above
      refine .inr (le_trans ?_ low)
      rw [million]
      exact zpow_le_zpow_right₀ (by norm_num) (by omega)
    · intro wide
      obtain few | large := wide
      · omega
      · rw [million] at large
        exact (zpow_lt_zpow_iff_right₀ (by norm_num : (1 : ℚ) < 10)).mp (large.trans_lt high)

end Decimal

namespace Numeral

def padded (coefficient places : Nat) : List Char :=
  List.replicate (places + 1 - (digitsOf coefficient).length) '0' ++ digitsOf coefficient

theorem length_padded (coefficient places : Nat) :
    (padded coefficient places).length = max (places + 1) (digitsOf coefficient).length := by
  rw [padded, List.length_append, List.length_replicate]
  omega

theorem ascii_padded (coefficient places : Nat) : ∀ c ∈ padded coefficient places, Value.isAsciiDigit c = true :=
  List.forall_mem_append.mpr ⟨Binary.ascii_zeros _, ascii_digitsOf coefficient⟩

theorem digitsValue_padded (coefficient places : Nat) :
    digitsValue ((padded coefficient places).map digit) = coefficient := by
  have zeros (count : Nat) (digits : List Nat) :
      digitsValue (List.replicate count 0 ++ digits) = digitsValue digits := by
    induction count with
    | zero => rfl
    | succ count step => exact step
  have zero : digit '0' = 0 := by decide
  rw [padded, List.map_append, List.map_replicate, zero, zeros, digitsValue_digitsOf]

def ofPlaces (negative : Bool) (coefficient places : Nat) : Numeral where
  negative
  whole := (padded coefficient places).take ((padded coefficient places).length - places)
  places := (padded coefficient places).drop ((padded coefficient places).length - places)
  some_whole := by
    have long := length_padded coefficient places
    rw [ne_eq, List.take_eq_nil_iff, not_or, ← List.length_eq_zero_iff]
    omega
  ascii := by
    rw [List.take_append_drop]
    exact ascii_padded coefficient places

theorem decimal_ofPlaces (negative : Bool) (coefficient places : Nat) :
    (ofPlaces negative coefficient places).decimal = .finite negative coefficient (-(places : Int)) := by
  have long := length_padded coefficient places
  have behind : (ofPlaces negative coefficient places).places.length = places := by
    rw [ofPlaces, List.length_drop]
    omega
  have value : (ofPlaces negative coefficient places).coefficient = coefficient := by
    rw [Numeral.coefficient, ofPlaces, List.take_append_drop, digitsValue_padded]
  rw [decimal, behind, value]
  rfl

theorem placePoint_padded (coefficient places : Nat) :
    placePoint (digitsOf coefficient) (-(places : Int) + (digitsOf coefficient).length) =
      (ofPlaces false coefficient places).magnitudeText := by
  have some_digit : 0 < (digitsOf coefficient).length := List.length_pos_iff.mpr Nat.toDigits_ne_nil
  unfold placePoint magnitudeText ofPlaces padded
  simp only
  generalize digitsOf coefficient = digits at some_digit ⊢
  -- The cases of the text: no digit stands before the point, none behind it, or some on either side.
  split
  next before =>
    have fill : (-(-(places : Int) + digits.length)).toNat = places - digits.length := by omega
    have zeros : List.replicate (places + 1 - digits.length) '0' ++ digits =
        '0' :: (List.replicate (places - digits.length) '0' ++ digits) := by
      rw [Nat.sub_add_comm (by omega), List.replicate_succ, List.cons_append]
    have behind : (List.replicate (places - digits.length) '0' ++ digits).length = places := by
      rw [List.length_append, List.length_replicate]
      omega
    have some_place : List.replicate (places - digits.length) '0' ++ digits ≠ [] :=
      List.append_ne_nil_of_right_ne_nil _ (List.length_pos_iff.mp some_digit)
    rw [zeros, fill, List.length_cons, behind, Nat.add_sub_cancel_left]
    simp only [List.take_succ_cons, List.take_zero, List.drop_succ_cons, List.drop_zero, some_place, if_false]
    rfl
  next before =>
    have none : places + 1 - digits.length = 0 := by omega
    rw [none, List.replicate_zero, List.nil_append]
    split
    next after =>
      obtain rfl : places = 0 := by omega
      simp
    next after =>
      have point : (-(places : Int) + digits.length).toNat = digits.length - places := by omega
      have some_place : digits.drop (digits.length - places) ≠ [] := by simp; omega
      rw [point, if_neg some_place]

end Numeral

namespace Decimal

section Notation

variable {coefficient : Nat} {exponent : Int}

/-- In positional notation the text is the numeral with the places that the number has. -/
theorem toText_positional (negative : Bool) (positional : IsPositional (.finite negative coefficient exponent)) :
    ∃ numeral : Numeral, (toText (.finite negative coefficient exponent)).toList = numeral.text ∧
      numeral.decimal = .finite negative coefficient exponent := by
  obtain ⟨below, sized⟩ := positional
  have place := place_iff.mpr sized
  obtain ⟨places, rfl⟩ : ∃ places : Nat, exponent = -(places : Int) := ⟨(-exponent).toNat, by omega⟩
  refine ⟨Numeral.ofPlaces negative coefficient places, ?_, Numeral.decimal_ofPlaces negative coefficient places⟩
  have unsigned : (Numeral.ofPlaces negative coefficient places).magnitudeText =
      (Numeral.ofPlaces false coefficient places).magnitudeText := rfl
  have digits : finiteText coefficient (-(places : Int)) =
      placePoint (digitsOf coefficient) (-(places : Int) + (digitsOf coefficient).length) := by
    simp [finiteText, place]
  rw [Numeral.text, unsigned, ← Numeral.placePoint_padded, ← digits]
  cases negative <;> simp [toText, signText, Numeral.ofPlaces]

/-- In other notation a letter marks the power of ten. -/
theorem mem_toText (negative : Bool) (below : exponent ≤ 0)
    (marked : ¬IsPositional (.finite negative coefficient exponent)) :
    'E' ∈ (toText (.finite negative coefficient exponent)).toList := by
  have outside : ¬-6 < exponent + (digitsOf coefficient).length := fun place => marked ⟨below, place_iff.mp place⟩
  have power : exponent + (digitsOf coefficient).length - 1 ≠ 0 := by omega
  have shown : 'E' ∈ finiteText coefficient exponent := by
    simp [finiteText, outside, power]
  rw [toText, String.toList_append, String.toList_ofList]
  exact List.mem_append_right _ shown

end Notation

end Decimal

theorem Numeral.not_mem_of_letter {numeral : Numeral} {text : List Char} (shown : numeral.IsShownBy text)
    {letter : Char} (code : 65 ≤ letter.toNat ∧ letter.toNat < 1632) : letter ∉ text := by
  intro member
  have apart (other : Char) (low : other.toNat < 65) : letter ≠ other := fun same => by
    rw [same] at code
    omega
  have inside : letter ∈ numeral.text := by
    obtain rfl | rfl := shown
    · exact member
    · obtain own | last := List.mem_append.mp member
      · exact own
      · exact absurd (List.mem_singleton.mp last) (apart '\n' (by decide))
  obtain minus | digits := Numeral.mem_text inside
  · exact apart '-' (by decide) minus
  · exact numeral.spells_magnitude.ne_of_mem digits (.inr ⟨by omega, code.2⟩) rfl

namespace Decimal

theorem finite?_eq_some {negative : Bool} {whole fraction : List Nat} {number : Decimal}
    (read : finite? negative whole fraction [] = some number) :
    ∃ coefficient, number = .finite negative coefficient (-(fraction.length : Int)) ∧
      (coefficient = 0 ∨ (-(fraction.length : Int) + ((digitsOf coefficient).length - 1 : Nat) ≤ largestExponent ∧
        smallestExponent ≤ -(fraction.length : Int))) := by
  simp only [finite?, bind, Option.bind, exponent?, Int.zero_sub] at read
  split at read
  · cases read
  · split at read
    · cases read
    next within =>
      simp only [ne_eq, Bool.and_eq_true, Bool.or_eq_true, decide_eq_true_eq, gt_iff_lt] at within
      refine ⟨_, (Option.some.inj read).symm, ?_⟩
      omega

/-- A typed number has no sign and no power of ten but that of its places, and a numeral of this number is readable. -/
theorem parts_of_spelled {raw : String} (spelled : SpellsNumber raw.toList) {number : Decimal}
    (read : ofText? raw = some number) :
    ∃ coefficient, ∃ places : Nat, number = .finite false coefficient (-(places : Int)) ∧
      ∀ numeral : Numeral, numeral.decimal = number → numeral.IsReadable := by
  obtain ⟨whole, fraction, -, -, same⟩ := ofText?_spelled spelled
  obtain ⟨coefficient, rfl, within⟩ := finite?_eq_some (same ▸ read)
  refine ⟨coefficient, _, rfl, fun numeral alike => ?_⟩
  simp only [Numeral.decimal, Decimal.finite.injEq] at alike
  obtain ⟨-, value, places⟩ := alike
  rwa [Numeral.IsReadable, value, places]

end Decimal

theorem Value.number?_typed {raw : String} (spelled : SpellsNumber raw.toList) {number : Decimal}
    (read : Decimal.ofText? raw = some number) :
    (number.IsPositional → ∃ numeral : Numeral, number.toText.toList = numeral.text ∧
      number.rational? = some numeral.value ∧ (text number.toText).number? = some number) ∧
    (¬number.IsPositional → (text number.toText).number? = none) := by
  obtain ⟨coefficient, places, rfl, readable⟩ := parts_of_spelled spelled read
  constructor
  · intro positional
    obtain ⟨numeral, shown, same⟩ := toText_positional false positional
    refine ⟨numeral, shown, same ▸ numeral.rational?_decimal, ?_⟩
    exact number?_text_eq_some.mpr ⟨numeral, .inl shown, readable numeral same, same.symm⟩
  · intro marked
    rw [Option.eq_none_iff_forall_ne_some]
    intro number counted
    obtain ⟨numeral, shown, -⟩ := number?_text_eq_some.mp counted
    exact Numeral.not_mem_of_letter shown (by decide) (mem_toText false (by omega) marked)

end FormQuery
