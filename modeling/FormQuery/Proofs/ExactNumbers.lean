import FormQuery.Number.Binary
import Mathlib.Algebra.Order.Field.Power
import Mathlib.Data.Rat.Cast.Order

/-! Numbers as the rationals that they stand for. Decimals compare as these rationals do, whatever their digits and
exponents; and a float that has no decimal is not a number. -/

namespace FormQuery.Decimal

/-- The rational number of a signed coefficient and a power of ten. -/
def scaled (coefficient exponent : Int) : ℚ := coefficient * 10 ^ exponent

theorem scaled_pos {coefficient exponent : Int} : 0 < scaled coefficient exponent ↔ 0 < coefficient := by
  have ten : (0 : ℚ) < 10 ^ exponent := zpow_pos (by norm_num) _
  rw [scaled, mul_pos_iff_of_pos_right ten]
  exact Int.cast_pos

theorem scaled_neg (coefficient exponent : Int) : scaled (-coefficient) exponent = -scaled coefficient exponent := by
  simp [scaled]

theorem digitsOf_bounds {value : Nat} (positive : 0 < value) :
    ∃ fewer, (digitsOf value).length = fewer + 1 ∧ 10 ^ fewer ≤ value ∧ value < 10 ^ (fewer + 1) := by
  have some_digit : (digitsOf value).length ≠ 0 := by
    simp [digitsOf]
  obtain ⟨fewer, long⟩ := Nat.exists_eq_succ_of_ne_zero some_digit
  refine ⟨fewer, long, ?_, (Nat.length_toDigits_le_iff (by decide) (by omega)).mp (Nat.le_of_eq long)⟩
  by_contra less
  cases fewer with
  | zero => omega
  | succ fewer =>
    have short : (digitsOf value).length ≤ fewer + 1 :=
      (Nat.length_toDigits_le_iff (by decide) (by omega)).mpr (Nat.lt_of_not_le less)
    omega

/-- A number lies between two powers of ten, which its digits tell. -/
theorem scaled_bounds {coefficient : Int} (positive : 0 < coefficient) (exponent : Int) :
    (10 : ℚ) ^ (exponent + (digitsOf coefficient.natAbs).length - 1) ≤ scaled coefficient exponent ∧
      scaled coefficient exponent < 10 ^ (exponent + (digitsOf coefficient.natAbs).length) := by
  obtain ⟨value, rfl⟩ := Int.eq_ofNat_of_zero_le (Int.le_of_lt positive)
  have some_value : 0 < value := by omega
  obtain ⟨fewer, long, low, high⟩ := digitsOf_bounds some_value
  have ten : (0 : ℚ) < 10 ^ exponent := zpow_pos (by norm_num) _
  have least : exponent + ((fewer + 1 : Nat) : Int) - 1 = fewer + exponent := by omega
  have most : exponent + ((fewer + 1 : Nat) : Int) = (fewer + 1 : Nat) + exponent := by omega
  rw [Int.natAbs_natCast, long, least, most, zpow_add₀ (by norm_num), zpow_add₀ (by norm_num), zpow_natCast,
    zpow_natCast, scaled, Int.cast_natCast]
  constructor
  · exact mul_le_mul_of_nonneg_right (by exact_mod_cast low) ten.le
  · exact mul_lt_mul_of_pos_right (by exact_mod_cast high) ten

theorem compare_eq_of_order {a b : Int} {x y : ℚ} (below : a < b → x < y) (same : a = b → x = y)
    (above : b < a → y < x) : compare a b = compare x y := by
  rcases Int.lt_trichotomy a b with less | equal | greater
  · rw [Int.compare_eq_lt.mpr less, compare_lt_iff_lt.mpr (below less)]
  · rw [Int.compare_eq_eq.mpr equal, compare_eq_iff_eq.mpr (same equal)]
  · rw [Int.compare_eq_gt.mpr greater, compare_gt_iff_gt.mpr (above greater)]

section Order

variable {left leftExponent right rightExponent : Int}

theorem scaled_lt_of_sign (apart : left.sign < right.sign) :
    scaled left leftExponent < scaled right rightExponent := by
  have zero (exponent : Int) : scaled 0 exponent = 0 := by simp [scaled]
  have below {coefficient : Int} (exponent : Int) (low : coefficient < 0) : scaled coefficient exponent < 0 := by
    rw [← Left.neg_pos_iff, ← scaled_neg, scaled_pos]
    omega
  rcases Int.lt_trichotomy left 0 with low | rfl | high
  · rcases Int.lt_trichotomy right 0 with less | rfl | more
    · rw [Int.sign_eq_neg_one_of_neg low, Int.sign_eq_neg_one_of_neg less] at apart
      exact absurd apart (Int.lt_irrefl _)
    · exact zero rightExponent ▸ below leftExponent low
    · exact (below leftExponent low).trans (scaled_pos.mpr more)
  · rw [Int.sign_zero, Int.sign_pos_iff] at apart
    exact zero leftExponent ▸ scaled_pos.mpr apart
  · rw [Int.sign_eq_one_of_pos high] at apart
    have most : right.sign ≤ 1 := by
      rcases Int.sign_trichotomy right with one | none | minus <;> omega
    omega

/-- Of two positive numbers the one whose first digit stands at a lower place is less. -/
theorem scaled_lt_of_highest (positive : 0 < left) (other : 0 < right)
    (lower : leftExponent + (digitsOf left.natAbs).length < rightExponent + (digitsOf right.natAbs).length) :
    scaled left leftExponent < scaled right rightExponent := by
  refine (scaled_bounds positive leftExponent).2.trans_le (le_trans ?_ (scaled_bounds other rightExponent).1)
  exact zpow_le_zpow_right₀ (by norm_num) (by omega)

theorem scaled_lt_of_lowest (negative : left < 0) (other : right < 0)
    (higher : rightExponent + (digitsOf right.natAbs).length < leftExponent + (digitsOf left.natAbs).length) :
    scaled left leftExponent < scaled right rightExponent := by
  have positive : 0 < -left := by omega
  have opposite : 0 < -right := by omega
  rw [← neg_lt_neg_iff, ← scaled_neg, ← scaled_neg]
  exact scaled_lt_of_highest opposite positive (by simpa using higher)

end Order

theorem scaled_aligned {low exponent : Int} (below : low ≤ exponent) (coefficient : Int) :
    scaled coefficient exponent = ((coefficient * Nat.pow 10 (exponent - low).toNat : Int) : ℚ) * 10 ^ low := by
  have parts : exponent = (exponent - low).toNat + low := by omega
  have power : (10 : ℚ) ^ exponent = 10 ^ (exponent - low).toNat * 10 ^ low := by
    conv_lhs => rw [parts, zpow_add₀ (by norm_num), zpow_natCast]
  rw [scaled, power]
  push_cast
  rw [mul_assoc]
  simp

/-- Numbers compare as the rationals that they stand for. -/
theorem compareFinite_eq_compare (left leftExponent right rightExponent : Int) :
    compareFinite left leftExponent right rightExponent =
      compare (scaled left leftExponent) (scaled right rightExponent) := by
  unfold compareFinite
  split
  next apart =>
    exact compare_eq_of_order scaled_lt_of_sign (fun same => absurd same apart) scaled_lt_of_sign
  next signs =>
    rw [ne_eq, not_not] at signs
    split
    next zero =>
      subst zero
      obtain rfl : right = 0 := Int.sign_eq_zero_iff_zero.mp signs.symm
      simp [scaled]
    next some_digit =>
      simp only
      split
      -- Numbers whose first digits stand at different places are told apart before they are aligned.
      next apart =>
        split
        next positive =>
          have other : 0 < right := Int.sign_pos_iff.mp (signs ▸ Int.sign_pos_iff.mpr positive)
          exact compare_eq_of_order (scaled_lt_of_highest positive other) (fun same => absurd same apart)
            (scaled_lt_of_highest other positive)
        next =>
          have negative : left < 0 := by omega
          have other : right < 0 := Int.sign_neg_iff.mp (signs ▸ Int.sign_neg_iff.mpr negative)
          exact compare_eq_of_order (scaled_lt_of_lowest negative other) (fun same => absurd same.symm apart)
            (scaled_lt_of_lowest other negative)
      next =>
        have ten : (0 : ℚ) < 10 ^ min leftExponent rightExponent := zpow_pos (by norm_num) _
        rw [scaled_aligned (Int.min_le_left leftExponent rightExponent),
          scaled_aligned (Int.min_le_right leftExponent rightExponent)]
        refine compare_eq_of_order (fun below => ?_) (fun same => by rw [same]) (fun above => ?_)
        · exact mul_lt_mul_of_pos_right (by exact_mod_cast below) ten
        · exact mul_lt_mul_of_pos_right (by exact_mod_cast above) ten

theorem compareFinite_eq_iff (left leftExponent right rightExponent : Int) :
    compareFinite left leftExponent right rightExponent = .eq ↔
      scaled left leftExponent = scaled right rightExponent := by
  rw [compareFinite_eq_compare, compare_eq_iff_eq]

end FormQuery.Decimal

namespace FormQuery.Binary
open Float.Model

theorem unpackExponent_toNat (bits : BitVec Format.binary64.numBits) :
    (UnpackedFloat.unpackExponent bits).toNat = bits.toNat / 2 ^ 52 % 2 ^ 11 := by
  simp [UnpackedFloat.unpackExponent, Nat.shiftRight_eq_div_pow]

theorem unpackMantissa_toNat (bits : BitVec Format.binary64.numBits) :
    (UnpackedFloat.unpackMantissa bits).toNat = bits.toNat % 2 ^ 52 := by
  simp [UnpackedFloat.unpackMantissa]

theorem isNaN_of_toDecimal {x : Float} {negative signaling : Bool} {payload : Nat}
    (none : toDecimal x = .missing negative signaling payload) : x.isNaN = true := by
  unfold toDecimal at none
  simp only at none
  split at none
  next exponent =>
    split at none
    next => cases none
    next fraction =>
      have known : Float.isNaN x = (UnpackedFloat.unpack Format.binary64 x.toBits.toBitVec).isNaN := rfl
      have same : x.toBits.toBitVec.toNat = x.toBits.toNat := rfl
      have top : @UnpackedFloat.unpackExponent Format.binary64 x.toBits.toBitVec = -1#_ := by
        apply BitVec.eq_of_toNat_eq
        have ones : (-1#_ : BitVec Format.binary64.exponentBits).toNat = 2047 := rfl
        rw [unpackExponent_toNat, same, ones]
        change x.toBits.toNat % 2 ^ 63 / 2 ^ 52 = 2047 at exponent
        omega
      have body : @UnpackedFloat.unpackMantissa Format.binary64 x.toBits.toBitVec ≠ 0#_ := by
        intro empty
        have digits := unpackMantissa_toNat x.toBits.toBitVec
        have zero : (0#_ : BitVec Format.binary64.mantissaBitsWithoutImplicit).toNat = 0 := rfl
        rw [empty, same, zero] at digits
        change ¬x.toBits.toNat % 2 ^ 63 % 2 ^ 52 = 0 at fraction
        omega
      have unpacked : UnpackedFloat.unpack Format.binary64 x.toBits.toBitVec = .notANumber :=
        (if_pos top).trans (if_neg body)
      rw [known, unpacked]
      rfl
  next =>
    split at none <;> cases none

end FormQuery.Binary
