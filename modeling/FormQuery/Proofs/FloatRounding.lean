import FormQuery.Proofs.RoundingInterval

/-! Rounding reads a rational back. A mantissa with a round bit and a sticky bit tells where a rational lies between two
neighbours; shifting keeps this up to the exponent that the float has, and there the rounded mantissa is that of the
float whose interval the rational lies in. -/

namespace FormQuery.Binary

open Float.Model UnpackedFloat

/-- What a mantissa and its residual bits tell of a number, in units of the last place. -/
def Approximates (extended : ExtendedMantissa) (number : ℚ) : Prop :=
  if extended.roundBit then
    if extended.stickyBit then (extended.mantissa : ℚ) + 1 / 2 < number ∧ number < extended.mantissa + 1
    else number = extended.mantissa + 1 / 2
  else
    if extended.stickyBit then (extended.mantissa : ℚ) < number ∧ number < extended.mantissa + 1 / 2
    else number = extended.mantissa

def Near (mantissa : Nat) (number : ℚ) : Prop :=
  if mantissa % 2 = 0 then (mantissa : ℚ) - 1 / 2 ≤ number ∧ number ≤ mantissa + 1 / 2
  else (mantissa : ℚ) - 1 / 2 < number ∧ number < mantissa + 1 / 2

theorem Near.within {mantissa : Nat} {number : ℚ} (near : Near mantissa number) :
    (mantissa : ℚ) - 1 / 2 ≤ number ∧ number ≤ mantissa + 1 / 2 := by
  unfold Near at near
  split at near
  · exact near
  · exact ⟨near.1.le, near.2.le⟩

/-- A number in the middle is rounded to the even mantissa. -/
theorem Near.even_of_middle {mantissa : Nat} {number : ℚ} (near : Near mantissa number)
    (middle : number = mantissa - 1 / 2 ∨ number = mantissa + 1 / 2) : mantissa % 2 = 0 := by
  by_contra odd
  unfold Near at near
  rw [if_neg odd] at near
  obtain rfl | rfl := middle
  · exact lt_irrefl _ near.1
  · exact lt_irrefl _ near.2

theorem le_of_cast_lt {left right : Nat} (less : (left : ℚ) < right + 1) : left ≤ right :=
  Nat.le_of_lt_succ (by exact_mod_cast less)

theorem approximates_exact (mantissa : Nat) :
    Approximates (ExtendedMantissa.ofMantissaAndAccuracy mantissa .exact) mantissa := rfl

theorem approximates_fraction (numerator : Nat) {denominator : Nat} (positive : 0 < denominator) :
    Approximates (ExtendedMantissa.ofMantissaAndAccuracy (numerator / denominator)
      (accuracyOfFraction (numerator % denominator) denominator)) ((numerator : ℚ) / denominator) := by
  have common : (0 : ℚ) < denominator := by exact_mod_cast positive
  have divided : (numerator : ℚ) / denominator =
      (numerator / denominator : Nat) + ((numerator % denominator : Nat) : ℚ) / denominator := by
    rw [eq_div_add_mod numerator denominator]
    field_simp
  have whole := mod_div_lt_one numerator positive
  rw [divided]
  generalize numerator % denominator = left at *
  unfold accuracyOfFraction
  split
  next none => simp [none, Approximates, ExtendedMantissa.ofMantissaAndAccuracy]
  next some_left =>
    have above : (0 : ℚ) < left / denominator := by
      have : (0 : ℚ) < left := by exact_mod_cast Nat.pos_of_ne_zero some_left
      positivity
    cases ordered : compare (2 * left) denominator with
    | lt =>
      have less : (2 * left : ℚ) < denominator := by exact_mod_cast Nat.compare_eq_lt.mp ordered
      have half : (left : ℚ) / denominator < 1 / 2 := by
        rw [div_lt_div_iff₀ common (by norm_num)]
        linarith
      simp [Approximates, ExtendedMantissa.ofMantissaAndAccuracy]
      constructor <;> linarith
    | eq =>
      have same : (2 * left : ℚ) = denominator := by exact_mod_cast Nat.compare_eq_eq.mp ordered
      have half : (left : ℚ) / denominator = 1 / 2 := by
        rw [div_eq_div_iff common.ne' (by norm_num)]
        linarith
      simp [Approximates, ExtendedMantissa.ofMantissaAndAccuracy, half]
    | gt =>
      have more : (denominator : ℚ) < 2 * left := by exact_mod_cast Nat.compare_eq_gt.mp ordered
      have half : 1 / 2 < (left : ℚ) / denominator := by
        rw [div_lt_div_iff₀ (by norm_num) common]
        linarith
      simp [Approximates, ExtendedMantissa.ofMantissaAndAccuracy]
      constructor <;> linarith

namespace Approximates

variable {extended : ExtendedMantissa} {number : ℚ} (approximates : Approximates extended number)

include approximates

theorem within : (extended.mantissa : ℚ) ≤ number ∧ number < extended.mantissa + 1 := by
  obtain ⟨mantissa, round, sticky⟩ := extended
  cases round <;> cases sticky <;> simp only [Approximates, Bool.false_eq_true, if_true, if_false] at approximates
  case false.false => constructor <;> linarith
  case false.true => constructor <;> linarith
  case true.false => constructor <;> linarith
  case true.true => constructor <;> linarith

theorem shiftRightOne : Approximates extended.shiftRightOne (number / 2) := by
  obtain ⟨mantissa, round, sticky⟩ := extended
  have halved : (mantissa : ℚ) = 2 * (mantissa / 2 : Nat) + (mantissa % 2 : Nat) := eq_div_add_mod mantissa 2
  have parity := Nat.mod_two_eq_zero_or_one mantissa
  -- The last bit becomes the round bit, and the round bit is kept in the sticky one.
  cases round <;> cases sticky <;> obtain parity | parity := parity
  all_goals
    simp only [Approximates, ExtendedMantissa.shiftRightOne, parity, halved, Bool.false_eq_true, if_true, if_false] at *
    norm_num at *
    first | linarith | (constructor <;> linarith)

theorem shiftRight (count : Nat) : Approximates (extended >>> count) (number / 2 ^ count) := by
  change Approximates (count.repeat ExtendedMantissa.shiftRightOne extended) _
  induction count with
  | zero => simpa [Nat.repeat] using approximates
  | succ count step =>
    have once := step.shiftRightOne
    rwa [div_div, ← pow_succ] at once

theorem roundedMantissa {mantissa : Nat} (near : Near mantissa number) : extended.roundedMantissa = mantissa := by
  obtain ⟨kept, round, sticky⟩ := extended
  obtain ⟨low, high⟩ := near.within
  cases round <;> cases sticky <;>
    simp only [Approximates, Bool.false_eq_true, if_true, if_false] at approximates
  case false.false =>
    have upper : kept ≤ mantissa := le_of_cast_lt (by linarith)
    have lower : mantissa ≤ kept := le_of_cast_lt (by linarith)
    exact Nat.le_antisymm upper lower
  case false.true =>
    have upper : kept ≤ mantissa := le_of_cast_lt (by linarith)
    have lower : mantissa ≤ kept := le_of_cast_lt (by linarith)
    exact Nat.le_antisymm upper lower
  -- In the middle the even one of the two neighbours is taken.
  case true.false =>
    have upper : kept ≤ mantissa := le_of_cast_lt (by linarith)
    have lower : mantissa ≤ kept + 1 := le_of_cast_lt (by push_cast; linarith)
    have even : mantissa % 2 = 0 := by
      obtain rfl | rfl : mantissa = kept ∨ mantissa = kept + 1 := by omega
      · exact near.even_of_middle (.inr approximates)
      · refine near.even_of_middle (.inl ?_)
        push_cast
        linarith
    change kept + kept % 2 = mantissa
    omega
  case true.true =>
    have upper : kept + 1 ≤ mantissa := le_of_cast_lt (by push_cast; linarith)
    have lower : mantissa ≤ kept + 1 := le_of_cast_lt (by push_cast; linarith)
    exact Nat.le_antisymm upper lower

end Approximates

theorem targetExponent_binary64 (total : Int) : Format.binary64.targetExponent total = max (total - 53) (-1074) := rfl

section Covers

variable {parts : Parts} {number : ℚ} (covered : parts.Covers number)

theorem quarters_le_low (parts : Parts) : (4 * parts.mantissa - 2) * 2 ^ (parts.exponent - 2) ≤ parts.low := by
  have below : (parts.below : ℚ) ≤ 2 := by exact_mod_cast parts.below_le.2
  unfold Parts.low
  gcongr

theorem unit_eq_quarters (exponent : Int) : (2 : ℚ) ^ exponent = 4 * 2 ^ (exponent - 2) := by
  rw [zpow_sub₀ (by norm_num)]
  norm_num
  ring

include covered

/-- In the interval of a float a number lies next to the mantissa, in units of the last place. -/
theorem near_of_covers : Near parts.mantissa (number / 2 ^ parts.exponent) := by
  have quarter : (0 : ℚ) < 2 ^ (parts.exponent - 2) := zpow_pos (by norm_num) _
  have lowest := quarters_le_low parts
  have highest : parts.high = (4 * parts.mantissa + 2) * 2 ^ (parts.exponent - 2) := rfl
  unfold Parts.Covers at covered
  unfold Near
  rw [unit_eq_quarters]
  split at covered
  next even =>
    rw [if_pos even, le_div_iff₀ (by positivity), div_le_iff₀ (by positivity)]
    constructor <;> linarith
  next odd =>
    rw [if_neg odd, lt_div_iff₀ (by positivity), div_lt_iff₀ (by positivity)]
    constructor <;> linarith

theorem near_of_covers_below (power : parts.mantissa = 2 ^ 52) (above : -1074 < parts.exponent)
    (beneath : number < 2 ^ 52 * 2 ^ parts.exponent) : Near (2 ^ 53) (number / 2 ^ (parts.exponent - 1)) := by
  have quarter : (0 : ℚ) < 2 ^ (parts.exponent - 2) := zpow_pos (by norm_num) _
  have half : (2 : ℚ) ^ (parts.exponent - 1) = 2 * 2 ^ (parts.exponent - 2) := by
    rw [zpow_sub₀ (by norm_num), zpow_sub₀ (by norm_num)]
    norm_num
    ring
  have lowest : parts.low = (4 * 2 ^ 52 - 1) * 2 ^ (parts.exponent - 2) := by
    have single : parts.below = 1 := if_pos ⟨power, above⟩
    rw [Parts.low, single, power]
    norm_num
  have low := covered.low_le
  rw [lowest] at low
  rw [unit_eq_quarters] at beneath
  unfold Near
  rw [half, if_pos (by decide), le_div_iff₀ (by positivity), div_le_iff₀ (by positivity)]
  constructor <;> norm_num at * <;> linarith

variable (canonical : parts.Canonical)

include canonical

theorem covers_lt : number < 2 ^ (parts.exponent + 53) := by
  have quarter : (0 : ℚ) < 2 ^ (parts.exponent - 2) := zpow_pos (by norm_num) _
  have fits : (parts.mantissa : ℚ) + 1 ≤ 2 ^ 53 := by exact_mod_cast canonical.fits
  have below : (4 * parts.mantissa + 2 : ℚ) < 2 ^ 55 := by linarith
  have scale : (2 : ℚ) ^ (parts.exponent + 53) = 2 ^ 55 * 2 ^ (parts.exponent - 2) := by
    rw [zpow_add₀ (by norm_num), unit_eq_quarters]
    norm_num
    ring
  rw [scale]
  exact covered.le_high.trans_lt (mul_lt_mul_of_pos_right below quarter)

theorem le_covers (bits : Nat) (long : 2 ^ bits ≤ parts.mantissa) : 2 ^ (parts.exponent - 1 + bits) ≤ number := by
  have quarter : (0 : ℚ) < 2 ^ (parts.exponent - 2) := zpow_pos (by norm_num) _
  have digit : (1 : ℚ) ≤ parts.mantissa := by exact_mod_cast canonical.positive
  have long : (2 : ℚ) ^ bits ≤ parts.mantissa := by exact_mod_cast long
  have scale : (2 : ℚ) ^ (parts.exponent - 1 + bits) = 2 * 2 ^ bits * 2 ^ (parts.exponent - 2) := by
    have split : parts.exponent - 1 + bits = parts.exponent - 2 + 1 + bits := by omega
    rw [split, zpow_add₀ (by norm_num), zpow_add₀ (by norm_num), zpow_natCast, zpow_one]
    ring
  calc (2 : ℚ) ^ (parts.exponent - 1 + bits) ≤ (4 * parts.mantissa - 2) * 2 ^ (parts.exponent - 2) := by
        rw [scale]
        gcongr
        linarith
    _ ≤ parts.low := quarters_le_low parts
    _ ≤ number := covered.low_le

/-- Only a power of two reads back from below its binade. -/
theorem mantissa_of_covers_below (above : -1074 < parts.exponent) (beneath : number < 2 ^ 52 * 2 ^ parts.exponent) :
    parts.mantissa = 2 ^ 52 := by
  have quarter : (0 : ℚ) < 2 ^ (parts.exponent - 2) := zpow_pos (by norm_num) _
  have normal := canonical.normal.resolve_right (by omega)
  have low := (quarters_le_low parts).trans covered.low_le
  rw [unit_eq_quarters, ← mul_assoc] at beneath
  have less := lt_of_mul_lt_mul_right (low.trans_lt beneath) quarter.le
  have : parts.mantissa ≤ 2 ^ 52 := le_of_cast_lt (by push_cast; linarith)
  omega

/-- A mantissa that a number lies at has the exponent of the float as its target, or the one before it when the number
lies below a power of two. -/
theorem target_cases {mantissa : Nat} {exponent : Int} (low : (mantissa : ℚ) ≤ number / 2 ^ exponent)
    (high : number / 2 ^ exponent < mantissa + 1)
    (fine : exponent ≤ Format.binary64.targetExponent (totalExponent mantissa exponent)) :
    Format.binary64.targetExponent (totalExponent mantissa exponent) = parts.exponent ∨
      (Format.binary64.targetExponent (totalExponent mantissa exponent) = parts.exponent - 1 ∧
        -1074 < parts.exponent ∧ number < 2 ^ 52 * 2 ^ parts.exponent) := by
  have two : (1 : ℚ) < 2 := by norm_num
  have unit : (0 : ℚ) < 2 ^ exponent := zpow_pos (by norm_num) _
  have least := canonical.least
  rw [le_div_iff₀ unit] at low
  rw [div_lt_iff₀ unit] at high
  rw [targetExponent_binary64] at fine ⊢
  unfold totalExponent at fine ⊢
  by_cases none : mantissa = 0
  case pos =>
    subst none
    rw [Nat.cast_zero, zero_add, one_mul] at high
    have above := le_covers covered canonical 0 canonical.positive
    have := (zpow_lt_zpow_iff_right₀ two).mp (above.trans_lt high)
    simp at *
    omega
  case neg =>
    have first : (2 : ℚ) ^ ((mantissa.log2 : Int) + exponent) ≤ number := by
      have digits : (2 : ℚ) ^ mantissa.log2 ≤ mantissa := by exact_mod_cast Nat.log2_self_le none
      rw [zpow_add₀ (by norm_num), zpow_natCast]
      exact (mul_le_mul_of_nonneg_right digits unit.le).trans low
    have past : number < 2 ^ ((mantissa.log2 : Int) + 1 + exponent) := by
      have digits : (mantissa : ℚ) + 1 ≤ 2 ^ (mantissa.log2 + 1) := by exact_mod_cast Nat.lt_log2_self
      have power : ((mantissa.log2 : Int) + 1) = ((mantissa.log2 + 1 : Nat) : Int) := rfl
      rw [power, zpow_add₀ (by norm_num), zpow_natCast]
      exact high.trans_le (mul_le_mul_of_nonneg_right digits unit.le)
    have upper := (zpow_lt_zpow_iff_right₀ two).mp (first.trans_lt (covers_lt covered canonical))
    by_cases smallest : parts.exponent = -1074
    · left
      omega
    · have above : -1074 < parts.exponent := by omega
      have binade : (2 : ℚ) ^ 52 * 2 ^ parts.exponent = 2 ^ (parts.exponent + 52) := by
        rw [zpow_add₀ (by norm_num), mul_comm]
        rfl
      by_cases beneath : number < 2 ^ 52 * 2 ^ parts.exponent
      · right
        have normal := canonical.normal.resolve_right smallest
        have lower := (zpow_lt_zpow_iff_right₀ two).mp ((le_covers covered canonical 52 normal).trans_lt past)
        have inside := (zpow_lt_zpow_iff_right₀ two).mp (first.trans_lt (binade ▸ beneath))
        exact ⟨by omega, above, beneath⟩
      · left
        have reached := (binade ▸ not_lt.mp beneath).trans_lt past
        have lower := (zpow_lt_zpow_iff_right₀ two).mp reached
        omega

end Covers

theorem shiftToTargetExponent_eq {mantissa : Nat} {exponent : Int} {accuracy : Accuracy} {target : Int}
    (same : Format.binary64.targetExponent (totalExponent mantissa exponent) = target) (fine : exponent ≤ target) :
    shiftToTargetExponent Format.binary64 mantissa exponent accuracy =
      (ExtendedMantissa.ofMantissaAndAccuracy mantissa accuracy >>> (target - exponent).toNat, target) := by
  have reached : exponent + ((target - exponent).toNat : Int) = target := by omega
  simp only [shiftToTargetExponent, shiftToExponent, same, reached]

/-- Rounding shifts to the target, rounds there, and shifts once more when that gives one more bit. -/
theorem roundWithAccuracy_eq (sign : Sign) {mantissa : Nat} {exponent : Int} {accuracy : Accuracy} {kept : Nat}
    {target : Int} {last : ExtendedMantissa × Int} (fine : exponent ≤ target)
    (same : Format.binary64.targetExponent (totalExponent mantissa exponent) = target)
    (rounded : (ExtendedMantissa.ofMantissaAndAccuracy mantissa accuracy >>> (target - exponent).toNat).roundedMantissa =
      kept) (shifted : shiftToTargetExponent Format.binary64 kept target .exact = last)
    (positive : 0 < last.1.mantissa) :
    roundWithAccuracy Format.binary64 sign mantissa exponent accuracy =
      .finite sign last.1.mantissa last.2 positive := by
  rw [roundWithAccuracy, shiftToTargetExponent_eq same fine]
  dsimp only
  rw [rounded, shifted]
  exact dif_neg (Nat.ne_of_gt positive)

theorem shiftToTargetExponent_of_fits {mantissa : Nat} {exponent : Int} (fits : mantissa < 2 ^ 53)
    (least : -1074 ≤ exponent) :
    shiftToTargetExponent Format.binary64 mantissa exponent .exact = (⟨mantissa, false, false⟩, exponent) := by
  have bits : mantissa.log2 < 53 := by
    by_cases none : mantissa = 0
    · simp [none]
    · exact (Nat.log2_lt none).mpr fits
  have still : (Format.binary64.targetExponent (totalExponent mantissa exponent) - exponent).toNat = 0 := by
    rw [targetExponent_binary64]
    unfold totalExponent
    omega
  simp only [shiftToTargetExponent, shiftToExponent, still]
  simp
  rfl

theorem roundWithAccuracy_of_covers {parts : Parts} (canonical : parts.Canonical) {number : ℚ}
    (covered : parts.Covers number) (sign : Sign) {mantissa : Nat} {exponent : Int} {accuracy : Accuracy}
    (approximates : Approximates (ExtendedMantissa.ofMantissaAndAccuracy mantissa accuracy) (number / 2 ^ exponent))
    (fine : exponent ≤ Format.binary64.targetExponent (totalExponent mantissa exponent)) :
    roundWithAccuracy Format.binary64 sign mantissa exponent accuracy =
      .finite sign parts.mantissa parts.exponent canonical.positive := by
  have kept : (ExtendedMantissa.ofMantissaAndAccuracy mantissa accuracy).mantissa = mantissa := by
    cases accuracy with
    | exact => rfl
    | inexact order => cases order <;> rfl
  obtain ⟨low, high⟩ := approximates.within
  rw [kept] at low high
  -- At the target the residual bits tell of the number in units of the target.
  have shifted {target : Int} (fine : exponent ≤ target) :
      Approximates (ExtendedMantissa.ofMantissaAndAccuracy mantissa accuracy >>> (target - exponent).toNat)
        (number / 2 ^ target) := by
    have scale : (2 : ℚ) ^ target = 2 ^ exponent * 2 ^ (target - exponent).toNat := by
      rw [← zpow_natCast, ← zpow_add₀ (by norm_num)]
      congr 1
      omega
    rw [scale, ← div_div]
    exact approximates.shiftRight _
  obtain same | ⟨same, above, beneath⟩ := target_cases covered canonical low high fine
  case inl =>
    rw [same] at fine
    have rounded := (shifted fine).roundedMantissa (near_of_covers covered)
    exact roundWithAccuracy_eq sign fine same rounded
      (shiftToTargetExponent_of_fits canonical.fits canonical.least) canonical.positive
  case inr =>
    rw [same] at fine
    have power := mantissa_of_covers_below covered canonical above beneath
    have rounded := (shifted fine).roundedMantissa (near_of_covers_below covered power above beneath)
    have carried : shiftToTargetExponent Format.binary64 (2 ^ 53) (parts.exponent - 1) .exact =
        (⟨2 ^ 52, false, false⟩, parts.exponent) := by
      have next : Format.binary64.targetExponent (totalExponent (2 ^ 53) (parts.exponent - 1)) = parts.exponent := by
        rw [targetExponent_binary64, totalExponent, Nat.log2_two_pow]
        omega
      have once : (parts.exponent - (parts.exponent - 1)).toNat = 1 := by omega
      rw [shiftToTargetExponent_eq next (by omega), once]
      rfl
    obtain ⟨digits, scale⟩ := parts
    obtain rfl : digits = 2 ^ 52 := power
    exact roundWithAccuracy_eq sign fine same rounded carried (Nat.two_pow_pos 52)

end FormQuery.Binary
