import FormQuery.Proofs.FloatBits
import FormQuery.Proofs.FloatRounding

/-! The float nearest to a decimal. Products and quotients are rounded once, from their exact values, so a decimal in the
interval of a float is read as that float. -/

namespace FormQuery.Binary

open Decimal Float.Model UnpackedFloat

section Operations

variable {parts : Parts} (canonical : parts.Canonical) {left right : Nat} {leftExponent rightExponent : Int}
  (some_left : 0 < left) (some_right : 0 < right)

theorem le_targetExponent {mantissa : Nat} (long : 2 ^ 52 ≤ mantissa) (exponent : Int) :
    exponent ≤ Format.binary64.targetExponent (totalExponent mantissa exponent) := by
  have bits : 52 ≤ mantissa.log2 := (Nat.le_log2 (by omega)).mpr long
  rw [targetExponent_binary64, totalExponent]
  omega

include some_left some_right in
theorem long_quotient {shift : Nat} (far : right.log2 + 53 ≤ left.log2 + shift) :
    2 ^ 52 ≤ (left <<< shift) / right := by
  rw [Nat.le_div_iff_mul_le some_right, Nat.shiftLeft_eq]
  calc 2 ^ 52 * right ≤ 2 ^ 52 * 2 ^ (right.log2 + 1) := Nat.mul_le_mul_left _ Nat.lt_log2_self.le
    _ = 2 ^ (right.log2 + 53) := by ring
    _ ≤ 2 ^ (left.log2 + shift) := Nat.pow_le_pow_right (by decide) far
    _ = 2 ^ left.log2 * 2 ^ shift := Nat.pow_add ..
    _ ≤ left * 2 ^ shift := Nat.mul_le_mul_right _ (Nat.log2_self_le (Nat.ne_of_gt some_left))

/-- A quotient is taken with so many digits that rounding only has to drop some. -/
theorem div_of_covers (covered : parts.Covers (left * 2 ^ leftExponent / (right * 2 ^ rightExponent))) :
    UnpackedFloat.div Format.binary64 (.finite .positive left leftExponent some_left)
        (.finite .positive right rightExponent some_right) =
      .finite .positive parts.mantissa parts.exponent canonical.positive := by
  obtain ⟨target, shown⟩ : ∃ target, target = min (leftExponent - rightExponent)
      (Format.binary64.targetExponent (totalExponent left leftExponent - totalExponent right rightExponent)) := ⟨_, rfl⟩
  obtain ⟨shift, shifted⟩ : ∃ shift : Nat, shift = (leftExponent - rightExponent - target).toNat := ⟨_, rfl⟩
  have unfolded : UnpackedFloat.div Format.binary64 (.finite .positive left leftExponent some_left)
        (.finite .positive right rightExponent some_right) =
      roundWithAccuracy Format.binary64 .positive ((left <<< shift) / right) target
        (accuracyOfFraction ((left <<< shift) % right) right) := by
    subst shifted shown
    rfl
  have reached : leftExponent = rightExponent + target + shift := by omega
  rw [unfolded]
  refine roundWithAccuracy_of_covers canonical covered .positive ?_ ?_
  · have scale : (left : ℚ) * 2 ^ leftExponent / (right * 2 ^ rightExponent) / 2 ^ target =
        ((left <<< shift : Nat) : ℚ) / right := by
      have divisor : (right : ℚ) ≠ 0 := by exact_mod_cast some_right.ne'
      rw [reached, zpow_add₀ (by norm_num), zpow_add₀ (by norm_num), zpow_natCast, Nat.shiftLeft_eq]
      push_cast
      field_simp
    rw [scale]
    exact approximates_fraction _ some_right
  · by_cases small : target ≤ -1074
    · rw [targetExponent_binary64]
      omega
    · rw [targetExponent_binary64, totalExponent, totalExponent] at shown
      exact le_targetExponent (long_quotient some_left some_right (by omega)) target

theorem mul_of_covers (long : 2 ^ 52 ≤ left * right)
    (covered : parts.Covers (left * 2 ^ leftExponent * (right * 2 ^ rightExponent))) :
    UnpackedFloat.mul Format.binary64 (.finite .positive left leftExponent some_left)
        (.finite .positive right rightExponent some_right) =
      .finite .positive parts.mantissa parts.exponent canonical.positive := by
  have unfolded : UnpackedFloat.mul Format.binary64 (.finite .positive left leftExponent some_left)
        (.finite .positive right rightExponent some_right) =
      roundWithAccuracy Format.binary64 .positive (left * right) (leftExponent + rightExponent) .exact := rfl
  rw [unfolded]
  refine roundWithAccuracy_of_covers canonical covered .positive ?_ (le_targetExponent long _)
  have scale : (left : ℚ) * 2 ^ leftExponent * (right * 2 ^ rightExponent) / 2 ^ (leftExponent + rightExponent) =
      (left * right : Nat) := by
    rw [zpow_add₀ (by norm_num)]
    push_cast
    field_simp
  rw [scale]
  exact approximates_exact _

end Operations

theorem two_zpow_le {bits digits : Nat} (less : 2 ^ bits ≤ 10 ^ digits) :
    (2 : ℚ) ^ (bits : Int) ≤ 10 ^ (digits : Int) ∧ (10 : ℚ) ^ (-(digits : Int)) ≤ 2 ^ (-(bits : Int)) := by
  have less : (2 : ℚ) ^ bits ≤ 10 ^ digits := by exact_mod_cast less
  rw [zpow_neg, zpow_neg, zpow_natCast, zpow_natCast]
  exact ⟨less, inv_anti₀ (by positivity) less⟩

theorem length_digitsOf_le_log2 {value : Nat} (positive : 0 < value) :
    (digitsOf value).length ≤ value.log2 + 1 := by
  obtain ⟨fewer, long, low, -⟩ := digitsOf_bounds positive
  have power : 2 ^ fewer ≤ 10 ^ fewer := Nat.pow_le_pow_left (by decide) fewer
  have : fewer ≤ value.log2 := (Nat.le_log2 positive.ne').mpr (power.trans low)
  omega

section Size

variable {parts : Parts} (canonical : parts.Canonical) {coefficient : Nat} {exponent : Int}
  (covered : parts.Covers (scaled coefficient exponent))

include canonical covered

theorem coefficient_pos : 0 < coefficient := by
  have least := le_covers covered canonical 0 canonical.positive
  have : 0 < scaled coefficient exponent := (zpow_pos (by norm_num) _).trans_le least
  exact_mod_cast scaled_pos.mp this

/-- No decimal that is read as a finite float is settled by its first digit alone. -/
theorem highest_bounds : -330 ≤ exponent + (digitsOf coefficient).length ∧
    exponent + (digitsOf coefficient).length ≤ 310 := by
  have ten : (1 : ℚ) < 10 := by norm_num
  have least := canonical.least
  have most := canonical.most
  obtain ⟨first, past⟩ := scaled_bounds (Int.natCast_pos.mpr (coefficient_pos canonical covered)) exponent
  rw [Int.natAbs_natCast] at first past
  constructor
  · have tiny := (two_zpow_le (by decide +kernel : 2 ^ 1075 ≤ 10 ^ 331)).2
    have small : (10 : ℚ) ^ (-((331 : Nat) : Int)) ≤ 2 ^ (parts.exponent - 1 + (0 : Nat)) :=
      tiny.trans (zpow_le_zpow_right₀ (by norm_num) (by omega))
    have := (zpow_lt_zpow_iff_right₀ ten).mp
      ((small.trans (le_covers covered canonical 0 canonical.positive)).trans_lt past)
    omega
  · have huge := (two_zpow_le (by decide +kernel : 2 ^ 1024 ≤ 10 ^ 309)).1
    have large : (2 : ℚ) ^ (parts.exponent + 53) ≤ 10 ^ ((309 : Nat) : Int) :=
      (zpow_le_zpow_right₀ (by norm_num) (by omega)).trans huge
    have := (zpow_lt_zpow_iff_right₀ ten).mp (first.trans_lt ((covers_lt covered canonical).trans_le large))
    omega

end Size

theorem ofScientific_of_covers {parts : Parts} (canonical : parts.Canonical) {coefficient : Nat} {exponent : Int}
    (covered : parts.Covers (scaled coefficient exponent)) :
    UnpackedFloat.ofScientific Format.binary64 coefficient exponent =
      .finite .positive parts.mantissa parts.exponent canonical.positive := by
  have positive := coefficient_pos canonical covered
  have few := length_digitsOf_le_log2 positive
  obtain ⟨low, high⟩ := highest_bounds canonical covered
  obtain ⟨fewer, long, -, -⟩ := digitsOf_bounds positive
  have bits : (2 : Int) ^ Format.binary64.exponentBits = 2048 := rfl
  rw [UnpackedFloat.ofScientific, dif_neg positive.ne', bits, if_neg (by omega), if_neg (by omega)]
  by_cases whole : 0 ≤ exponent
  case pos =>
    have digits : Format.binary64.mantissaBits = 53 := rfl
    rw [if_pos whole]
    refine mul_of_covers canonical _ _ ?_ ?_
    · have long : 2 ^ 52 ≤ coefficient * 2 ^ 53 := by omega
      rw [digits, Nat.shiftLeft_eq]
      exact long.trans (Nat.le_mul_of_pos_right _ (Nat.pow_pos (by decide)))
    · have same : ((coefficient <<< 53 : Nat) : ℚ) * 2 ^ (-((53 : Nat) : Int)) *
          ((10 ^ exponent.toNat : Nat) * 2 ^ (0 : Int)) = scaled coefficient exponent := by
        obtain ⟨power, rfl⟩ := Int.eq_ofNat_of_zero_le whole
        rw [Nat.shiftLeft_eq, scaled, zpow_neg, zpow_natCast, zpow_natCast, Int.toNat_natCast]
        push_cast
        field_simp
        norm_num
      rw [digits, same]
      exact covered
  case neg =>
    rw [if_neg whole]
    refine div_of_covers canonical _ _ ?_
    have same : (coefficient : ℚ) * 2 ^ (0 : Int) / ((10 ^ (-exponent).toNat : Nat) * 2 ^ (0 : Int)) =
        scaled coefficient exponent := by
      obtain ⟨power, rfl⟩ : ∃ power : Nat, exponent = -power := ⟨exponent.natAbs, by omega⟩
      rw [scaled, neg_neg, Int.toNat_natCast, zpow_neg, zpow_natCast]
      push_cast
      field_simp
    rw [same]
    exact covered

theorem covers_value {parts : Parts} (canonical : parts.Canonical) : parts.Covers parts.value := by
  obtain ⟨toLow, toHigh⟩ := canonical.wide
  have positive := Parts.value_pos canonical
  have reach : 0 < parts.value / 2 ^ 54 := by positivity
  exact Parts.covers_of_inside (by linarith) (by linarith)

/-- A whole number of at most 53 bits, with all its bits in the mantissa. -/
def wholeParts (whole : Nat) : Parts := ⟨whole <<< (52 - whole.log2), -(52 - whole.log2 : Nat)⟩

section Whole

variable {whole : Nat} (positive : 0 < whole) (fits : whole < 2 ^ 53)

include positive fits

theorem wholeParts_canonical : (wholeParts whole).Canonical := by
  have bits : whole.log2 ≤ 52 := Nat.lt_succ_iff.mp ((Nat.log2_lt positive.ne').mpr fits)
  have low := Nat.log2_self_le positive.ne'
  have high := @Nat.lt_log2_self whole
  have full : 2 ^ 52 = 2 ^ whole.log2 * 2 ^ (52 - whole.log2) := by
    rw [← Nat.pow_add]
    congr 1
    omega
  have beyond : 2 ^ 53 = 2 ^ (whole.log2 + 1) * 2 ^ (52 - whole.log2) := by
    rw [← Nat.pow_add]
    congr 1
    omega
  have normal : 2 ^ 52 ≤ (wholeParts whole).mantissa := by
    rw [wholeParts, Nat.shiftLeft_eq, full]
    exact Nat.mul_le_mul_right _ low
  refine ⟨by omega, ?_, ?_, ?_, .inl normal⟩
  · rw [wholeParts, Nat.shiftLeft_eq, beyond]
    exact Nat.mul_lt_mul_of_pos_right high (Nat.two_pow_pos _)
  · simp only [wholeParts]
    omega
  · simp only [wholeParts]
    omega

omit positive fits in
theorem wholeParts_value : (wholeParts whole).value = whole := by
  rw [Parts.value, wholeParts, Nat.shiftLeft_eq, zpow_neg, zpow_natCast]
  push_cast
  field_simp

theorem unpack_toFloat : whole.toUInt64.toFloat.toModel.unpack =
    .finite .positive (wholeParts whole).mantissa (wholeParts whole).exponent
      (wholeParts_canonical positive fits).positive := by
  have canonical := wholeParts_canonical positive fits
  have bits : whole.log2 ≤ 52 := Nat.lt_succ_iff.mp ((Nat.log2_lt positive.ne').mpr fits)
  have word : whole.toUInt64.toNat = whole := by
    rw [Nat.toUInt64, UInt64.toNat_ofNat', Nat.mod_eq_of_lt (by omega)]
  have sign : compare (whole : Int) 0 = .gt := Int.compare_eq_gt.mpr (by omega)
  have shift : (0 - Format.binary64.targetExponent (totalExponent whole 0)).toNat = 52 - whole.log2 := by
    rw [targetExponent_binary64, totalExponent]
    omega
  have rounded : UnpackedFloat.ofUInt64 Format.binary64 whole.toUInt64 =
      roundWithAccuracy Format.binary64 .positive (wholeParts whole).mantissa (wholeParts whole).exponent .exact := by
    simp only [UnpackedFloat.ofUInt64, UnpackedFloat.ofNat, UnpackedFloat.ofInt, UnpackedFloat.normalize, word, sign,
      UnpackedFloat.round, decreaseExponent, Int.toNat_natCast, shift, wholeParts]
    congr 1
    omega
  have exact_value : UnpackedFloat.ofUInt64 Format.binary64 whole.toUInt64 =
      .finite .positive (wholeParts whole).mantissa (wholeParts whole).exponent canonical.positive := by
    rw [rounded]
    refine roundWithAccuracy_of_covers canonical (covers_value canonical) .positive ?_
      (le_targetExponent (canonical.normal.resolve_right ?_) _)
    · have unit : (2 : ℚ) ^ (wholeParts whole).exponent ≠ 0 := zpow_ne_zero _ (by norm_num)
      rw [Parts.value, mul_div_cancel_right₀ _ unit]
      exact approximates_exact _
    · simp only [wholeParts]
      omega
  have unfolded : whole.toUInt64.toFloat.toModel =
      Float.Model.pack (UnpackedFloat.ofUInt64 Format.binary64 whole.toUInt64) := rfl
  rw [unfolded, exact_value]
  exact unpack_pack canonical false

end Whole

/-- A float that is a whole number, with all the bits that a mantissa has. -/
def Holds (x : Float) (whole : Nat) : Prop :=
  ∃ (parts : Parts) (canonical : parts.Canonical), 2 ^ 52 ≤ parts.mantissa ∧ parts.value = whole ∧
    x.toModel.unpack = .finite .positive parts.mantissa parts.exponent canonical.positive

theorem holds_toFloat {whole : Nat} (positive : 0 < whole) (fits : whole < 2 ^ 53) :
    Holds whole.toUInt64.toFloat whole := by
  have canonical := wholeParts_canonical positive fits
  refine ⟨_, canonical, canonical.normal.resolve_right ?_, wholeParts_value, unpack_toFloat positive fits⟩
  simp only [wholeParts]
  omega

theorem table_exact : ∀ power : Fin Float.exactlyRepresentablePowersOfTen.size,
    let x := Float.exactlyRepresentablePowersOfTen[power]
    magnitude x < 2047 * 2 ^ 52 ∧ magnitude x ≠ 0 ∧ isNegative x = false ∧ 2 ^ 52 ≤ (Parts.ofFloat x).mantissa ∧
      (Parts.ofFloat x).mantissa * 2 ^ (Parts.ofFloat x).exponent.toNat =
        10 ^ power.val * 2 ^ (-(Parts.ofFloat x).exponent).toNat := by
  decide +kernel

/-- The powers of ten in the table are exact. -/
theorem holds_power {power : Nat} (listed : power < Float.exactlyRepresentablePowersOfTen.size) :
    Holds Float.exactlyRepresentablePowersOfTen[power] (10 ^ power) := by
  obtain ⟨bounded, some_bit, positive, long, same⟩ := table_exact ⟨power, listed⟩
  have unpacked := unpack_of_bounded bounded some_bit
  rw [positive] at unpacked
  refine ⟨_, Parts.canonical_of_bounded bounded some_bit, long, ?_, unpacked⟩
  rw [Parts.value, ← zpow_toNat, ← mul_div_assoc, div_eq_iff (by positivity)]
  exact_mod_cast same

section Quotients

variable {x y : Float} {left right : Nat} (holdsLeft : Holds x left) (holdsRight : Holds y right) {parts : Parts}
  (canonical : parts.Canonical)

include holdsLeft holdsRight

theorem div_of_holds (covered : parts.Covers (left / right : ℚ)) :
    x / y = Float.ofModel (Float.Model.pack (.finite .positive parts.mantissa parts.exponent canonical.positive)) := by
  obtain ⟨leftParts, leftCanonical, -, leftValue, leftBits⟩ := holdsLeft
  obtain ⟨rightParts, rightCanonical, -, rightValue, rightBits⟩ := holdsRight
  have unfolded : x / y = Float.ofModel
    (Float.Model.pack (UnpackedFloat.div Format.binary64 x.toModel.unpack y.toModel.unpack)) := rfl
  rw [← leftValue, ← rightValue] at covered
  rw [unfolded, leftBits, rightBits, div_of_covers canonical _ _ covered]

theorem mul_of_holds (covered : parts.Covers (left * right : ℚ)) :
    x * y = Float.ofModel (Float.Model.pack (.finite .positive parts.mantissa parts.exponent canonical.positive)) := by
  obtain ⟨leftParts, leftCanonical, long, leftValue, leftBits⟩ := holdsLeft
  obtain ⟨rightParts, rightCanonical, -, rightValue, rightBits⟩ := holdsRight
  have unfolded : x * y = Float.ofModel
    (Float.Model.pack (UnpackedFloat.mul Format.binary64 x.toModel.unpack y.toModel.unpack)) := rfl
  rw [← leftValue, ← rightValue] at covered
  have bits : 2 ^ 52 ≤ leftParts.mantissa * rightParts.mantissa :=
    long.trans (Nat.le_mul_of_pos_right _ rightCanonical.positive)
  rw [unfolded, leftBits, rightBits, mul_of_covers canonical _ _ bits covered]

end Quotients

section Nearest

variable {parts : Parts} (canonical : parts.Canonical) {coefficient power : Nat}

theorem ofScientific_negative (covered : parts.Covers (scaled coefficient (-(power : Int)))) :
    Float.ofScientific coefficient true power =
      Float.ofModel (Float.Model.pack (.finite .positive parts.mantissa parts.exponent canonical.positive)) := by
  by_cases small : coefficient < 2 ^ 53 ∧ power ≤ 22
  case pos =>
    have quotient : ((coefficient : ℚ) / (10 ^ power : Nat)) = scaled coefficient (-(power : Int)) := by
      rw [scaled, zpow_neg, zpow_natCast]
      push_cast
      rw [div_eq_mul_inv]
    rw [Float.ofScientific, dif_pos small]
    exact div_of_holds (holds_toFloat (coefficient_pos canonical covered) small.1) (holds_power _) canonical
      (quotient ▸ covered)
  case neg =>
    have same : Int.negOfNat power = -(power : Int) := Int.negOfNat_eq
    rw [Float.ofScientific, dif_neg small, if_pos rfl, same]
    exact congrArg (Float.ofModel ∘ Float.Model.pack) (ofScientific_of_covers canonical covered)

theorem ofScientific_positive (covered : parts.Covers (scaled coefficient power)) :
    Float.ofScientific coefficient false power =
      Float.ofModel (Float.Model.pack (.finite .positive parts.mantissa parts.exponent canonical.positive)) := by
  by_cases small : coefficient < 2 ^ 53 ∧ power ≤ 22
  case pos =>
    have product : ((coefficient : ℚ) * (10 ^ power : Nat)) = scaled coefficient power := by
      rw [scaled, zpow_natCast]
      push_cast
      rfl
    rw [Float.ofScientific, dif_pos small]
    exact mul_of_holds (holds_toFloat (coefficient_pos canonical covered) small.1) (holds_power _) canonical
      (product ▸ covered)
  case neg =>
    rw [Float.ofScientific, dif_neg small]
    exact congrArg (Float.ofModel ∘ Float.Model.pack) (ofScientific_of_covers canonical covered)

end Nearest

theorem nearest_of_covers {parts : Parts} (canonical : parts.Canonical) {coefficient : Nat} {exponent : Int}
    (covered : parts.Covers (scaled coefficient exponent)) :
    nearest coefficient exponent =
      Float.ofModel (Float.Model.pack (.finite .positive parts.mantissa parts.exponent canonical.positive)) := by
  obtain ⟨low, high⟩ := highest_bounds canonical covered
  have positive := coefficient_pos canonical covered
  rw [nearest, if_neg positive.ne']
  dsimp only
  rw [if_neg (by omega), if_neg (by omega)]
  by_cases below : exponent < 0
  case pos =>
    obtain ⟨power, rfl⟩ : ∃ power : Nat, exponent = -power := ⟨exponent.natAbs, by omega⟩
    rw [if_pos below, Int.natAbs_neg, Int.natAbs_natCast]
    exact ofScientific_negative canonical covered
  case neg =>
    obtain ⟨power, rfl⟩ := Int.eq_ofNat_of_zero_le (not_lt.mp below)
    rw [if_neg below]
    exact ofScientific_positive canonical covered

theorem ofDecimal_zero {x : Float} (none : magnitude x = 0) (exponent : Int) :
    ofDecimal (.finite (isNegative x) 0 exponent) = x := by
  have bits := toBits_toNat x
  rw [none] at bits
  apply eq_of_toBits
  rw [bits]
  cases isNegative x with
  | false => rfl
  | true =>
    change (-(0.0 : Float)).toBits.toNat = 2 ^ 63
    decide +kernel

theorem withSign_pack {parts : Parts} (canonical : parts.Canonical) (negative : Bool) :
    withSign negative
        (Float.ofModel (Float.Model.pack (.finite .positive parts.mantissa parts.exponent canonical.positive))) =
      Float.ofModel (Float.Model.pack (.finite (signOf negative) parts.mantissa parts.exponent canonical.positive)) := by
  cases negative with
  | false => rfl
  | true =>
    have negated : -Float.ofModel (Float.Model.pack (.finite (signOf false) parts.mantissa parts.exponent
          canonical.positive)) =
        Float.ofModel (Float.Model.pack (UnpackedFloat.neg (Float.Model.pack (.finite (signOf false) parts.mantissa
          parts.exponent canonical.positive)).unpack)) := rfl
    rw [unpack_pack canonical] at negated
    exact negated

/-- A decimal in the interval of a float is read as the float. -/
theorem ofDecimal_of_covers {x : Float} (finite : x.isFinite = true) (some_bit : magnitude x ≠ 0) {coefficient : Nat}
    {exponent : Int} (covered : (Parts.ofFloat x).Covers (scaled coefficient exponent)) :
    ofDecimal (.finite (isNegative x) coefficient exponent) = x := by
  have canonical := Parts.canonical_ofFloat finite some_bit
  rw [ofDecimal, nearest_of_covers canonical covered, withSign_pack canonical]
  exact ofModel_pack (magnitude_lt_of_isFinite finite) some_bit

end FormQuery.Binary
