import FormQuery.Proofs.ExactNumbers
import Mathlib.Tactic.FieldSimp
import Mathlib.Tactic.Linarith
import Mathlib.Tactic.Positivity
import Mathlib.Tactic.Ring

/-! The rationals that read back as a float: those half way to its neighbours. The interval is computed with natural
numbers over a common denominator; here it is an interval of rationals, wide enough for seventeen digits. -/

namespace FormQuery.Binary

open Decimal

/-- A power with a sign, as powers without one on both sides of a fraction. -/
theorem zpow_toNat (base : ℚ) (power : Int) : base ^ power.toNat / base ^ (-power).toNat = base ^ power := by
  obtain ⟨size, rfl | rfl⟩ := power.eq_nat_or_neg
  · simp
  · simp [zpow_neg]

theorem eq_div_add_mod (numerator denominator : Nat) :
    (numerator : ℚ) = denominator * (numerator / denominator : Nat) + (numerator % denominator : Nat) := by
  exact_mod_cast (Nat.div_add_mod numerator denominator).symm

theorem mod_div_lt_one (numerator : Nat) {denominator : Nat} (positive : 0 < denominator) :
    ((numerator % denominator : Nat) : ℚ) / denominator < 1 := by
  rw [div_lt_one (by exact_mod_cast positive)]
  exact_mod_cast Nat.mod_lt _ positive

section Bits

open Float.Model

def magnitude (x : Float) : Nat := x.toBits.toNat % 2 ^ 63

def isNegative (x : Float) : Bool := 2 ^ 63 ≤ x.toBits.toNat

theorem unpackExponent_ne_of_isFinite {x : Float} (finite : x.isFinite = true) :
    @UnpackedFloat.unpackExponent Format.binary64 x.toBits.toBitVec ≠ -1#_ := by
  intro top
  have known : x.isFinite = (UnpackedFloat.unpack Format.binary64 x.toBits.toBitVec).isFinite := rfl
  have unpacked : UnpackedFloat.unpack Format.binary64 x.toBits.toBitVec = if _ : _ then _ else _ := if_pos top
  rw [known, unpacked] at finite
  split at finite <;> cases finite

theorem magnitude_lt_of_isFinite {x : Float} (finite : x.isFinite = true) : magnitude x < 2047 * 2 ^ 52 := by
  have field := unpackExponent_toNat x.toBits.toBitVec
  have same : x.toBits.toBitVec.toNat = x.toBits.toNat := rfl
  have small : magnitude x < 2 ^ 63 := Nat.mod_lt _ (by decide)
  by_contra top
  refine unpackExponent_ne_of_isFinite finite (BitVec.eq_of_toNat_eq ?_)
  have ones : (-1#_ : BitVec Format.binary64.exponentBits).toNat = 2047 := rfl
  rw [field, same, ones]
  unfold magnitude at top small
  omega

theorem classes_of_isFinite {x : Float} (finite : x.isFinite = true) : x.isNaN = false ∧ x.isInf = false := by
  have known : x.isFinite = (UnpackedFloat.unpack Format.binary64 x.toBits.toBitVec).isFinite := rfl
  have nan : x.isNaN = (UnpackedFloat.unpack Format.binary64 x.toBits.toBitVec).isNaN := rfl
  have inf : x.isInf = (UnpackedFloat.unpack Format.binary64 x.toBits.toBitVec).isInf := rfl
  rw [known] at finite
  rw [nan, inf]
  generalize UnpackedFloat.unpack Format.binary64 x.toBits.toBitVec = unpacked at finite
  cases unpacked <;> first | exact ⟨rfl, rfl⟩ | cases finite

end Bits

namespace Parts

def value (parts : Parts) : ℚ := parts.mantissa * 2 ^ parts.exponent

/-- The parts of a positive finite number. The mantissa has all its bits, unless the exponent is the smallest one. -/
structure Canonical (parts : Parts) : Prop where
  positive : 0 < parts.mantissa
  fits : parts.mantissa < 2 ^ 53
  least : -1074 ≤ parts.exponent
  most : parts.exponent ≤ 971
  normal : 2 ^ 52 ≤ parts.mantissa ∨ parts.exponent = -1074

theorem canonical_ofBits {bits : Nat} (positive : 0 < bits) (finite : bits < 2047 * 2 ^ 52) :
    (Parts.ofBits bits).Canonical := by
  have two : Nat.pow 2 52 = 2 ^ 52 := rfl
  simp only [ofBits, two]
  split
  next none =>
    refine ⟨?_, ?_, le_rfl, by simp, .inr rfl⟩ <;> simp only <;> omega
  next some_field =>
    refine ⟨?_, ?_, ?_, ?_, .inl ?_⟩ <;> simp only <;> omega

def ofFloat (x : Float) : Parts := .ofBits (magnitude x)

theorem canonical_of_bounded {x : Float} (bounded : magnitude x < 2047 * 2 ^ 52) (some_bit : magnitude x ≠ 0) :
    (Parts.ofFloat x).Canonical :=
  canonical_ofBits (Nat.pos_of_ne_zero some_bit) bounded

theorem canonical_ofFloat {x : Float} (finite : x.isFinite = true) (some_bit : magnitude x ≠ 0) :
    (Parts.ofFloat x).Canonical :=
  canonical_of_bounded (magnitude_lt_of_isFinite finite) some_bit

/-- How far the interval goes below the number, in quarters of the last bit. -/
def below (parts : Parts) : Nat := if parts.mantissa = 2 ^ 52 ∧ parts.exponent > -1074 then 1 else 2

def low (parts : Parts) : ℚ := (4 * parts.mantissa - parts.below) * 2 ^ (parts.exponent - 2)

def high (parts : Parts) : ℚ := (4 * parts.mantissa + 2) * 2 ^ (parts.exponent - 2)

/-- The rationals that read back as the number. The ends count when the mantissa is even. -/
def Covers (parts : Parts) (number : ℚ) : Prop :=
  if parts.mantissa % 2 = 0 then parts.low ≤ number ∧ number ≤ parts.high
  else parts.low < number ∧ number < parts.high

variable {parts : Parts}

theorem Covers.low_le {number : ℚ} (covered : parts.Covers number) : parts.low ≤ number := by
  unfold Covers at covered
  split at covered
  · exact covered.1
  · exact covered.1.le

theorem Covers.le_high {number : ℚ} (covered : parts.Covers number) : number ≤ parts.high := by
  unfold Covers at covered
  split at covered
  · exact covered.2
  · exact covered.2.le

theorem covers_of_inside {number : ℚ} (low : parts.low < number) (high : number < parts.high) :
    parts.Covers number := by
  unfold Covers
  split
  · exact ⟨low.le, high.le⟩
  · exact ⟨low, high⟩

theorem below_le (parts : Parts) : 1 ≤ parts.below ∧ parts.below ≤ 2 := by
  unfold below
  split <;> omega

theorem value_eq (parts : Parts) : parts.value = 4 * parts.mantissa * 2 ^ (parts.exponent - 2) := by
  have split : parts.exponent = parts.exponent - 2 + 2 := by omega
  rw [value, split, zpow_add₀ (by norm_num)]
  norm_num
  ring

theorem value_pos (canonical : parts.Canonical) : 0 < parts.value := by
  have positive : (0 : ℚ) < parts.mantissa := by exact_mod_cast canonical.positive
  exact mul_pos positive (zpow_pos (by norm_num) _)

/-- The interval reaches on both sides farther than half a unit of the seventeenth digit. -/
theorem Canonical.wide (canonical : parts.Canonical) :
    parts.value / 2 ^ 54 ≤ parts.value - parts.low ∧ parts.value / 2 ^ 54 ≤ parts.high - parts.value := by
  have quarter : (0 : ℚ) < 2 ^ (parts.exponent - 2) := zpow_pos (by norm_num) _
  have fits : (parts.mantissa : ℚ) ≤ 2 ^ 53 := by exact_mod_cast canonical.fits.le
  have above : (4 * parts.mantissa : ℚ) / 2 ^ 54 ≤ 2 := by
    rw [div_le_iff₀ (by norm_num)]
    linarith
  have below : (4 * parts.mantissa : ℚ) / 2 ^ 54 ≤ parts.below := by
    unfold Parts.below
    split
    next power =>
      rw [power.1]
      norm_num
    next => exact_mod_cast above
  have scaled {reach : ℚ} (far : (4 * parts.mantissa : ℚ) / 2 ^ 54 ≤ reach) :
      parts.value / 2 ^ 54 ≤ reach * 2 ^ (parts.exponent - 2) := by
    rw [value_eq, mul_div_right_comm]
    exact mul_le_mul_of_nonneg_right far quarter.le
  constructor
  · have reach : parts.value - parts.low = parts.below * 2 ^ (parts.exponent - 2) := by
      rw [value_eq, low]
      ring
    rw [reach]
    exact scaled below
  · have reach : parts.high - parts.value = 2 * 2 ^ (parts.exponent - 2) := by
      rw [value_eq, high]
      ring
    rw [reach]
    exact scaled above

theorem span_denominator_pos (parts : Parts) : 0 < parts.span.denominator := Nat.pow_pos (by norm_num)

theorem quarters (parts : Parts) (count : Nat) :
    ((count * Nat.pow 2 (parts.exponent - 2).toNat : Nat) : ℚ) / parts.span.denominator =
      count * 2 ^ (parts.exponent - 2) := by
  rw [← zpow_toNat 2 (parts.exponent - 2)]
  simp only [span, Nat.pow_eq]
  push_cast
  ring

theorem span_value (parts : Parts) : (parts.span.value : ℚ) / parts.span.denominator = parts.value := by
  rw [value_eq]
  exact_mod_cast quarters parts (4 * parts.mantissa)

theorem span_high (parts : Parts) : (parts.span.high : ℚ) / parts.span.denominator = parts.high := by
  rw [high]
  exact_mod_cast quarters parts (4 * parts.mantissa + 2)

theorem span_low (canonical : parts.Canonical) : (parts.span.low : ℚ) / parts.span.denominator = parts.low := by
  have less : parts.below ≤ 4 * parts.mantissa := by
    have := canonical.positive
    have := parts.below_le
    omega
  have same : parts.span.low = (4 * parts.mantissa - parts.below) * Nat.pow 2 (parts.exponent - 2).toNat := by
    simp [span, below]
  rw [same, low, quarters]
  push_cast [less]
  ring

end Parts

namespace Span

theorem scaled_toNat (point : Nat) (grid : Int) :
    scaled point grid = (point * Nat.pow 10 grid.toNat : Nat) / (Nat.pow 10 (-grid).toNat : Nat) := by
  rw [scaled, ← zpow_toNat 10 grid, Nat.pow_eq, Nat.pow_eq]
  push_cast
  rw [mul_div_assoc]

/-- Bounds are compared with a point after both are brought to natural numbers. -/
theorem le_point {denominator : Nat} (positive : 0 < denominator) (bound point : Nat) (grid : Int) :
    bound * Nat.pow 10 (-grid).toNat ≤ point * Nat.pow 10 grid.toNat * denominator ↔
      (bound : ℚ) / denominator ≤ scaled point grid := by
  have unit : (0 : ℚ) < (Nat.pow 10 (-grid).toNat : Nat) := by exact_mod_cast Nat.pow_pos (by norm_num)
  rw [scaled_toNat, div_le_div_iff₀ (by exact_mod_cast positive) unit]
  exact_mod_cast Iff.rfl

theorem point_le {denominator : Nat} (positive : 0 < denominator) (bound point : Nat) (grid : Int) :
    point * Nat.pow 10 grid.toNat * denominator ≤ bound * Nat.pow 10 (-grid).toNat ↔
      scaled point grid ≤ (bound : ℚ) / denominator := by
  have unit : (0 : ℚ) < (Nat.pow 10 (-grid).toNat : Nat) := by exact_mod_cast Nat.pow_pos (by norm_num)
  rw [scaled_toNat, div_le_div_iff₀ unit (by exact_mod_cast positive)]
  exact_mod_cast Iff.rfl

/-- The nearer of the two natural numbers next to a fraction; of two that are as near, the even one. -/
def nearer (numerator denominator : Nat) : Nat :=
  let lower := numerator / denominator
  let twice := 2 * (numerator % denominator)
  if twice < denominator || (twice = denominator && lower % 2 = 0) then lower else lower + 1

def farther (numerator denominator : Nat) : Nat :=
  if nearer numerator denominator = numerator / denominator then numerator / denominator + 1
  else numerator / denominator

theorem nearer_cases (numerator denominator : Nat) :
    nearer numerator denominator = numerator / denominator ∨
      nearer numerator denominator = numerator / denominator + 1 := by
  simp only [nearer]
  split
  · exact .inl rfl
  · exact .inr rfl

theorem farther_cases (numerator denominator : Nat) :
    farther numerator denominator = numerator / denominator ∨
      farther numerator denominator = numerator / denominator + 1 := by
  unfold farther
  split
  · exact .inr rfl
  · exact .inl rfl

theorem pointOn?_eq (span : Span) {grid : Int} {numerator denominator : Nat}
    (above : numerator = span.value * Nat.pow 10 (-grid).toNat)
    (beneath : denominator = span.denominator * Nat.pow 10 grid.toNat) :
    span.pointOn? grid =
      if span.holds grid (nearer numerator denominator) then some (nearer numerator denominator)
      else if span.holds grid (farther numerator denominator) then some (farther numerator denominator) else none := by
  subst above beneath
  rfl

/-- The value as a fraction of natural numbers on a grid. -/
theorem value_on_grid (parts : Parts) (grid : Int) : ∃ numerator denominator : Nat, 0 < denominator ∧
    numerator = parts.span.value * Nat.pow 10 (-grid).toNat ∧
      denominator = parts.span.denominator * Nat.pow 10 grid.toNat ∧
        parts.value = (numerator : ℚ) / denominator * 10 ^ grid := by
  refine ⟨_, _, Nat.mul_pos parts.span_denominator_pos (Nat.pow_pos (by norm_num)), rfl, rfl, ?_⟩
  have common : (parts.span.denominator : ℚ) ≠ 0 := by exact_mod_cast parts.span_denominator_pos.ne'
  rw [← Parts.span_value, ← zpow_toNat 10 grid]
  simp only [Nat.pow_eq]
  push_cast
  field_simp

section Fraction

variable {value : ℚ} {numerator denominator : Nat} {grid : Int} (positive : 0 < denominator)
  (shape : value = (numerator : ℚ) / denominator * 10 ^ grid)

include positive shape

theorem value_between :
    value - scaled (numerator / denominator : Nat) grid =
        ((numerator % denominator : Nat) : ℚ) / denominator * 10 ^ grid ∧
      scaled (numerator / denominator + 1 : Nat) grid - value =
        (1 - ((numerator % denominator : Nat) : ℚ) / denominator) * 10 ^ grid := by
  have common : (denominator : ℚ) ≠ 0 := by exact_mod_cast positive.ne'
  rw [shape, scaled, scaled, eq_div_add_mod numerator denominator]
  generalize (numerator / denominator : Nat) = whole
  push_cast
  constructor
  · field_simp
    ring
  · field_simp
    ring

theorem value_within : scaled (numerator / denominator : Nat) grid ≤ value ∧
    value < scaled (numerator / denominator + 1 : Nat) grid := by
  obtain ⟨above, beneath⟩ := value_between positive shape
  have rest := mod_div_lt_one numerator positive
  constructor
  · have : 0 ≤ ((numerator % denominator : Nat) : ℚ) / denominator * 10 ^ grid := by positivity
    linarith
  · have : 0 < (1 - ((numerator % denominator : Nat) : ℚ) / denominator) * 10 ^ grid :=
      mul_pos (by linarith) (by positivity)
    linarith

/-- The nearer neighbour is at most half a step away. -/
theorem abs_nearer_sub_le : |scaled (nearer numerator denominator) grid - value| ≤ 10 ^ grid / 2 := by
  obtain ⟨above, beneath⟩ := value_between positive shape
  obtain ⟨low, high⟩ := value_within positive shape
  have ten : (0 : ℚ) < 10 ^ grid := zpow_pos (by norm_num) _
  have common : (0 : ℚ) < denominator := by exact_mod_cast positive
  unfold nearer
  simp only [Bool.or_eq_true, Bool.and_eq_true, decide_eq_true_eq]
  split
  next lower =>
    have half : ((numerator % denominator : Nat) : ℚ) / denominator ≤ 1 / 2 := by
      rw [div_le_div_iff₀ common (by norm_num)]
      exact_mod_cast (by omega : numerator % denominator * 2 ≤ 1 * denominator)
    rw [abs_sub_comm, abs_of_nonneg (by linarith), above]
    nlinarith
  next upper =>
    have half : 1 / 2 ≤ ((numerator % denominator : Nat) : ℚ) / denominator := by
      rw [div_le_div_iff₀ (by norm_num) common]
      exact_mod_cast (by omega : 1 * denominator ≤ numerator % denominator * 2)
    rw [abs_of_nonneg (by linarith), beneath]
    nlinarith

end Fraction

section Canonical

variable {parts : Parts} (canonical : parts.Canonical)

include canonical

theorem holds_iff (grid : Int) (point : Nat) :
    parts.span.holds grid point = true ↔ parts.Covers (scaled point grid) := by
  have positive := parts.span_denominator_pos
  have low := le_point positive parts.span.low point grid
  have high := point_le positive parts.span.high point grid
  have low' := point_le positive parts.span.low point grid
  have high' := le_point positive parts.span.high point grid
  rw [Parts.span_low canonical] at low low'
  rw [Parts.span_high] at high high'
  have even : parts.span.closed = decide (parts.mantissa % 2 = 0) := rfl
  unfold holds Parts.Covers
  rw [even]
  simp only [decide_eq_true_eq]
  split
  · rw [Bool.and_eq_true, decide_eq_true_eq, decide_eq_true_eq, low, high]
  · rw [Bool.and_eq_true, decide_eq_true_eq, decide_eq_true_eq, ← not_le, ← not_le, low', high', not_le, not_le]

/-- A point that is found reads back as the number, and is one of the two neighbours of its value. -/
theorem pointOn?_eq_some {grid : Int} {point : Nat} (found : parts.span.pointOn? grid = some point) :
    parts.Covers (scaled point grid) ∧ ∃ lower : Nat, scaled lower grid ≤ parts.value ∧
      parts.value < scaled (lower + 1 : Nat) grid ∧ (point = lower ∨ point = lower + 1) := by
  obtain ⟨numerator, denominator, positive, above, beneath, shape⟩ := value_on_grid parts grid
  obtain ⟨low, high⟩ := value_within positive shape
  rw [pointOn?_eq _ above beneath] at found
  split at found
  next held =>
    cases found
    exact ⟨(holds_iff canonical _ _).mp held, _, low, high, nearer_cases _ _⟩
  next =>
    split at found
    next held =>
      cases found
      exact ⟨(holds_iff canonical _ _).mp held, _, low, high, farther_cases _ _⟩
    next => cases found

/-- A grid has a point when all rationals within half of its step read back as the number. -/
theorem exists_pointOn? {grid : Int}
    (fine : ∀ number : ℚ, |number - parts.value| ≤ 10 ^ grid / 2 → parts.Covers number) :
    ∃ point, parts.span.pointOn? grid = some point := by
  obtain ⟨numerator, denominator, positive, above, beneath, shape⟩ := value_on_grid parts grid
  have held := (holds_iff canonical _ _).mpr (fine _ (abs_nearer_sub_le positive shape))
  exact ⟨_, by rw [pointOn?_eq _ above beneath, if_pos held]⟩

end Canonical

end Span

end FormQuery.Binary
