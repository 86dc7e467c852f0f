import FormQuery.Proofs.RoundingInterval
import Mathlib.Data.Nat.Cast.Order.Field

/-! The shortest decimal of a float. A search from coarse to fine grids finds a point that reads back as the float, no
later than at the seventeenth digit. The point is a neighbour of the float on its grid, so it stands on the same side of
the powers of ten at which the notation changes. -/

namespace FormQuery.Binary

open Decimal

theorem shifted_bounds {numerator denominator shift : Nat} (positive : 0 < denominator)
    (large : denominator ≤ numerator * 10 ^ shift) :
    (10 : ℚ) ^ (((digitsOf (numerator * 10 ^ shift / denominator)).length : Int) - shift - 1) ≤
        numerator / denominator ∧
      (numerator / denominator : ℚ) <
        10 ^ (((digitsOf (numerator * 10 ^ shift / denominator)).length : Int) - shift) := by
  have common : (0 : ℚ) < denominator := by exact_mod_cast positive
  have ten : (0 : ℚ) < 10 ^ shift := by positivity
  have shifted : (numerator / denominator : ℚ) * 10 ^ shift = (numerator * 10 ^ shift : Nat) / (denominator : ℚ) := by
    push_cast
    ring
  have whole : ((numerator * 10 ^ shift / denominator : Nat) : ℚ) ≤ numerator / denominator * 10 ^ shift := by
    rw [shifted]
    exact Nat.cast_div_le
  have rest : (numerator / denominator : ℚ) * 10 ^ shift < (numerator * 10 ^ shift / denominator + 1 : Nat) := by
    rw [shifted, div_lt_iff₀ common]
    exact_mod_cast Nat.lt_mul_of_div_lt (Nat.lt_succ_self _) positive
  obtain ⟨fewer, long, low, high⟩ := digitsOf_bounds (Nat.div_pos large positive)
  have before : ((fewer + 1 : Nat) : Int) - shift - 1 = (fewer : Int) - shift := by omega
  rw [long, before, zpow_sub₀ (by norm_num), zpow_sub₀ (by norm_num), zpow_natCast, zpow_natCast, zpow_natCast,
    div_le_iff₀ ten, lt_div_iff₀ ten]
  constructor
  · exact le_trans (by exact_mod_cast low) whole
  · exact rest.trans_le (by exact_mod_cast high)

namespace Parts

variable {parts : Parts} (canonical : parts.Canonical)

include canonical

theorem shifted_value_bounds {shift : Nat} (enough : 2 ^ 1076 ≤ 10 ^ shift) :
    (10 : ℚ) ^ (((digitsOf (parts.span.value * Nat.pow 10 shift / parts.span.denominator)).length : Int) - shift - 1) ≤
        parts.value ∧
      parts.value <
        10 ^ (((digitsOf (parts.span.value * Nat.pow 10 shift / parts.span.denominator)).length : Int) - shift) := by
  have least := canonical.least
  have digit : 0 < parts.span.value := Nat.mul_pos (Nat.mul_pos (by decide) canonical.positive) (Nat.pow_pos (by decide))
  have large : parts.span.denominator ≤ parts.span.value * 10 ^ shift := calc
    parts.span.denominator ≤ 2 ^ 1076 := Nat.pow_le_pow_right (by decide) (by omega)
    _ ≤ 10 ^ shift := enough
    _ ≤ parts.span.value * 10 ^ shift := Nat.le_mul_of_pos_left _ digit
  rw [← span_value]
  exact shifted_bounds parts.span_denominator_pos large

theorem places_bounds :
    (10 : ℚ) ^ (parts.span.places - 1) ≤ parts.value ∧ parts.value < 10 ^ parts.span.places := by
  have enough : 2 ^ 1076 ≤ 10 ^ 330 := by decide +kernel
  have whole : (330 : Int) = (330 : Nat) := rfl
  unfold Span.places
  rw [whole]
  -- The shift is not looked into, or its power would be computed.
  generalize 330 = shift at enough ⊢
  exact shifted_value_bounds canonical enough

theorem covers_of_near {number : ℚ} (near : |number - parts.value| ≤ 10 ^ (parts.span.places - 17) / 2) :
    parts.Covers number := by
  obtain ⟨toLow, toHigh⟩ := canonical.wide
  obtain ⟨least, -⟩ := places_bounds canonical
  have step : (10 : ℚ) ^ (parts.span.places - 17) = 10 ^ (parts.span.places - 1) / 10 ^ 16 := by
    have split : parts.span.places - 17 = parts.span.places - 1 - (16 : Nat) := by omega
    rw [split, zpow_sub₀ (by norm_num), zpow_natCast]
  have narrow : (10 : ℚ) ^ (parts.span.places - 17) / 2 < parts.value / 2 ^ 54 := by
    have positive := value_pos canonical
    rw [step]
    linarith
  obtain ⟨less, more⟩ := abs_le.mp near
  exact covers_of_inside (by linarith) (by linarith)

end Parts

theorem Span.search_of_last (span : Span) {top : Int} {left : Nat}
    (last : ∃ point, span.pointOn? (top - left) = some point) (some_grid : 0 < left) :
    ∃ point grid, span.search top left = (point, grid) ∧ grid < top ∧ top - left ≤ grid ∧
      span.pointOn? grid = some point := by
  induction left generalizing top with
  | zero => omega
  | succ left step =>
    unfold search
    simp only
    split
    next point found => exact ⟨point, top - 1, rfl, by omega, by omega, found⟩
    next missed =>
      have finer : top - (left + 1 : Nat) = top - 1 - left := by omega
      have later : 0 < left := by
        by_contra none_left
        obtain rfl : left = 0 := by omega
        obtain ⟨point, found⟩ := last
        simp [missed] at found
      obtain ⟨point, grid, result, below, above, found⟩ := step (finer ▸ last) later
      exact ⟨point, grid, result, by omega, by omega, found⟩

theorem scaled_pow {grid power : Int} (finer : grid ≤ power) :
    scaled (10 ^ (power - grid).toNat : Nat) grid = 10 ^ power := by
  have split : power = (power - grid).toNat + grid := by omega
  conv_rhs => rw [split, zpow_add₀ (by norm_num), zpow_natCast]
  simp [scaled]

theorem scaled_le_scaled {left right : Nat} {grid : Int} :
    scaled left grid ≤ scaled right grid ↔ left ≤ right := by
  have ten : (0 : ℚ) < 10 ^ grid := zpow_pos (by norm_num) _
  rw [scaled, scaled, mul_le_mul_iff_left₀ ten]
  exact_mod_cast Iff.rfl

theorem scaled_lt_scaled {left right : Nat} {grid : Int} :
    scaled left grid < scaled right grid ↔ left < right := by
  rw [← not_le, scaled_le_scaled, not_le]

/-- Neighbours of a value on a grid are not separated from it by a power of ten of the grid. -/
theorem neighbour_bounds {value : ℚ} {grid low high : Int} {lower point : Nat} (above : scaled lower grid ≤ value)
    (beneath : value < scaled (lower + 1 : Nat) grid) (next : point = lower ∨ point = lower + 1)
    (finer : grid ≤ low) (order : low ≤ high) (least : 10 ^ low ≤ value) (most : value < 10 ^ high) :
    10 ^ low ≤ scaled point grid ∧ scaled point grid ≤ 10 ^ high := by
  rw [← scaled_pow finer] at least ⊢
  rw [← scaled_pow (finer.trans order)] at most ⊢
  have atLeast := scaled_lt_scaled.mp (least.trans_lt beneath)
  have atMost := scaled_lt_scaled.mp (above.trans_lt most)
  rw [scaled_le_scaled, scaled_le_scaled]
  omega

/-- The shortest decimal reads back as the number, and has its places or is the power of ten after them. -/
theorem shortest_spec {parts : Parts} (canonical : parts.Canonical) {coefficient : Nat} {grid : Int}
    (found : shortest parts = (coefficient, grid)) :
    parts.Covers (scaled coefficient grid) ∧ 10 ^ (parts.span.places - 1) ≤ scaled coefficient grid ∧
      scaled coefficient grid ≤ 10 ^ parts.span.places ∧ parts.span.places ≤ grid + 17 := by
  have last := Span.exists_pointOn? canonical fun _ near => Parts.covers_of_near canonical near
  obtain ⟨point, step, result, below, fine, point_found⟩ := parts.span.search_of_last last (by decide)
  obtain ⟨rfl, rfl⟩ := Prod.mk.inj (result.symm.trans found)
  obtain ⟨covered, lower, above, beneath, next⟩ := Span.pointOn?_eq_some canonical point_found
  obtain ⟨least, most⟩ := Parts.places_bounds canonical
  have fine : parts.span.places - 17 ≤ step := fine
  obtain ⟨reached, kept⟩ := neighbour_bounds above beneath next (by omega) (by omega) least most
  exact ⟨covered, reached, kept, by omega⟩

theorem Parts.high_le_of_value_lt {parts : Parts} (canonical : parts.Canonical) (mantissa : Nat) (exponent : Int)
    (more : 2 ^ 52 < mantissa) (fits : mantissa ≤ 2 ^ 53) (least : -1074 ≤ exponent)
    (less : parts.value < mantissa * 2 ^ exponent) : parts.high ≤ (2 * mantissa - 1) * 2 ^ (exponent - 1) := by
  have more : (2 : ℚ) ^ 52 + 1 ≤ mantissa := by exact_mod_cast more
  have fits : (mantissa : ℚ) ≤ 2 ^ 53 := by exact_mod_cast fits
  rcases lt_trichotomy parts.exponent exponent with lower | same | higher
  case inl =>
    have digits : (parts.mantissa : ℚ) + 1 ≤ 2 ^ 53 := by exact_mod_cast canonical.fits
    have power : (2 : ℚ) ^ (parts.exponent - 2) ≤ 2 ^ (exponent - 3) := zpow_le_zpow_right₀ (by norm_num) (by omega)
    have split : exponent - 1 = exponent - 3 + 2 := by omega
    calc parts.high ≤ (4 * parts.mantissa + 2) * 2 ^ (exponent - 3) := by unfold high; gcongr
      _ ≤ (2 * mantissa - 1) * 2 ^ 2 * 2 ^ (exponent - 3) := by gcongr; linarith
      _ = (2 * mantissa - 1) * 2 ^ (exponent - 1) := by rw [split, zpow_add₀ (by norm_num)]; ring
  case inr.inl =>
    have unit : (0 : ℚ) < 2 ^ parts.exponent := zpow_pos (by norm_num) _
    rw [← same, Parts.value, mul_lt_mul_iff_left₀ unit, Nat.cast_lt] at less
    have less : (parts.mantissa : ℚ) + 1 ≤ mantissa := by exact_mod_cast less
    have split : exponent - 1 = parts.exponent - 2 + 1 := by omega
    calc parts.high ≤ (2 * mantissa - 1) * 2 ^ 1 * 2 ^ (parts.exponent - 2) := by unfold high; gcongr; linarith
      _ = (2 * mantissa - 1) * 2 ^ (exponent - 1) := by rw [split, zpow_add₀ (by norm_num)]; ring
  case inr.inr =>
    have normal : (2 : ℚ) ^ 52 ≤ parts.mantissa := by
      exact_mod_cast canonical.normal.resolve_right (by omega)
    have power : (2 : ℚ) ^ (exponent + 1) ≤ 2 ^ parts.exponent := zpow_le_zpow_right₀ (by norm_num) (by omega)
    have : (mantissa : ℚ) * 2 ^ exponent ≤ parts.value := calc
      (mantissa : ℚ) * 2 ^ exponent ≤ 2 ^ 53 * 2 ^ exponent := by gcongr
      _ = 2 ^ 52 * 2 ^ (exponent + 1) := by rw [zpow_add₀ (by norm_num)]; ring
      _ ≤ parts.value := by unfold value; gcongr
    linarith

/-- What reads back as a number below `10 ^ 16` is below it, and likewise for `10 ^ -4`, since no float lies between
either of them and the middle between the two floats there. -/
theorem Parts.Covers.lt_of_value_lt {parts : Parts} (canonical : parts.Canonical) {number : ℚ}
    (covered : parts.Covers number) :
    (parts.value < 10 ^ (16 : Int) → number < 10 ^ (16 : Int)) ∧
      (parts.value < 10 ^ (-4 : Int) → number < 10 ^ (-4 : Int)) := by
  have high := covered.le_high
  constructor
  · intro less
    have middle := high_le_of_value_lt canonical 5000000000000000 1 (by norm_num) (by norm_num) (by norm_num)
      (by norm_num at less ⊢; exact less)
    norm_num at middle ⊢
    linarith
  · intro less
    have middle := high_le_of_value_lt canonical 7378697629483821 (-66) (by norm_num) (by norm_num) (by norm_num)
      (less.trans (by norm_num))
    norm_num at middle ⊢
    linarith

section Place

variable {parts : Parts} (canonical : parts.Canonical) {coefficient : Nat} {grid : Int}
  (found : shortest parts = (coefficient, grid))

include canonical found

theorem shortest_pos : 0 < coefficient := by
  have least := (shortest_spec canonical found).2.1
  exact_mod_cast scaled_pos.mp ((zpow_pos (by norm_num) _).trans_le least)

/-- Seventeen digits suffice, and one more stands for the power of ten after them. -/
theorem length_shortest : (digitsOf coefficient).length ≤ 18 := by
  obtain ⟨-, -, kept, fine⟩ := shortest_spec canonical found
  obtain ⟨first, -⟩ := scaled_bounds (Int.natCast_pos.mpr (shortest_pos canonical found)) grid
  have := (zpow_le_zpow_iff_right₀ (by norm_num : (1 : ℚ) < 10)).mp (first.trans kept)
  rw [Int.natAbs_natCast] at this
  omega

theorem place_le_iff {place : Int} (kept : parts.value < 10 ^ place → scaled coefficient grid < 10 ^ place) :
    grid + (digitsOf coefficient).length ≤ place ↔ parts.value < 10 ^ place := by
  have ten : (1 : ℚ) < 10 := by norm_num
  obtain ⟨-, least, -, -⟩ := shortest_spec canonical found
  obtain ⟨-, most⟩ := Parts.places_bounds canonical
  obtain ⟨first, past⟩ := scaled_bounds (Int.natCast_pos.mpr (shortest_pos canonical found)) grid
  rw [Int.natAbs_natCast] at first past
  constructor
  · intro ends
    by_contra reached
    have longer := (zpow_lt_zpow_iff_right₀ ten).mp ((not_lt.mp reached).trans_lt most)
    have far : (10 : ℚ) ^ place ≤ 10 ^ (parts.span.places - 1) := zpow_le_zpow_right₀ ten.le (by omega)
    have := (zpow_lt_zpow_iff_right₀ ten).mp ((far.trans least).trans_lt past)
    omega
  · intro less
    have := (zpow_lt_zpow_iff_right₀ ten).mp (first.trans_lt (kept less))
    omega

theorem place_iff : (-4 < grid + (digitsOf coefficient).length ∧ grid + (digitsOf coefficient).length ≤ 16) ↔
    10 ^ (-4 : Int) ≤ parts.value ∧ parts.value < 10 ^ (16 : Int) := by
  obtain ⟨large, small⟩ := (shortest_spec canonical found).1.lt_of_value_lt canonical
  rw [← not_le, place_le_iff canonical found large, place_le_iff canonical found small, not_lt]

end Place

end FormQuery.Binary
