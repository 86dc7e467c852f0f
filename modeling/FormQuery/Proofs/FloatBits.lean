import FormQuery.Proofs.RoundingInterval

/-! Floats as bits. The bits of a finite float are those of its sign, its exponent and its mantissa without the first bit,
so a float is the one that its sign and its parts are packed to, and packed parts are found again. -/

namespace FormQuery.Binary

open Float.Model UnpackedFloat

namespace Parts

/-- The bits of a positive number with these parts. The first bit of a full mantissa counts in the exponent. -/
def toBits (parts : Parts) : Nat := (parts.exponent + 1074).toNat * 2 ^ 52 + parts.mantissa

theorem toBits_ofBits (bits : Nat) : (Parts.ofBits bits).toBits = bits := by
  have two : Nat.pow 2 52 = 2 ^ 52 := rfl
  simp only [ofBits, two]
  split
  next none =>
    simp only [toBits]
    omega
  next some_field =>
    simp only [toBits]
    omega

variable {parts : Parts} (canonical : parts.Canonical)

include canonical

theorem toBits_pos : 0 < parts.toBits := Nat.add_pos_right _ canonical.positive

theorem toBits_lt : parts.toBits < 2047 * 2 ^ 52 := by
  have most := canonical.most
  have fits := canonical.fits
  unfold toBits
  omega

theorem ofBits_toBits : Parts.ofBits parts.toBits = parts := by
  obtain ⟨mantissa, exponent⟩ := parts
  have two : Nat.pow 2 52 = 2 ^ 52 := rfl
  have fits : mantissa < 2 ^ 53 := canonical.fits
  have least : -1074 ≤ exponent := canonical.least
  simp only [ofBits, toBits, two]
  have normal : 2 ^ 52 ≤ mantissa ∨ exponent = -1074 := canonical.normal
  by_cases full : 2 ^ 52 ≤ mantissa
  case pos =>
    have field : ((exponent + 1074).toNat * 2 ^ 52 + mantissa) / 2 ^ 52 = (exponent + 1075).toNat := by omega
    have rest : ((exponent + 1074).toNat * 2 ^ 52 + mantissa) % 2 ^ 52 = mantissa - 2 ^ 52 := by omega
    rw [field, rest, if_neg (by omega), Parts.mk.injEq]
    omega
  case neg =>
    have smallest := normal.resolve_left full
    have field : ((exponent + 1074).toNat * 2 ^ 52 + mantissa) / 2 ^ 52 = 0 := by omega
    have rest : ((exponent + 1074).toNat * 2 ^ 52 + mantissa) % 2 ^ 52 = mantissa := by omega
    rw [field, rest, if_pos rfl, smallest]

end Parts

def signOf (negative : Bool) : Sign := if negative then .negative else .positive

theorem packComponents_toNat (sign : Sign) (exponent : BitVec 11) (mantissa : BitVec 52) :
    (packComponents Format.binary64 sign exponent mantissa).toNat =
      sign.toBitVec.toNat * 2 ^ 63 + exponent.toNat * 2 ^ 52 + mantissa.toNat := by
  rw [packComponents, BitVec.toNat_append, ← Nat.shiftLeft_add_eq_or_of_lt mantissa.isLt, BitVec.toNat_append,
    ← Nat.shiftLeft_add_eq_or_of_lt exponent.isLt, Nat.shiftLeft_eq, Nat.shiftLeft_eq]
  ring

theorem pack_toNat {parts : Parts} (canonical : parts.Canonical) (sign : Sign) :
    (UnpackedFloat.pack Format.binary64 (.finite sign parts.mantissa parts.exponent canonical.positive)).toNat =
      sign.toBitVec.toNat * 2 ^ 63 + parts.toBits := by
  have most := canonical.most
  have least := canonical.least
  have fits := canonical.fits
  have normal := canonical.normal
  have unfolded : UnpackedFloat.pack Format.binary64 (.finite sign parts.mantissa parts.exponent canonical.positive) =
      if 2 ^ 11 ≤ (parts.exponent + 1023 + 52).toNat + 1 then packedInfinity Format.binary64 sign
      else if parts.mantissa.log2 + 1 = 53 then
        packComponents Format.binary64 sign (BitVec.ofNat 11 (parts.exponent + 1023 + 52).toNat)
          (BitVec.ofNat 52 parts.mantissa)
      else packComponents Format.binary64 sign 0#11 (BitVec.ofNat 52 parts.mantissa) := rfl
  rw [unfolded, if_neg (by omega)]
  split
  next full =>
    have bits : 2 ^ 52 ≤ parts.mantissa := (Nat.le_log2 canonical.positive.ne').mp (by omega)
    rw [packComponents_toNat, BitVec.toNat_ofNat, BitVec.toNat_ofNat, Parts.toBits]
    omega
  next short =>
    have most_bits : parts.mantissa.log2 < 53 := (Nat.log2_lt canonical.positive.ne').mpr fits
    have bits : parts.mantissa < 2 ^ 52 := (Nat.log2_lt canonical.positive.ne').mp (by omega)
    rw [packComponents_toNat, BitVec.toNat_ofNat, BitVec.toNat_ofNat, Parts.toBits]
    omega

theorem unpackSign_toNat (bits : BitVec Format.binary64.numBits) :
    (unpackSign bits).toNat = bits.toNat / 2 ^ 63 % 2 := by
  rw [← Nat.shiftRight_eq_div_pow]
  rfl

theorem ofBitVec_unpackSign (x : Float) :
    Sign.ofBitVec (@unpackSign Format.binary64 x.toBits.toBitVec) = signOf (isNegative x) := by
  have bits := unpackSign_toNat x.toBits.toBitVec
  have same : x.toBits.toBitVec.toNat = x.toBits.toNat := rfl
  have most : x.toBits.toNat < 2 ^ 64 := x.toBits.toBitVec.isLt
  rw [same] at bits
  unfold Sign.ofBitVec
  by_cases negative : 2 ^ 63 ≤ x.toBits.toNat
  · have one : @unpackSign Format.binary64 x.toBits.toBitVec ≠ 0#1 := by
      intro zero
      rw [zero] at bits
      simp at bits
      omega
    have signed : isNegative x = true := decide_eq_true negative
    rw [if_neg one, signed]
    rfl
  · have zero : @unpackSign Format.binary64 x.toBits.toBitVec = 0#1 := by
      apply BitVec.eq_of_toNat_eq
      rw [bits]
      simp
      omega
    have unsigned : isNegative x = false := decide_eq_false negative
    rw [if_pos zero, unsigned]
    rfl

theorem finite_congr {sign other : Sign} {mantissa exponent} {parts : Parts} (positive : 0 < mantissa)
    (some_bit : 0 < parts.mantissa) (same : sign = other) (digits : mantissa = parts.mantissa)
    (scale : exponent = parts.exponent) :
    UnpackedFloat.finite sign mantissa exponent positive = .finite other parts.mantissa parts.exponent some_bit := by
  subst same digits scale
  rfl

theorem unpack_of_bounded {x : Float} (bounded : magnitude x < 2047 * 2 ^ 52) (some_bit : magnitude x ≠ 0) :
    UnpackedFloat.unpack Format.binary64 x.toBits.toBitVec =
      .finite (signOf (isNegative x)) (Parts.ofFloat x).mantissa (Parts.ofFloat x).exponent
        (Parts.canonical_of_bounded bounded some_bit).positive := by
  have exponent := unpackExponent_toNat x.toBits.toBitVec
  have mantissa := unpackMantissa_toNat x.toBits.toBitVec
  have same : x.toBits.toBitVec.toNat = x.toBits.toNat := rfl
  have field : x.toBits.toNat / 2 ^ 52 % 2 ^ 11 = magnitude x / 2 ^ 52 := by
    unfold magnitude
    omega
  have fraction : x.toBits.toNat % 2 ^ 52 = magnitude x % 2 ^ 52 := by
    unfold magnitude
    omega
  rw [same, field] at exponent
  rw [same, fraction] at mantissa
  have two : Nat.pow 2 52 = 2 ^ 52 := rfl
  have finite : @unpackExponent Format.binary64 x.toBits.toBitVec ≠ -1#_ := by
    intro top
    have ones : (-1#_ : BitVec Format.binary64.exponentBits).toNat = 2047 := rfl
    rw [top, ones] at exponent
    omega
  have sign := ofBitVec_unpackSign x
  by_cases none : @unpackExponent Format.binary64 x.toBits.toBitVec = 0#_
  case pos =>
    have no_field : magnitude x / 2 ^ 52 = 0 := by
      rw [← exponent, none]
      rfl
    have parts : Parts.ofFloat x = ⟨magnitude x % 2 ^ 52, -1074⟩ := if_pos no_field
    have some_digit : @unpackMantissa Format.binary64 x.toBits.toBitVec ≠ 0#_ := by
      intro empty
      rw [empty] at mantissa
      have : magnitude x % 2 ^ 52 = 0 := mantissa.symm
      omega
    refine ((if_neg finite).trans ((if_pos none).trans (dif_neg some_digit))).trans (finite_congr _ _ sign ?_ ?_)
    · rw [mantissa, parts]
    · rw [exponent, parts, no_field]
      rfl
  case neg =>
    have some_field : magnitude x / 2 ^ 52 ≠ 0 := by
      intro no_field
      refine none (BitVec.eq_of_toNat_eq ?_)
      rw [exponent, no_field]
      rfl
    have parts : Parts.ofFloat x = ⟨2 ^ 52 + magnitude x % 2 ^ 52, (magnitude x / 2 ^ 52 : Nat) - 1075⟩ :=
      if_neg some_field
    refine ((if_neg finite).trans (if_neg none)).trans (finite_congr _ _ sign ?_ ?_)
    · rw [BitVec.toNat_append, ← Nat.shiftLeft_add_eq_or_of_lt (BitVec.isLt _), mantissa, parts]
      rfl
    · rw [exponent, parts]
      rfl

theorem eq_of_toBits {x y : Float} (same : x.toBits.toNat = y.toBits.toNat) : x = y := by
  obtain ⟨⟨left, _⟩⟩ := x
  obtain ⟨⟨right, _⟩⟩ := y
  obtain rfl : left = right := UInt64.toNat_inj.mp same
  rfl

theorem toBits_toNat (x : Float) :
    x.toBits.toNat = (signOf (isNegative x)).toBitVec.toNat * 2 ^ 63 + magnitude x := by
  have most : x.toBits.toNat < 2 ^ 64 := x.toBits.toBitVec.isLt
  unfold magnitude
  by_cases negative : 2 ^ 63 ≤ x.toBits.toNat
  · have signed : isNegative x = true := decide_eq_true negative
    have one : (signOf true).toBitVec.toNat = 1 := rfl
    rw [signed, one]
    omega
  · have unsigned : isNegative x = false := decide_eq_false negative
    have zero : (signOf false).toBitVec.toNat = 0 := rfl
    rw [unsigned, zero]
    omega

theorem toBits_pack {parts : Parts} (canonical : parts.Canonical) (sign : Sign) :
    (Float.ofModel (Float.Model.pack (.finite sign parts.mantissa parts.exponent canonical.positive))).toBits.toNat =
      sign.toBitVec.toNat * 2 ^ 63 + parts.toBits :=
  pack_toNat canonical sign

/-- A finite float is packed from its sign and its parts. -/
theorem ofModel_pack {x : Float} (bounded : magnitude x < 2047 * 2 ^ 52) (some_bit : magnitude x ≠ 0) :
    Float.ofModel (Float.Model.pack (.finite (signOf (isNegative x)) (Parts.ofFloat x).mantissa
      (Parts.ofFloat x).exponent (Parts.canonical_of_bounded bounded some_bit).positive)) = x := by
  apply eq_of_toBits
  rw [toBits_pack (Parts.canonical_of_bounded bounded some_bit), toBits_toNat x, Parts.ofFloat, Parts.toBits_ofBits]

/-- Packed parts are found again. -/
theorem unpack_pack {parts : Parts} (canonical : parts.Canonical) (negative : Bool) :
    (Float.Model.pack (.finite (signOf negative) parts.mantissa parts.exponent canonical.positive)).unpack =
      .finite (signOf negative) parts.mantissa parts.exponent canonical.positive := by
  obtain ⟨x, packed⟩ : ∃ x, x = Float.ofModel
    (Float.Model.pack (.finite (signOf negative) parts.mantissa parts.exponent canonical.positive)) := ⟨_, rfl⟩
  have bits := toBits_pack canonical (signOf negative)
  have bounded := Parts.toBits_lt canonical
  rw [← packed] at bits
  have known : magnitude x = parts.toBits := by
    unfold magnitude
    omega
  have sign : isNegative x = negative := by
    unfold isNegative
    cases negative with
    | true =>
      have one : (signOf true).toBitVec.toNat = 1 := rfl
      simp only [decide_eq_true_eq]
      omega
    | false =>
      have zero : (signOf false).toBitVec.toNat = 0 := rfl
      simp only [decide_eq_false_iff_not]
      omega
  have found : Parts.ofFloat x = parts := by
    rw [Parts.ofFloat, known, Parts.ofBits_toBits canonical]
  have unpacked := unpack_of_bounded (known ▸ bounded) (known ▸ (Parts.toBits_pos canonical).ne')
  have same : (Float.Model.pack (.finite (signOf negative) parts.mantissa parts.exponent canonical.positive)).unpack =
      UnpackedFloat.unpack Format.binary64 x.toBits.toBitVec := by
    rw [packed]
    rfl
  rw [same, unpacked, sign]
  exact finite_congr _ _ rfl (by rw [found]) (by rw [found])

end FormQuery.Binary
