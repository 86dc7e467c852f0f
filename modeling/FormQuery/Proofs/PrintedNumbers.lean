import FormQuery.Proofs.NumericText
import FormQuery.Proofs.ShortestDecimal

/-! The text of a float in plain notation. Where positional notation is used, the text is a numeral with the value of the
shortest decimal: the zeros that fill the places before and after the digits do not count. Elsewhere the text has a power
of ten, and no numeral does. -/

namespace FormQuery

open Text Decimal

namespace Numeral

theorem weigh_append (left right : List Char) (place : Int) :
    weigh (left ++ right) place = weigh left place + weigh right (place - left.length) := by
  induction left generalizing place with
  | nil => simp [weigh]
  | cons c left step =>
    have further : place - ((c :: left).length : Int) = place - 1 - left.length := by
      rw [List.length_cons]
      omega
    rw [List.cons_append, weigh, weigh, step, further, add_assoc]

theorem weigh_zeros (count : Nat) (place : Int) : weigh (List.replicate count '0') place = 0 := by
  induction count generalizing place with
  | zero => rfl
  | succ count step => simp [List.replicate_succ, weigh, step]

theorem weigh_append_zeros (digits : List Char) (count : Nat) (place : Int) :
    weigh (digits ++ List.replicate count '0') place = weigh digits place := by
  rw [weigh_append, weigh_zeros, add_zero]

theorem ascii_digitsOf (value : Nat) : ∀ c ∈ digitsOf value, Value.isAsciiDigit c = true := by
  intro c member
  have shown : c.isDigit = true := Nat.isDigit_of_mem_toDigits (by decide) (by decide) member
  simpa [Char.isDigit, Value.isAsciiDigit, Char.le_def] using shown

theorem digitsValue_digitsOf (value : Nat) : digitsValue ((digitsOf value).map digit) = value := by
  have codes : (digitsOf value).map digit = (digitsOf value).map fun c => c.toNat - '0'.toNat :=
    List.map_congr_left fun _ member => digit_of_ascii (ascii_digitsOf value _ member)
  rw [codes, digitsValue, List.foldl_map]
  exact Nat.ofDigitChars_toDigits (by decide) (by decide)

theorem weigh_digitsOf (value : Nat) (grid : Int) :
    weigh (digitsOf value) (grid + (digitsOf value).length - 1) = scaled value grid := by
  have last : grid + (digitsOf value).length - 1 + 1 - (digitsOf value).length = grid := by omega
  rw [← digitsValue_scaled (ascii_digitsOf value), digitsValue_digitsOf, last]
  rfl

theorem length_text (numeral : Numeral) : numeral.text.length ≤ numeral.whole.length + numeral.places.length + 2 := by
  have unsigned : numeral.magnitudeText.length ≤ numeral.whole.length + numeral.places.length + 1 := by
    by_cases none : numeral.places = [] <;> simp [magnitudeText, none]
    omega
  unfold text
  split
  · rw [List.length_cons]
    omega
  · omega

end Numeral

namespace Binary

/-- The digits without the zeros at their end, which the power of ten absorbs. -/
theorem significant_append_zeros (coefficient : Nat) :
    ∃ count, digitsOf coefficient = significant coefficient ++ List.replicate count '0' := by
  have zeros : ∀ c ∈ (digitsOf coefficient).reverse.takeWhile (· = '0'), c = '0' := by
    intro c member
    simpa using List.all_eq_true.mp List.all_takeWhile c member
  have filled := List.eq_replicate_of_mem zeros
  refine ⟨((digitsOf coefficient).reverse.takeWhile (· = '0')).length, ?_⟩
  rw [significant, ← List.reverse_replicate, ← filled, ← List.reverse_append, List.takeWhile_append_dropWhile,
    List.reverse_reverse]

theorem weigh_significant (coefficient : Nat) (grid : Int) :
    Numeral.weigh (significant coefficient) (grid + (digitsOf coefficient).length - 1) = scaled coefficient grid := by
  obtain ⟨count, split⟩ := significant_append_zeros coefficient
  rw [← Numeral.weigh_digitsOf, ← Numeral.weigh_append_zeros (significant coefficient) count, ← split]

theorem significant_ne_nil {coefficient : Nat} (positive : 0 < coefficient) : significant coefficient ≠ [] := by
  intro none
  have weight := weigh_significant coefficient 0
  rw [none] at weight
  exact (scaled_pos.mpr (Int.natCast_pos.mpr positive)).ne weight

theorem length_significant (coefficient : Nat) : (significant coefficient).length ≤ (digitsOf coefficient).length := by
  obtain ⟨count, split⟩ := significant_append_zeros coefficient
  rw [split, List.length_append]
  omega

theorem ascii_significant (coefficient : Nat) : ∀ c ∈ significant coefficient, Value.isAsciiDigit c = true := by
  obtain ⟨count, split⟩ := significant_append_zeros coefficient
  intro c member
  exact Numeral.ascii_digitsOf coefficient c (split ▸ List.mem_append_left _ member)

/-- The digits before the point, when `place` of them stand there. -/
def wholeDigits (digits : List Char) (place : Int) : List Char :=
  if place ≤ 0 then ['0']
  else if digits.length ≤ place then digits ++ List.replicate (place - digits.length).toNat '0'
  else digits.take place.toNat

def placeDigits (digits : List Char) (place : Int) : List Char :=
  if place ≤ 0 then List.replicate (-place).toNat '0' ++ digits
  else if digits.length ≤ place then ['0']
  else digits.drop place.toNat

section Digits

variable {digits : List Char} (some_digit : digits ≠ []) (ascii : ∀ c ∈ digits, Value.isAsciiDigit c = true)
  {place : Int}

include ascii in
/-- In positional notation there are digits on both sides of the point. -/
theorem digitsText_positional (low : -4 < place) (high : place ≤ 16) :
    digitsText digits place = wholeDigits digits place ++ '.' :: placeDigits digits place := by
  have unmarked : '.' ∉ digits := fun member => absurd (ascii '.' member) (by decide)
  have shown : digitsText digits place =
      if (placePoint digits place).contains '.' then placePoint digits place
      else placePoint digits place ++ ['.', '0'] := by
    simp [digitsText, low, high]
  rw [shown]
  unfold wholeDigits placeDigits
  by_cases before : place ≤ 0
  · simp [placePoint, before]
  · by_cases after : digits.length ≤ place
    · simp [placePoint, before, after, unmarked]
    · simp [placePoint, before, after]

include some_digit in
theorem wholeDigits_ne_nil : wholeDigits digits place ≠ [] := by
  unfold wholeDigits
  split
  · simp
  · split
    · simp [some_digit]
    · simp [some_digit]
      omega

include some_digit in
theorem placeDigits_ne_nil : placeDigits digits place ≠ [] := by
  unfold placeDigits
  split
  · simp [some_digit]
  · split
    · simp
    · simp
      omega

theorem ascii_zeros (count : Nat) : ∀ c ∈ List.replicate count '0', Value.isAsciiDigit c = true := by
  intro c member
  rw [List.eq_of_mem_replicate member]
  decide

include ascii in
theorem ascii_positional :
    ∀ c ∈ wholeDigits digits place ++ placeDigits digits place, Value.isAsciiDigit c = true := by
  have zero : ∀ c ∈ ['0'], Value.isAsciiDigit c = true := ascii_zeros 1
  unfold wholeDigits placeDigits
  split
  · exact List.forall_mem_append.mpr ⟨zero, List.forall_mem_append.mpr ⟨ascii_zeros _, ascii⟩⟩
  · split
    · exact List.forall_mem_append.mpr ⟨List.forall_mem_append.mpr ⟨ascii, ascii_zeros _⟩, zero⟩
    · rwa [List.take_append_drop]

/-- The zeros that are added count nothing, and the digits keep their places. -/
theorem weigh_positional :
    Numeral.weigh (wholeDigits digits place ++ placeDigits digits place) ((wholeDigits digits place).length - 1) =
      Numeral.weigh digits (place - 1) := by
  unfold wholeDigits placeDigits
  split
  next before =>
    have zeros : ['0'] ++ List.replicate (-place).toNat '0' = List.replicate ((-place).toNat + 1) '0' :=
      List.replicate_succ.symm
    have first : ((['0'].length : Nat) : Int) - 1 - (List.replicate ((-place).toNat + 1) '0').length = place - 1 := by
      rw [List.length_singleton, List.length_replicate]
      omega
    rw [← List.append_assoc, zeros, Numeral.weigh_append, Numeral.weigh_zeros, zero_add, first]
  next before =>
    split
    next after =>
      have length : ((digits ++ List.replicate (place - digits.length).toNat '0').length : Int) = place := by
        rw [List.length_append, List.length_replicate]
        omega
      rw [length]
      exact (Numeral.weigh_append_zeros _ 1 _).trans (Numeral.weigh_append_zeros _ _ _)
    next after =>
      have length : ((digits.take place.toNat).length : Int) = place := by
        rw [List.length_take]
        omega
      rw [List.take_append_drop, length]

end Digits

theorem length_positional (digits : List Char) {place : Int} (low : -4 < place) (high : place ≤ 16) :
    (wholeDigits digits place).length + (placeDigits digits place).length ≤ digits.length + 17 := by
  unfold wholeDigits placeDigits
  split
  · simp
    omega
  · split <;> simp <;> omega

/-- The notation with a power of ten has a letter. -/
theorem mem_digitsText {place : Int} (outside : ¬(-4 < place ∧ place ≤ 16)) (digits : List Char) :
    'e' ∈ digitsText digits place := by
  have unplaced : (-4 < place && place ≤ 16) = false := by simpa using outside
  simp [digitsText, unplaced]

theorem toText_of_isFinite {x : Float} (finite : x.isFinite = true) :
    (toText x).toList = if isNegative x then '-' :: magnitudeText (magnitude x) else magnitudeText (magnitude x) := by
  have field : magnitude x / 2 ^ 52 ≠ 2047 := by
    have := magnitude_lt_of_isFinite finite
    omega
  have shown : toText x = (if x.toBits.toNat < 2 ^ 63 then "" else "-") ++ String.ofList (magnitudeText (magnitude x)) :=
    if_neg field
  rw [shown]
  by_cases positive : x.toBits.toNat < 2 ^ 63
  · have unsigned : isNegative x = false := by simpa [isNegative] using positive
    rw [if_pos positive, unsigned]
    simp
  · have signed : isNegative x = true := by simpa [isNegative] using positive
    rw [if_neg positive, signed]
    simp

/-- The exact value of a finite float. -/
theorem rational?_toDecimal {x : Float} (finite : x.isFinite = true) :
    (toDecimal x).rational? = some ((if isNegative x then -1 else 1) * (Parts.ofFloat x).value) := by
  have field : magnitude x / 2 ^ 52 ≠ 2047 := by
    have := magnitude_lt_of_isFinite finite
    omega
  have shown : toDecimal x =
      if 0 ≤ (Parts.ofFloat x).exponent then
        .finite (isNegative x) ((Parts.ofFloat x).mantissa * Nat.pow 2 (Parts.ofFloat x).exponent.toNat) 0
      else .finite (isNegative x) ((Parts.ofFloat x).mantissa * Nat.pow 5 (Parts.ofFloat x).exponent.natAbs)
        (Parts.ofFloat x).exponent := if_neg field
  rw [shown, Parts.value]
  generalize (Parts.ofFloat x).exponent = exponent
  split
  next whole =>
    obtain ⟨power, rfl⟩ := Int.eq_ofNat_of_zero_le whole
    rw [rational?, scaled_signed, scaled]
    simp
  next below =>
    obtain ⟨power, rfl⟩ : ∃ power : Nat, exponent = -power := ⟨exponent.natAbs, by omega⟩
    -- A power of one half is a power of five over a power of ten.
    have half : (5 : ℚ) ^ power * 10 ^ (-(power : Int)) = 2 ^ (-(power : Int)) := by
      rw [zpow_neg, zpow_neg, zpow_natCast, zpow_natCast, ← div_eq_mul_inv, ← div_pow, ← inv_pow]
      norm_num
    rw [rational?, scaled_signed, scaled, Int.natAbs_neg, Int.natAbs_natCast, Nat.pow_eq, ← half]
    push_cast
    rw [mul_assoc]

/-- Zero, and the numbers that are written without a power of ten. -/
def IsPlain (x : Float) : Prop :=
  ∃ exact, (toDecimal x).rational? = some exact ∧
    (exact = 0 ∨ (10 ^ (-4 : Int) ≤ |exact| ∧ |exact| < 10 ^ (16 : Int)))

instance : DecidablePred IsPlain := fun x =>
  match shown : (toDecimal x).rational? with
  | some exact =>
    decidable_of_iff (exact = 0 ∨ (10 ^ (-4 : Int) ≤ |exact| ∧ |exact| < 10 ^ (16 : Int))) (by simp [IsPlain, shown])
  | none => .isFalse (by simp [IsPlain, shown])

theorem isPlain_iff {x : Float} (finite : x.isFinite = true) :
    IsPlain x ↔ magnitude x = 0 ∨
      (10 ^ (-4 : Int) ≤ (Parts.ofFloat x).value ∧ (Parts.ofFloat x).value < 10 ^ (16 : Int)) := by
  have size : |(if isNegative x then -1 else 1) * (Parts.ofFloat x).value| = (Parts.ofFloat x).value := by
    have least : 0 ≤ (Parts.ofFloat x).value := by unfold Parts.value; positivity
    rw [abs_mul, abs_of_nonneg least]
    split <;> simp
  have zero : magnitude x = 0 ↔ (Parts.ofFloat x).value = 0 := by
    constructor
    · intro no_bit
      rw [Parts.ofFloat, no_bit]
      norm_num [Parts.ofBits, Parts.value]
    · intro none
      by_contra some_bit
      exact (Parts.value_pos (Parts.canonical_ofFloat finite some_bit)).ne' none
  unfold IsPlain
  rw [rational?_toDecimal finite, zero]
  constructor
  · rintro ⟨exact, same, plain⟩
    rw [← Option.some.inj same, size, ← abs_eq_zero, size] at plain
    exact plain
  · intro plain
    refine ⟨_, rfl, ?_⟩
    rwa [size, ← abs_eq_zero, size]

/-- What the text of a float in plain notation is, as far as its numeral goes. -/
structure PrintedAs (x : Float) (numeral : Numeral) : Prop where
  sign : numeral.negative = isNegative x
  shown : (toText x).toList = numeral.text
  some_place : numeral.places ≠ []
  short : numeral.text.length ≤ readableDigits
  zero : magnitude x = 0 → numeral.coefficient = 0
  near : magnitude x ≠ 0 → (Parts.ofFloat x).Covers (scaled numeral.coefficient (-(numeral.places.length : Int)))

section Shortest

variable {x : Float} (some_bit : magnitude x ≠ 0) {coefficient : Nat} {grid : Int}
  (found : shortest (Parts.ofFloat x) = (coefficient, grid))

include some_bit found

theorem magnitudeText_of_shortest :
    magnitudeText (magnitude x) = digitsText (significant coefficient) (grid + (digitsOf coefficient).length) := by
  have shown : magnitudeText (magnitude x) =
      digitsText (significant (shortest (Parts.ofFloat x)).1)
        ((shortest (Parts.ofFloat x)).2 + (digitsOf (shortest (Parts.ofFloat x)).1).length) := if_neg some_bit
  rw [shown, found]

theorem printedAs_of_shortest (finite : x.isFinite = true)
    (low : -4 < grid + (digitsOf coefficient).length) (high : grid + (digitsOf coefficient).length ≤ 16) :
    ∃ numeral, PrintedAs x numeral := by
  have canonical := Parts.canonical_ofFloat finite some_bit
  have some_digit := significant_ne_nil (shortest_pos canonical found)
  have ascii := ascii_significant coefficient
  have places : placeDigits (significant coefficient) (grid + (digitsOf coefficient).length) ≠ [] :=
    placeDigits_ne_nil some_digit
  refine ⟨⟨isNegative x, _, _, wholeDigits_ne_nil some_digit, ascii_positional ascii⟩, rfl, ?_, places, ?_,
    fun none => absurd none some_bit, fun _ => ?_⟩
  · rw [toText_of_isFinite finite, magnitudeText_of_shortest some_bit found, digitsText_positional ascii low high]
    simp [Numeral.text, Numeral.magnitudeText, places]
  · have fits := length_positional (significant coefficient) low high
    have trimmed := length_significant coefficient
    have few := length_shortest canonical found
    refine (Numeral.length_text _).trans ?_
    unfold readableDigits
    simp only
    omega
  · rw [Numeral.scaled_coefficient]
    simp only
    rw [weigh_positional, weigh_significant]
    exact (shortest_spec canonical found).1

end Shortest

theorem exists_printedAs {x : Float} (finite : x.isFinite = true) (plain : IsPlain x) :
    ∃ numeral, PrintedAs x numeral := by
  by_cases none : magnitude x = 0
  case pos =>
    have ascii : ∀ c ∈ ['0'] ++ ['0'], Value.isAsciiDigit c = true := ascii_zeros 2
    have value : digitsValue ((['0'] ++ ['0']).map digit) = 0 := by decide
    refine ⟨⟨isNegative x, ['0'], ['0'], by simp, ascii⟩, rfl, ?_, by simp, ?_, fun _ => value,
      fun some_bit => absurd none some_bit⟩
    · rw [toText_of_isFinite finite, none]
      rfl
    · refine (Numeral.length_text _).trans ?_
      simp [readableDigits]
  case neg =>
    have sized := ((isPlain_iff finite).mp plain).resolve_left none
    obtain ⟨low, high⟩ := (place_iff (Parts.canonical_ofFloat finite none) (Prod.mk.eta).symm).mpr sized
    exact printedAs_of_shortest none (Prod.mk.eta).symm finite low high

theorem not_isShownBy {x : Float} (finite : x.isFinite = true) (marked : ¬IsPlain x) (numeral : Numeral) :
    ¬numeral.IsShownBy (toText x).toList := by
  intro shown
  obtain ⟨some_bit, outside⟩ := not_or.mp (marked ∘ (isPlain_iff finite).mpr)
  have found : shortest (Parts.ofFloat x) = (_, _) := (Prod.mk.eta).symm
  rw [← place_iff (Parts.canonical_ofFloat finite some_bit) found] at outside
  have letter : 'e' ∈ (toText x).toList := by
    have inside := mem_digitsText outside (significant (shortest (Parts.ofFloat x)).1)
    rw [← magnitudeText_of_shortest some_bit found] at inside
    rw [toText_of_isFinite finite]
    split <;> simp [inside]
  have inside : 'e' ∈ numeral.text := by
    obtain same | same := shown
    · rwa [← same]
    · simpa [same] using letter
  obtain minus | digits := Numeral.mem_text inside
  · exact absurd minus (by decide)
  · exact absurd rfl (numeral.spells_magnitude.ne_of_mem digits (by decide))

end Binary

end FormQuery
