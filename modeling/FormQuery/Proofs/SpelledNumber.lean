import FormQuery.Number.Decimal
import FormQuery.Proofs.TokenShape
import Mathlib.Algebra.Group.Nat.Defs

/-! The numbers that can be typed. What spells a number is read as a finite one, and it is read at all unless it has
more digits than the power of ten of a number can count. -/

namespace FormQuery

open Text

namespace SpellsNumber

variable {text : List Char} (spelled : SpellsNumber text)

include spelled

theorem ne_nil : text ≠ [] := by
  cases spelled with
  | whole shown => exact shown.1
  | fraction => simp

theorem digit_or_point {c : Char} (member : c ∈ text) : isDigit c = true ∨ c = '.' := by
  cases spelled with
  | whole shown => exact Or.inl (shown.2 c member)
  | fraction shown behind =>
    rcases List.mem_append.mp member with member | member
    · exact Or.inl (shown.2 c member)
    · rcases List.mem_cons.mp member with point | member
      · exact Or.inr point
      · exact Or.inl (behind.2 c member)

/-- No character of a number is another one that matters where numbers are read. -/
theorem ne_of_mem {c other : Char} (member : c ∈ text)
    (code : other.toNat < 46 ∨ (57 < other.toNat ∧ other.toNat < 1632)) : c ≠ other := by
  rintro rfl
  rcases spelled.digit_or_point member with digit | rfl
  · have := code_of_isDigit digit
    omega
  · simp at code

theorem isBlank_of_mem {c : Char} (member : c ∈ text) : isBlank c = false := by
  rcases spelled.digit_or_point member with digit | rfl
  · exact isBlank_of_isDigit digit
  · decide

theorem head_isDigit : ∃ c rest, text = c :: rest ∧ isDigit c = true := by
  have first {digits : List Char} (shown : IsDigits digits) (behind : List Char) :
      ∃ c rest, digits ++ behind = c :: rest ∧ isDigit c = true := by
    cases digits with
    | nil => exact absurd rfl shown.1
    | cons c rest => exact ⟨c, rest ++ behind, rfl, shown.2 c (by simp)⟩
  cases spelled with
  | whole shown => simpa using first shown []
  | fraction shown behind => exact first shown _

theorem parts :
    ∃ whole places : List Char, IsDigits whole ∧ (∀ c ∈ places, isDigit c = true) ∧
      text = whole ++ if places = [] then [] else '.' :: places := by
  cases spelled with
  | whole shown => exact ⟨text, [], shown, by simp, by simp⟩
  | @fraction digits places shown behind => exact ⟨digits, places, shown, behind.2, by simp [behind.1]⟩

end SpellsNumber

theorem Text.trim_of_solid {text : List Char} (solid : ∀ c ∈ text, isBlank c = false) : trim text = text := by
  have kept {text : List Char} (solid : ∀ c ∈ text, isBlank c = false) : text.dropWhile isBlank = text := by
    cases text with
    | nil => rfl
    | cons c rest => simp [solid c (by simp)]
  rw [trim, trimStart, kept solid, trimEnd, kept (by simpa using solid), List.reverse_reverse]

namespace Decimal

/-- A number of so many digits is always read: the power of ten of its first digit can be told. -/
def readableDigits : Nat := 10 ^ 18

def digit (c : Char) : Nat := (digitValue? c).getD 0

theorem digit_lt (c : Char) : digit c < 10 := by
  unfold digit
  cases found : digitValue? c with
  | none => simp
  | some value => exact digitValue?_lt found

theorem leadingDigits_append {digits : List Char} (shown : ∀ c ∈ digits, isDigit c = true) (rest : List Char)
    (stop : ∀ c ∈ rest.head?, isDigit c = false) : leadingDigits (digits ++ rest) = (digits.map digit, rest) := by
  induction digits with
  | nil =>
    cases rest with
    | nil => rfl
    | cons c rest =>
      have none : digitValue? c = none := by simpa [isDigit] using stop c rfl
      simp [leadingDigits, none]
  | cons c digits ih =>
    obtain ⟨first, others⟩ := List.forall_mem_cons.mp shown
    obtain ⟨value, found⟩ := Option.isSome_iff_exists.mp first
    simp [leadingDigits, found, digit, ih others]

private theorem toLower_of_isDigit {c : Char} (digit : isDigit c = true) : c.toLower = c := by
  have code := code_of_isDigit digit
  have low : ¬(c.val ≥ 'A'.val ∧ c.val ≤ 'Z'.val) := by
    rintro ⟨above, below⟩
    simp only [ge_iff_le, UInt32.le_iff_toNat_le] at above below
    have above : 65 ≤ c.toNat := above
    have below : c.toNat ≤ 90 := below
    omega
  unfold Char.toLower
  exact dif_neg low

/-- What starts with a digit is no infinity and no missing number. -/
theorem unsigned?_of_digit {c : Char} (shown : isDigit c = true) (negative : Bool) (rest : List Char) :
    unsigned? negative (c :: rest) =
      match (leadingDigits (c :: rest)).2 with
      | '.' :: places =>
        finite? negative (leadingDigits (c :: rest)).1 (leadingDigits places).1 (leadingDigits places).2
      | behind => finite? negative (leadingDigits (c :: rest)).1 [] behind := by
  have lower := toLower_of_isDigit shown
  have apart (letter : Char) (other : isDigit letter = false) : c ≠ letter := by
    rintro rfl
    simp [other] at shown
  have i := apart 'i' (by decide)
  have n := apart 'n' (by decide)
  have s := apart 's' (by decide)
  simp only [unsigned?, List.map_cons, lower]
  refine (if_neg ?_).trans ((if_neg ?_).trans (if_neg ?_))
  · simp [i]
  · simp [Ne.symm n]
  · simp [Ne.symm s]

theorem isFinite_of_finite? {negative : Bool} {whole fraction : List Nat} {tail : List Char} {number : Decimal}
    (read : finite? negative whole fraction tail = some number) : number.isFinite = true := by
  simp only [finite?, bind, Option.bind] at read
  split at read
  · cases read
  · split at read
    · cases read
    · simp only at read
      split at read
      · cases read
      · cases read
        rfl

private theorem digitsValue_lt (digits : List Char) : digitsValue (digits.map digit) < 10 ^ digits.length := by
  have from_ (digits : List Char) (start : Nat) :
      (digits.map digit).foldl (fun value digit => 10 * value + digit) start < (start + 1) * 10 ^ digits.length := by
    induction digits generalizing start with
    | nil => simp
    | cons c digits ih =>
      have small := digit_lt c
      calc (digits.map digit).foldl (fun value digit => 10 * value + digit) (10 * start + digit c)
          < (10 * start + digit c + 1) * 10 ^ digits.length := ih _
        _ ≤ ((start + 1) * 10) * 10 ^ digits.length := Nat.mul_le_mul_right _ (by omega)
        _ = (start + 1) * 10 ^ (c :: digits).length := by
          rw [List.length_cons, Nat.pow_succ, Nat.mul_assoc, Nat.mul_comm 10]
  simpa [digitsValue] using from_ digits 0

theorem digitsOf_digitsValue {digits : List Char} (some_digit : digits ≠ []) :
    (digitsOf (digitsValue (digits.map digit))).length ≤ digits.length :=
  (Nat.length_toDigits_le_iff (by omega) (List.length_pos_iff.mpr some_digit)).mpr (digitsValue_lt digits)

/-- The power of ten is counted by the digits, so few digits are always read. -/
theorem finite?_succeeds {whole fraction : List Char} (some_digit : whole ≠ [])
    (short : whole.length + fraction.length ≤ readableDigits) :
    ∃ number, finite? false (whole.map digit) (fraction.map digit) [] = some number := by
  have few := digitsOf_digitsValue (List.append_ne_nil_of_left_ne_nil some_digit fraction)
  rw [List.map_append, List.length_append] at few
  simp only [finite?, bind, Option.bind, exponent?]
  rw [if_neg (by simp [some_digit]), if_neg]
  · exact ⟨_, rfl⟩
  · simp only [largestExponent, smallestExponent, List.length_map, Bool.and_eq_true, Bool.or_eq_true, decide_eq_true_eq,
      not_and, not_or]
    intro _
    unfold readableDigits at short
    omega

/-- Digits, perhaps with a point and more digits behind them, are read as they stand. -/
theorem unsigned?_parts {whole places : List Char} (shown : IsDigits whole) (behind : ∀ c ∈ places, isDigit c = true)
    (negative : Bool) :
    unsigned? negative (whole ++ if places = [] then [] else '.' :: places) =
      finite? negative (whole.map digit) (places.map digit) [] := by
  obtain ⟨c, rest, shape⟩ := List.exists_cons_of_ne_nil shown.1
  have first : isDigit c = true := shown.2 c (by simp [shape])
  have opened (tail : List Char) : whole ++ tail = c :: (rest ++ tail) := by simp [shape]
  rw [opened, unsigned?_of_digit first, ← opened]
  by_cases none : places = []
  · have read := leadingDigits_append shown.2 [] (by simp)
    rw [List.append_nil] at read
    simp [none, read]
  · have read := leadingDigits_append shown.2 ('.' :: places) (by simp; decide)
    have fraction := leadingDigits_append behind [] (by simp)
    rw [List.append_nil] at fraction
    simp [none, read, fraction]

theorem ofText?_spelled {raw : String} (spelled : SpellsNumber raw.toList) :
    ∃ whole fraction : List Char, whole ≠ [] ∧ whole.length + fraction.length ≤ raw.toList.length ∧
      ofText? raw = finite? false (whole.map digit) (fraction.map digit) [] := by
  obtain ⟨c, rest, shape, shown⟩ := spelled.head_isDigit
  have solid : trim raw.toList = raw.toList := trim_of_solid fun _ => spelled.isBlank_of_mem
  have joined : raw.toList.filter (· ≠ '_') = raw.toList := by
    have each (c : Char) (member : c ∈ raw.toList) : c ≠ '_' := spelled.ne_of_mem member (by decide)
    simpa using each
  have unsigned : leadingSign raw.toList = (false, raw.toList) := by
    have minus : c ≠ '-' := spelled.ne_of_mem (by simp [shape]) (by decide)
    have plus : c ≠ '+' := spelled.ne_of_mem (by simp [shape]) (by decide)
    rw [shape]
    simp [leadingSign, minus, plus]
  obtain ⟨whole, places, digits, behind, parts⟩ := spelled.parts
  refine ⟨whole, places, digits.1, ?_, ?_⟩
  · have long := congrArg List.length parts
    by_cases none : places = []
    · simp [none, long]
    · simp only [none, if_false, List.length_append, List.length_cons] at long
      omega
  · rw [ofText?, solid, joined, unsigned, parts]
    exact unsigned?_parts digits behind false

theorem isFinite_of_spelled {raw : String} (spelled : SpellsNumber raw.toList) {number : Decimal}
    (read : ofText? raw = some number) : number.isFinite = true := by
  obtain ⟨whole, fraction, _, _, same⟩ := ofText?_spelled spelled
  exact isFinite_of_finite? (same ▸ read)

theorem ofText?_succeeds {raw : String} (spelled : SpellsNumber raw.toList)
    (short : raw.toList.length ≤ readableDigits) : ∃ number, ofText? raw = some number := by
  obtain ⟨whole, fraction, some_digit, long, same⟩ := ofText?_spelled spelled
  rw [same]
  exact finite?_succeeds some_digit (Nat.le_trans long short)

end Decimal

end FormQuery
