import FormQuery.Proofs.ExactNumbers
import FormQuery.Proofs.SpelledNumber
import FormQuery.Sample.Cell
import Mathlib.Tactic.Ring

/-! Numbers in plain notation: which texts of a document count as a number, and as which one. The notation is told by
its parts, and its value by the places of its digits. A text counts when all of it is in plain notation; one line end
behind it goes unseen, where a cast would refuse the text. -/

namespace FormQuery

open Text Decimal

/-- A number in plain notation: perhaps a minus sign, then digits of ASCII, then perhaps a point and more digits. -/
structure Numeral where
  negative : Bool
  whole : List Char
  places : List Char
  some_whole : whole ≠ []
  ascii : ∀ c ∈ whole ++ places, Value.isAsciiDigit c = true

namespace Numeral

def magnitudeText (numeral : Numeral) : List Char :=
  numeral.whole ++ if numeral.places = [] then [] else '.' :: numeral.places

def text (numeral : Numeral) : List Char :=
  if numeral.negative then '-' :: numeral.magnitudeText else numeral.magnitudeText

/-- The value of digits of which the first one counts `10 ^ place`, and each other one a tenth of the one before. -/
def weigh : List Char → Int → ℚ
  | [], _ => 0
  | c :: rest, place => ((c.toNat - 48 : Nat) : ℚ) * 10 ^ place + weigh rest (place - 1)

/-- The digit before the point counts itself. -/
def value (numeral : Numeral) : ℚ :=
  (if numeral.negative then -1 else 1) * weigh (numeral.whole ++ numeral.places) (numeral.whole.length - 1)

def coefficient (numeral : Numeral) : Nat := digitsValue ((numeral.whole ++ numeral.places).map digit)

/-- The number with as many decimal places as were written. -/
def decimal (numeral : Numeral) : Decimal :=
  .finite numeral.negative numeral.coefficient (-(numeral.places.length : Int))

/-- The powers of ten of the first and the last digit are such as a decimal may have; those of zero do not matter. -/
def IsReadable (numeral : Numeral) : Prop :=
  numeral.coefficient = 0 ∨
    (-(numeral.places.length : Int) + ((digitsOf numeral.coefficient).length - 1 : Nat) ≤ largestExponent ∧
      smallestExponent ≤ -(numeral.places.length : Int))

end Numeral

/-- The rational that a decimal stands for. -/
def Decimal.rational? : Decimal → Option ℚ
  | .finite negative coefficient exponent => some (scaled (signed negative coefficient) exponent)
  | _ => none

theorem Decimal.scaled_signed (negative : Bool) (coefficient : Nat) (exponent : Int) :
    scaled (signed negative coefficient) exponent =
      (if negative then -1 else 1) * scaled coefficient exponent := by
  cases negative <;> simp [signed, scaled]

theorem Value.code_of_isAsciiDigit {c : Char} (ascii : isAsciiDigit c = true) : 48 ≤ c.toNat ∧ c.toNat ≤ 57 := by
  simpa [isAsciiDigit, Char.le_def, UInt32.le_iff_toNat_le] using ascii

theorem Text.digitValue?_ascii {c : Char} (ascii : Value.isAsciiDigit c = true) :
    digitValue? c = some (c.toNat - 48) := by
  have code := Value.code_of_isAsciiDigit ascii
  have first : digitZeros.find? (fun first => first ≤ c.toNat && c.toNat ≤ first + 9) = some 48 := by
    simp [digitZeros, code]
  simp [digitValue?, first]

namespace Numeral

theorem digit_of_ascii {c : Char} (ascii : Value.isAsciiDigit c = true) : digit c = c.toNat - 48 := by
  simp [digit, digitValue?_ascii ascii]

theorem foldl_digits {digits : List Char} (ascii : ∀ c ∈ digits, Value.isAsciiDigit c = true) (start : Nat)
    (place : Int) :
    (((digits.map digit).foldl (fun value digit => 10 * value + digit) start : Nat) : ℚ) *
        10 ^ (place + 1 - digits.length) =
      start * 10 ^ (place + 1) + weigh digits place := by
  induction digits generalizing start place with
  | nil => simp [weigh]
  | cons c digits step =>
    obtain ⟨first, others⟩ := List.forall_mem_cons.mp ascii
    have shorter : place + 1 - ((c :: digits).length : Int) = place - 1 + 1 - digits.length := by
      rw [List.length_cons]
      omega
    have ten : (10 : ℚ) ^ (place + 1) = 10 ^ place * 10 := zpow_add_one₀ (by norm_num) place
    rw [List.map_cons, List.foldl_cons, shorter, step others, digit_of_ascii first, weigh, ten]
    push_cast
    rw [Int.sub_add_cancel]
    ring

theorem digitsValue_scaled {digits : List Char} (ascii : ∀ c ∈ digits, Value.isAsciiDigit c = true) (place : Int) :
    (digitsValue (digits.map digit) : ℚ) * 10 ^ (place + 1 - digits.length) = weigh digits place := by
  simpa [digitsValue] using foldl_digits ascii 0 place

theorem scaled_coefficient (numeral : Numeral) : scaled numeral.coefficient (-(numeral.places.length : Int)) =
    weigh (numeral.whole ++ numeral.places) (numeral.whole.length - 1) := by
  have places : (numeral.whole.length : Int) - 1 + 1 - (numeral.whole ++ numeral.places).length =
      -numeral.places.length := by
    rw [List.length_append]
    omega
  rw [← digitsValue_scaled numeral.ascii, places]
  rfl

theorem rational?_decimal (numeral : Numeral) : numeral.decimal.rational? = some numeral.value := by
  rw [decimal, rational?, value, ← scaled_coefficient, scaled_signed]

/-- The powers of ten are counted by the digits, so few digits are readable. -/
theorem isReadable_of_short {numeral : Numeral} (short : numeral.text.length ≤ readableDigits) :
    numeral.IsReadable := by
  have parts : numeral.whole.length + numeral.places.length ≤ numeral.magnitudeText.length := by
    by_cases none : numeral.places = [] <;> simp [magnitudeText, none]
  have signed : numeral.magnitudeText.length ≤ numeral.text.length := by
    unfold text
    split <;> simp
  have few := digitsOf_digitsValue (List.append_ne_nil_of_left_ne_nil numeral.some_whole numeral.places)
  rw [List.length_append] at few
  right
  unfold readableDigits at short
  unfold largestExponent smallestExponent coefficient
  omega

theorem isDigit_of_mem {numeral : Numeral} {c : Char} (member : c ∈ numeral.whole ++ numeral.places) :
    isDigit c = true := by
  simp [isDigit, digitValue?_ascii (numeral.ascii c member)]

theorem isDigits_whole (numeral : Numeral) : IsDigits numeral.whole :=
  ⟨numeral.some_whole, fun _ member => isDigit_of_mem (List.mem_append_left _ member)⟩

theorem isDigit_places (numeral : Numeral) : ∀ c ∈ numeral.places, isDigit c = true :=
  fun _ member => isDigit_of_mem (List.mem_append_right _ member)

theorem spells_magnitude (numeral : Numeral) : SpellsNumber numeral.magnitudeText := by
  unfold magnitudeText
  split
  next => simpa using SpellsNumber.whole numeral.isDigits_whole
  next some_place => exact .fraction numeral.isDigits_whole ⟨some_place, numeral.isDigit_places⟩

theorem mem_text {numeral : Numeral} {c : Char} (member : c ∈ numeral.text) :
    c = '-' ∨ c ∈ numeral.magnitudeText := by
  unfold text at member
  split at member
  · simpa using member
  · exact .inr member

theorem isBlank_of_mem_text (numeral : Numeral) {c : Char} (member : c ∈ numeral.text) : isBlank c = false := by
  obtain rfl | inside := mem_text member
  · decide
  · exact numeral.spells_magnitude.isBlank_of_mem inside

theorem ne_underscore_of_mem_text {numeral : Numeral} {c : Char} (member : c ∈ numeral.text) : c ≠ '_' := by
  obtain rfl | inside := mem_text member
  · decide
  · exact numeral.spells_magnitude.ne_of_mem inside (by decide)

theorem leadingSign_text (numeral : Numeral) :
    leadingSign numeral.text = (numeral.negative, numeral.magnitudeText) := by
  cases sign : numeral.negative with
  | true => simp [text, sign, leadingSign]
  | false =>
    obtain ⟨c, rest, shape, _⟩ := numeral.spells_magnitude.head_isDigit
    have minus : c ≠ '-' := numeral.spells_magnitude.ne_of_mem (by simp [shape]) (by decide)
    have plus : c ≠ '+' := numeral.spells_magnitude.ne_of_mem (by simp [shape]) (by decide)
    simp [text, sign, shape, leadingSign, minus, plus]

theorem finite?_digits {numeral : Numeral} {number : Decimal} :
    finite? numeral.negative (numeral.whole.map digit) (numeral.places.map digit) [] = some number ↔
      numeral.IsReadable ∧ number = numeral.decimal := by
  have some_digit : ((numeral.whole.map digit).isEmpty && (numeral.places.map digit).isEmpty) = false := by
    simp [numeral.some_whole]
  have same : digitsValue (numeral.whole.map digit ++ numeral.places.map digit) = numeral.coefficient := by
    rw [← List.map_append]
    rfl
  simp only [finite?, bind, Option.bind, exponent?, some_digit, same, List.length_map, Int.zero_sub, Bool.false_eq_true,
    if_false]
  split
  next beyond =>
    simp only [ne_eq, Bool.and_eq_true, Bool.or_eq_true, decide_eq_true_eq, gt_iff_lt] at beyond
    have unreadable : ¬ numeral.IsReadable := by
      unfold IsReadable
      omega
    simp [unreadable]
  next within =>
    simp only [ne_eq, Bool.and_eq_true, Bool.or_eq_true, decide_eq_true_eq, gt_iff_lt] at within
    have readable : numeral.IsReadable := by
      unfold IsReadable
      omega
    simp [readable, decimal, eq_comm]

end Numeral

def Numeral.IsShownBy (numeral : Numeral) (text : List Char) : Prop :=
  text = numeral.text ∨ text = numeral.text ++ ['\n']

theorem Text.trim_lineEnd {text : List Char} (some_character : text ≠ []) (solid : ∀ c ∈ text, isBlank c = false) :
    trim (text ++ ['\n']) = text := by
  have first : trimStart (text ++ ['\n']) = text ++ ['\n'] := by
    obtain ⟨c, rest, rfl⟩ := List.exists_cons_of_ne_nil some_character
    simp [trimStart, solid c (by simp)]
  have whole := trim_of_solid solid
  have started : trimStart text = text := by
    obtain ⟨c, rest, rfl⟩ := List.exists_cons_of_ne_nil some_character
    simp [trimStart, solid c (by simp)]
  have blank : isBlank '\n' = true := by decide
  rw [trim, first, trimEnd, List.reverse_append, List.reverse_singleton, List.singleton_append,
    List.dropWhile_cons_of_pos blank]
  rwa [trim, started] at whole

namespace Numeral

theorem text_ne_nil (numeral : Numeral) : numeral.text ≠ [] := by
  have inside := numeral.spells_magnitude.ne_nil
  unfold text
  split
  · simp
  · exact inside

theorem ofText?_of_shown {numeral : Numeral} {text : String} (shown : numeral.IsShownBy text.toList)
    {number : Decimal} : ofText? text = some number ↔ numeral.IsReadable ∧ number = numeral.decimal := by
  have solid : ∀ c ∈ numeral.text, isBlank c = false := fun _ => numeral.isBlank_of_mem_text
  have trimmed : trim text.toList = numeral.text := by
    obtain same | same := shown
    · rw [same, trim_of_solid solid]
    · rw [same, trim_lineEnd numeral.text_ne_nil solid]
  have joined : numeral.text.filter (· ≠ '_') = numeral.text := by
    have each (c : Char) (member : c ∈ numeral.text) : c ≠ '_' := ne_underscore_of_mem_text member
    simpa using each
  rw [ofText?, trimmed, joined, leadingSign_text]
  have read := unsigned?_parts numeral.isDigits_whole numeral.isDigit_places numeral.negative
  exact (iff_of_eq (congrArg (· = some number) read)).trans finite?_digits

end Numeral

namespace Value

theorem span_digits {digits rest : List Char} (ascii : ∀ c ∈ digits, isAsciiDigit c = true)
    (stop : ∀ c ∈ rest.head?, isAsciiDigit c = false) :
    (digits ++ rest).takeWhile isAsciiDigit = digits ∧ (digits ++ rest).dropWhile isAsciiDigit = rest := by
  rw [List.takeWhile_append_of_pos ascii, List.dropWhile_append_of_pos ascii]
  cases rest with
  | nil => simp
  | cons c rest =>
    have first := stop c rfl
    simp [first]

theorem takeWhile_ascii (text : List Char) : ∀ c ∈ text.takeWhile isAsciiDigit, isAsciiDigit c = true := by
  intro c member
  exact List.all_eq_true.mp List.all_takeWhile c member

theorem atEnd_iff {rest : List Char} : showsNumber.atEnd rest = true ↔ rest = [] ∨ rest = ['\n'] := by
  simp [showsNumber.atEnd]

def showsMagnitude (unsigned : List Char) : Bool :=
  !(unsigned.takeWhile isAsciiDigit).isEmpty && match unsigned.dropWhile isAsciiDigit with
    | '.' :: fraction =>
      !(fraction.takeWhile isAsciiDigit).isEmpty && showsNumber.atEnd (fraction.dropWhile isAsciiDigit)
    | rest => showsNumber.atEnd rest

theorem exists_numeral {unsigned : List Char} (shows : showsMagnitude unsigned = true) (negative : Bool) :
    ∃ numeral : Numeral, numeral.negative = negative ∧
      (unsigned = numeral.magnitudeText ∨ unsigned = numeral.magnitudeText ++ ['\n']) := by
  have whole := List.takeWhile_append_dropWhile (p := isAsciiDigit) (l := unsigned)
  have ascii := takeWhile_ascii unsigned
  unfold showsMagnitude at shows
  generalize unsigned.takeWhile isAsciiDigit = digits at whole ascii shows
  generalize unsigned.dropWhile isAsciiDigit = rest at whole shows
  simp only [Bool.and_eq_true, Bool.not_eq_true', List.isEmpty_eq_false_iff] at shows
  obtain ⟨some_digit, shows⟩ := shows
  split at shows
  next fraction =>
    have behind := List.takeWhile_append_dropWhile (p := isAsciiDigit) (l := fraction)
    have more := takeWhile_ascii fraction
    generalize fraction.takeWhile isAsciiDigit = places at behind more shows
    generalize fraction.dropWhile isAsciiDigit = last at behind shows
    simp only [Bool.and_eq_true, Bool.not_eq_true', List.isEmpty_eq_false_iff, atEnd_iff] at shows
    obtain ⟨some_place, last⟩ := shows
    have both : ∀ c ∈ digits ++ places, isAsciiDigit c = true := List.forall_mem_append.mpr ⟨ascii, more⟩
    refine ⟨⟨negative, digits, places, some_digit, both⟩, rfl, ?_⟩
    rw [← whole, ← behind]
    simpa [Numeral.magnitudeText, some_place] using last
  next =>
    have both : ∀ c ∈ digits ++ [], isAsciiDigit c = true := by simpa using ascii
    refine ⟨⟨negative, digits, [], some_digit, both⟩, rfl, ?_⟩
    rw [← whole]
    simpa [Numeral.magnitudeText] using atEnd_iff.mp shows

theorem showsMagnitude_of_end (numeral : Numeral) {last : List Char} (ends : last = [] ∨ last = ['\n']) :
    showsMagnitude (numeral.magnitudeText ++ last) = true := by
  have whole : ∀ c ∈ numeral.whole, isAsciiDigit c = true := (List.forall_mem_append.mp numeral.ascii).1
  have places : ∀ c ∈ numeral.places, isAsciiDigit c = true := (List.forall_mem_append.mp numeral.ascii).2
  have apart : ∀ c ∈ last.head?, isAsciiDigit c = false := by
    obtain rfl | rfl := ends
    · simp
    · simp
      decide
  have ended : showsNumber.atEnd last = true := atEnd_iff.mpr ends
  unfold Numeral.magnitudeText
  by_cases none : numeral.places = []
  · obtain ⟨taken, left⟩ := span_digits whole apart
    simp only [none, if_true, List.append_nil, showsMagnitude, taken, left]
    obtain rfl | rfl := ends <;> simp [numeral.some_whole, ended]
  · have point : ∀ c ∈ ('.' :: numeral.places ++ last).head?, isAsciiDigit c = false := by simp; decide
    obtain ⟨taken, left⟩ := span_digits whole point
    obtain ⟨taken_places, left_places⟩ := span_digits places apart
    simp only [none, if_false, List.append_assoc, showsMagnitude, taken, left]
    simp [numeral.some_whole, none, taken_places, left_places, ended]

/-- The texts that show a number are the numerals, with perhaps a line end. -/
theorem showsNumber_iff {text : List Char} :
    showsNumber text = true ↔ ∃ numeral : Numeral, numeral.IsShownBy text := by
  constructor
  · intro shows
    by_cases minus : ∃ rest, text = '-' :: rest
    · obtain ⟨rest, rfl⟩ := minus
      obtain ⟨numeral, sign, shape⟩ := exists_numeral (show showsMagnitude rest = true from shows) true
      refine ⟨numeral, ?_⟩
      simpa [Numeral.IsShownBy, Numeral.text, sign] using shape
    · have unsigned : showsMagnitude text = true := by
        unfold showsNumber at shows
        split at shows
        next rest => exact absurd ⟨rest, rfl⟩ minus
        next => exact shows
      obtain ⟨numeral, sign, shape⟩ := exists_numeral unsigned false
      refine ⟨numeral, ?_⟩
      simpa [Numeral.IsShownBy, Numeral.text, sign] using shape
  · rintro ⟨numeral, shown⟩
    obtain ⟨last, ends, shape⟩ : ∃ last, (last = [] ∨ last = ['\n']) ∧ text = numeral.text ++ last := by
      obtain same | same := shown
      · exact ⟨[], .inl rfl, by simpa using same⟩
      · exact ⟨['\n'], .inr rfl, same⟩
    have magnitude := showsMagnitude_of_end numeral ends
    rw [shape]
    cases sign : numeral.negative with
    | true =>
      simp only [Numeral.text, sign, if_true, List.cons_append]
      exact magnitude
    | false =>
      obtain ⟨c, rest, first, _⟩ := numeral.spells_magnitude.head_isDigit
      have minus : c ≠ '-' := numeral.spells_magnitude.ne_of_mem (by simp [first]) (by decide)
      simp only [Numeral.text, sign, Bool.false_eq_true, if_false, first, List.cons_append] at magnitude ⊢
      unfold showsNumber
      split
      next same => exact absurd (List.cons.inj same).1 minus
      next => exact magnitude

theorem number?_text_eq_some {text : String} {number : Decimal} :
    (Value.text text).number? = some number ↔
      ∃ numeral : Numeral, numeral.IsShownBy text.toList ∧ numeral.IsReadable ∧ number = numeral.decimal := by
  have same : (Value.text text).number? = if showsNumber text.toList then ofText? text else none := rfl
  rw [same]
  constructor
  · intro counted
    split at counted
    next shows =>
      obtain ⟨numeral, shown⟩ := showsNumber_iff.mp shows
      exact ⟨numeral, shown, (Numeral.ofText?_of_shown shown).mp counted⟩
    next => cases counted
  · rintro ⟨numeral, shown, read⟩
    rw [if_pos (showsNumber_iff.mpr ⟨numeral, shown⟩)]
    exact (Numeral.ofText?_of_shown shown).mpr read

/-- Which texts of a document are numbers: those in plain notation, which one line end may follow; and the number is
exact, with the places that were written. Every such text counts unless its digits are too many for a decimal. -/
theorem number?_text (text : String) :
    (∀ number, (Value.text text).number? = some number ↔
      ∃ numeral : Numeral, numeral.IsShownBy text.toList ∧ numeral.IsReadable ∧ number = numeral.decimal ∧
        number.rational? = some numeral.value) ∧
    (text.length ≤ readableDigits →
      ((Value.text text).number? ≠ none ↔ ∃ numeral : Numeral, numeral.IsShownBy text.toList)) := by
  constructor
  · intro number
    rw [number?_text_eq_some]
    constructor
    · rintro ⟨numeral, shown, readable, rfl⟩
      exact ⟨numeral, shown, readable, rfl, numeral.rational?_decimal⟩
    · rintro ⟨numeral, shown, readable, same, _⟩
      exact ⟨numeral, shown, readable, same⟩
  · intro short
    rw [Option.ne_none_iff_exists']
    constructor
    · rintro ⟨number, counted⟩
      obtain ⟨numeral, shown, _⟩ := number?_text_eq_some.mp counted
      exact ⟨numeral, shown⟩
    · rintro ⟨numeral, shown⟩
      have shorter : numeral.text.length ≤ readableDigits := by
        have within : numeral.text.length ≤ text.toList.length := by
          obtain same | same := shown <;> simp [same]
        exact within.trans short
      exact ⟨numeral.decimal, number?_text_eq_some.mpr ⟨numeral, shown, numeral.isReadable_of_short shorter, rfl⟩⟩

theorem number?_text_places :
    (Value.text "-2.50").number? = some (.finite true 250 (-2)) ∧
      (∃ numeral : Numeral, numeral.IsShownBy "-2.50".toList ∧ numeral.IsReadable ∧
        .finite true 250 (-2) = numeral.decimal ∧
          Decimal.rational? (.finite true 250 (-2)) = some numeral.value) ∧
      ((Value.text "-2.50").number? ≠ none ↔ ∃ numeral : Numeral, numeral.IsShownBy "-2.50".toList) := by
  have counted : (Value.text "-2.50").number? = some (.finite true 250 (-2)) := by decide
  exact ⟨counted, ((number?_text "-2.50").1 _).mp counted, (number?_text "-2.50").2 (by decide)⟩

/-- A number with a line end behind it counts, but is no numeral. -/
theorem number?_of_lineEnd :
    (Value.text "30\n").number? = some (.ofInt 30) ∧ ¬ ∃ numeral : Numeral, "30\n".toList = numeral.text := by
  constructor
  · decide
  · rintro ⟨numeral, same⟩
    have solid : isBlank '\n' = false := numeral.isBlank_of_mem_text (by simp [← same])
    exact absurd solid (by decide)

end Value

end FormQuery
