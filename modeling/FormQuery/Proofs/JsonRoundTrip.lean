import FormQuery.Json.Printer
import FormQuery.Json.Reader
import FormQuery.Proofs.FieldNames
import FormQuery.Proofs.Runs

/-! JSON text of values. Every value of the kinds that JSON has is printed, and it is read as the same value unless it
holds a floating-point number, whatever characters its texts hold and however they are escaped. -/

namespace FormQuery

/-- A value that JSON has, at any depth. -/
inductive Value.IsJson : Value → Prop where
  | null : IsJson .null
  | bool (value : Bool) : IsJson (.bool value)
  | int (value : Int) : IsJson (.int value)
  | float (value : Float) : IsJson (.float value)
  | text (value : String) : IsJson (.text value)
  | list {items : List Value} (each : ∀ item ∈ items, IsJson item) : IsJson (.list items)
  | record {fields : List (String × Value)} (each : ∀ field ∈ fields, IsJson field.2) : IsJson (.record fields)

/-- A value that is built from null, truth values, integers, texts, lists and records. -/
inductive Value.IsSimple : Value → Prop where
  | null : IsSimple .null
  | bool (value : Bool) : IsSimple (.bool value)
  | int (value : Int) : IsSimple (.int value)
  | text (value : String) : IsSimple (.text value)
  | list {items : List Value} (each : ∀ item ∈ items, IsSimple item) : IsSimple (.list items)
  | record {fields : List (String × Value)} (each : ∀ field ∈ fields, IsSimple field.2) : IsSimple (.record fields)

/-- A simple value whose records, at any depth, have each name once. -/
inductive Value.IsExact : Value → Prop where
  | null : IsExact .null
  | bool (value : Bool) : IsExact (.bool value)
  | int (value : Int) : IsExact (.int value)
  | text (value : String) : IsExact (.text value)
  | list {items : List Value} (each : ∀ item ∈ items, IsExact item) : IsExact (.list items)
  | record {fields : List (String × Value)} (distinct : (fields.map Prod.fst).Nodup)
      (each : ∀ field ∈ fields, IsExact field.2) : IsExact (.record fields)

theorem Value.IsExact.isJson {value : Value} (kept : value.IsExact) : value.IsJson := by
  induction kept with
  | null => exact .null
  | bool value => exact .bool value
  | int value => exact .int value
  | text value => exact .text value
  | list each ih => exact .list ih
  | record distinct each ih => exact .record ih

theorem Json.print_succeeds {value : Value} (json : value.IsJson) (style : Style) :
    ∃ text, print style value = .ok text := by
  induction json with
  | null | int | float | text => exact ⟨_, rfl⟩
  | bool value => cases value <;> exact ⟨_, rfl⟩
  | @list items each ih =>
    have items : ∃ parts, printItems style items = .ok parts := by
      clear each
      induction items with
      | nil => exact ⟨[], rfl⟩
      | cons item rest known =>
        obtain ⟨first, found⟩ := ih item (by simp)
        obtain ⟨others, ran⟩ := known fun item member => ih item (by simp [member])
        exact ⟨first :: others, by rw [printItems, bind_ok found, bind_ok ran]; rfl⟩
    obtain ⟨parts, ran⟩ := items
    exact ⟨_, by rw [print, bind_ok ran]; rfl⟩
  | @record fields each ih =>
    have fields : ∃ parts, printFields style fields = .ok parts := by
      clear each
      induction fields with
      | nil => exact ⟨[], rfl⟩
      | cons field rest known =>
        obtain ⟨first, found⟩ := ih field (by simp)
        obtain ⟨others, ran⟩ := known fun field member => ih field (by simp [member])
        exact ⟨_ :: others, by rw [printFields, bind_ok found, bind_ok ran]; rfl⟩
    obtain ⟨parts, ran⟩ := fields
    exact ⟨_, by rw [print, bind_ok ran]; rfl⟩

namespace Json

theorem hexValue?_digitChar {digit : Nat} (small : digit < 16) : hexValue? (Nat.digitChar digit) = some digit := by
  have each : ∀ digit < 16, hexValue? (Nat.digitChar digit) = some digit := by decide
  exact each digit small

theorem escapedUnit?_hexDigits {unit : Nat} (small : unit < 0x10000) (next : Char) (rest : List Char) :
    escapedUnit? (Text.hexDigits 4 unit ++ next :: rest) = some (unit, next :: rest) := by
  have digits : Text.hexDigits 4 unit = [Nat.digitChar (unit / 16 / 16 / 16 % 16), Nat.digitChar (unit / 16 / 16 % 16),
      Nat.digitChar (unit / 16 % 16), Nat.digitChar (unit % 16)] := rfl
  have read (value : Nat) : hexValue? (Nat.digitChar (value % 16)) = some (value % 16) :=
    hexValue?_digitChar (Nat.mod_lt value (by omega))
  rw [digits]
  simp only [List.cons_append, List.nil_append, escapedUnit?, hexUnit?, List.foldl_cons, List.foldl_nil, read,
    Option.bind_eq_bind, Option.pure_def, Option.bind_some, Option.map_some, Option.some.injEq, Prod.mk.injEq, and_true]
  omega

theorem scalar_toNat (c : Char) : Text.scalar c.toNat = c := by
  have valid : c.toNat.isValidChar := c.valid
  rw [Text.scalar, if_pos valid, Char.ofNat_toNat]

theorem code_cases (c : Char) : c.toNat < 0xd800 ∨ 0xdfff < c.toNat ∧ c.toNat < 0x110000 := c.valid

open readString (extend)

variable {opening rest : List Char} {left : Nat}

theorem readString_unit {unit : Nat} (small : unit < 0x10000) (whole : Text.isHighHalf unit = false) (next : Char) :
    readString opening (left + 1) (unitEscape unit ++ next :: rest) =
      extend (Text.scalar unit) (readString opening left (next :: rest)) := by
  simp [readString, unitEscape, escapedUnit?_hexDigits small, whole, bind, Except.bind]

theorem lowHalf?_unit {low : Nat} (half : Text.isLowHalf low = true) (next : Char) :
    lowHalf? (unitEscape low ++ next :: rest) = .ok (some (low, next :: rest)) := by
  have small : low < 0x10000 := by
    simp only [Text.isLowHalf, Bool.and_eq_true, decide_eq_true_eq] at half
    omega
  have long : ¬ (Text.hexDigits 4 low ++ next :: rest).length < 5 := by
    rw [List.length_append, Text.length_hexDigits, List.length_cons]
    omega
  simp only [unitEscape, List.cons_append, lowHalf?, long, if_false, escapedUnit?_hexDigits small, half, if_true]

/-- A second half behind a first one is read with it. -/
theorem readString_pair {high low : Nat} (first : Text.isHighHalf high = true) (second : Text.isLowHalf low = true)
    (next : Char) : readString opening (left + 1) (unitEscape high ++ (unitEscape low ++ next :: rest)) =
      extend (Text.joinHalves high low) (readString opening left (next :: rest)) := by
  have small : high < 0x10000 := by
    simp only [Text.isHighHalf, Bool.and_eq_true, decide_eq_true_eq] at first
    omega
  have unit : escapedUnit? (Text.hexDigits 4 high ++ (unitEscape low ++ next :: rest)) =
      some (high, unitEscape low ++ next :: rest) := escapedUnit?_hexDigits small _ _
  have half : lowHalf? (unitEscape low ++ next :: rest) = .ok (some (low, next :: rest)) := lowHalf?_unit second next
  generalize unitEscape low ++ next :: rest = tail at unit half ⊢
  simp [readString, unitEscape, unit, half, first, bind, Except.bind]

theorem joinHalves_eq {code : Nat} (least : 0x10000 ≤ code) :
    Text.joinHalves (0xd800 + (code - 0x10000) / 0x400) (0xdc00 + (code - 0x10000) % 0x400) = Text.scalar code := by
  have same : 0x10000 + (0xd800 + (code - 0x10000) / 0x400 - 0xd800) * 0x400 +
      (0xdc00 + (code - 0x10000) % 0x400 - 0xdc00) = code := by omega
  rw [Text.joinHalves, same]

/-- The escape of a character by its code, whatever its code. -/
theorem readString_code (c next : Char) :
    readString opening (left + 1) (escapeCode c.toNat ++ next :: rest) =
      extend c (readString opening left (next :: rest)) := by
  unfold escapeCode
  split
  next small =>
    have whole : Text.isHighHalf c.toNat = false := by
      rw [← Bool.not_eq_true]
      intro half
      simp only [Text.isHighHalf, Bool.and_eq_true, decide_eq_true_eq] at half
      have := code_cases c
      omega
    rw [readString_unit small whole, scalar_toNat]
  next large =>
    have most := code_cases c
    have high : Text.isHighHalf (0xd800 + (c.toNat - 0x10000) / 0x400) = true := by
      simp only [Text.isHighHalf, Bool.and_eq_true, decide_eq_true_eq]
      omega
    have low : Text.isLowHalf (0xdc00 + (c.toNat - 0x10000) % 0x400) = true := by
      simp only [Text.isLowHalf, Bool.and_eq_true, decide_eq_true_eq]
      omega
    rw [List.append_assoc, readString_pair high low, joinHalves_eq (by omega), scalar_toNat]

theorem readString_letter {letter c : Char} (simple : simpleEscape? letter = some c) (other : letter ≠ 'u') :
    readString opening (left + 1) ('\\' :: letter :: rest) = extend c (readString opening left rest) := by
  simp [readString, simple, other]

/-- Whatever character was written, it is read. -/
theorem readString_char (asciiOnly : Bool) (c next : Char) :
    readString opening (left + 1) (charText asciiOnly c ++ next :: rest) =
      extend c (readString opening left (next :: rest)) := by
  unfold charText
  iterate 5
    split
    next same =>
      rw [same]
      exact readString_letter rfl (by decide)
  -- The form feed and the backspace are told by their codes.
  iterate 2
    split
    next code =>
      rw [← Char.ofNat_toNat c, code]
      exact readString_letter rfl (by decide)
  split
  next escaped => exact readString_code c next
  next quote backslash _ _ _ _ _ shown =>
    have control : ¬ c.toNat < 32 := by
      intro low
      simp [low] at shown
    simp [readString, quote, backslash, control]

theorem charText_ne_nil (asciiOnly : Bool) (c : Char) : charText asciiOnly c ≠ [] := by
  unfold charText escapeCode unitEscape
  repeat' split
  all_goals simp

theorem length_le_flatMap (asciiOnly : Bool) (text : List Char) :
    text.length ≤ (text.flatMap (charText asciiOnly)).length := by
  induction text with
  | nil => simp
  | cons c text ih =>
    have some_char := List.length_pos_iff.mpr (charText_ne_nil asciiOnly c)
    rw [List.flatMap_cons, List.length_append, List.length_cons]
    omega

theorem readString_text (asciiOnly : Bool) {text : List Char} (long : text.length < left) :
    readString opening left (text.flatMap (charText asciiOnly) ++ '"' :: rest) = .ok (text, rest) := by
  induction text generalizing left with
  | nil =>
    obtain ⟨less, rfl⟩ := Nat.exists_eq_add_of_lt long
    simp [readString]
  | cons c text ih =>
    obtain ⟨less, rfl⟩ : ∃ less, left = less + 1 := ⟨left - 1, by omega⟩
    rw [List.length_cons, Nat.add_lt_add_iff_right] at long
    have next : ∃ d more, text.flatMap (charText asciiOnly) ++ '"' :: rest = d :: more := by
      cases text.flatMap (charText asciiOnly) with
      | nil => exact ⟨_, _, rfl⟩
      | cons d more => exact ⟨_, _, rfl⟩
    obtain ⟨d, more, shape⟩ := next
    rw [List.flatMap_cons, List.append_assoc, shape, readString_char, ← shape, ih long]
    rfl

theorem readQuoted_stringText (asciiOnly : Bool) (text : String) (rest : List Char) :
    readQuoted (stringText asciiOnly text ++ rest) = .ok (text, rest) := by
  have long : text.toList.length < (stringText asciiOnly text ++ rest).length + 1 := by
    have := length_le_flatMap asciiOnly text.toList
    simp only [stringText, List.cons_append, List.length_cons, List.length_append]
    omega
  have behind : (stringText asciiOnly text ++ rest).drop 1 =
      text.toList.flatMap (charText asciiOnly) ++ '"' :: rest := by
    simp [stringText]
  rw [readQuoted, behind, readString_text asciiOnly long]
  simp [Except.map]

/-- Nothing that would go on with a number: the end, a comma or a closing bracket. -/
def Ends (rest : List Char) : Prop := ∀ c ∈ rest.head?, c = ',' ∨ c = ']' ∨ c = '\x7d'

theorem ends_nil : Ends [] := nofun

theorem ends_cons {c : Char} (closes : c = ',' ∨ c = ']' ∨ c = '\x7d') (rest : List Char) : Ends (c :: rest) := by
  intro d member
  obtain rfl : c = d := by simpa using member
  exact closes

theorem isDigit_of_mem {value : Nat} {c : Char} (member : c ∈ Decimal.digitsOf value) : isDigit c = true := by
  have digit : c.isDigit = true := Nat.isDigit_of_mem_toDigits (by omega) (by omega) member
  simpa [Char.isDigit, isDigit, Char.le_def] using digit

theorem ne_of_isDigit {c d : Char} (digit : isDigit c = true) (other : isDigit d = false) : c ≠ d := by
  intro same
  rw [same, other] at digit
  cases digit

theorem digitsNat_digitsOf (value : Nat) : digitsNat (Decimal.digitsOf value) = value :=
  Nat.ofDigitChars_toDigits (by omega) (by omega)

theorem head?_digits_append (value : Nat) (rest : List Char) :
    (Nat.toDigits 10 value ++ rest).head? = (Nat.toDigits 10 value).head? := by
  rw [List.head?_append, List.head?_eq_some_head Nat.toDigits_ne_nil, Option.some_or]

/-- Only zero starts with a zero. -/
theorem head_digitsOf {value : Nat} (positive : 0 < value) : (Decimal.digitsOf value).head? ≠ some '0' := by
  induction value using Nat.strongRecOn with
  | ind value ih =>
    rw [Decimal.digitsOf, Nat.toDigits_eq_if (by omega)]
    split
    next small =>
      have each : ∀ digit < 10, 0 < digit → [Nat.digitChar digit].head? ≠ some '0' := by decide
      exact each value small positive
    next large =>
      have shorter := ih (value / 10) (by omega) (by omega)
      rwa [head?_digits_append]

theorem takeWhile_digits {digits rest : List Char} (shown : ∀ c ∈ digits, isDigit c = true) (ends : Ends rest) :
    (digits ++ rest).takeWhile isDigit = digits ∧ (digits ++ rest).dropWhile isDigit = rest := by
  have stops : rest.takeWhile isDigit = [] ∧ rest.dropWhile isDigit = rest := by
    cases rest with
    | nil => exact ⟨rfl, rfl⟩
    | cons c more =>
      have other : isDigit c = false := by
        obtain rfl | rfl | rfl := ends c rfl <;> rfl
      simp [other]
  rw [List.takeWhile_append_of_pos shown, List.dropWhile_append_of_pos shown, stops.1, stops.2, List.append_nil]
  exact ⟨rfl, rfl⟩

theorem wholeDigits_digitsOf (value : Nat) {rest : List Char} (ends : Ends rest) :
    wholeDigits (Decimal.digitsOf value ++ rest) = (Decimal.digitsOf value, rest) := by
  obtain rfl | positive := Nat.eq_zero_or_pos value
  · rfl
  · unfold wholeDigits
    split
    next more shape =>
      have head := head_digitsOf positive
      rw [Decimal.digitsOf] at shape head
      rw [← head?_digits_append value rest, shape] at head
      exact absurd rfl head
    next =>
      obtain ⟨taken, left⟩ := takeWhile_digits (fun c => isDigit_of_mem) ends
      rw [taken, left]

theorem readNumber_digitsOf (negative : Bool) (value : Nat) {rest : List Char} (ends : Ends rest) :
    readNumber negative (Decimal.digitsOf value) rest = (.int (Decimal.signed negative value), rest) := by
  have unpointed : fraction rest = ([], rest) := by
    unfold fraction
    split
    next => exact absurd (ends '.' rfl) (by decide)
    next => rfl
  have unscaled : power? rest = none := by
    unfold power?
    split
    next => rfl
    next mark more =>
      have other : (mark = 'e' || mark = 'E') = false := by
        obtain rfl | rfl | rfl := ends mark rfl <;> rfl
      rw [other, if_neg Bool.false_ne_true]
  rw [readNumber, unpointed]
  simp only [unscaled, digitsNat_digitsOf]

theorem digitsOf_cons (value : Nat) : ∃ c more, Decimal.digitsOf value = c :: more ∧ isDigit c = true := by
  cases shape : Decimal.digitsOf value with
  | nil => exact absurd shape Nat.toDigits_ne_nil
  | cons c more => exact ⟨c, more, rfl, isDigit_of_mem (shape ▸ List.mem_cons_self)⟩

/-- An integer starts like no word, also behind its sign. -/
theorem readAtom_integerText (value : Int) {rest : List Char} (ends : Ends rest) :
    readAtom (integerText value ++ rest) = .ok (.int value, rest) := by
  obtain ⟨c, more, shape, digit⟩ := digitsOf_cons value.natAbs
  obtain ⟨n, t, f, missing, infinite, minus⟩ : c ≠ 'n' ∧ c ≠ 't' ∧ c ≠ 'f' ∧ c ≠ 'N' ∧ c ≠ 'I' ∧ c ≠ '-' := by
    refine ⟨?_, ?_, ?_, ?_, ?_, ?_⟩
    all_goals exact ne_of_isDigit digit rfl
  have whole := wholeDigits_digitsOf value.natAbs ends
  have number (negative : Bool) := readNumber_digitsOf negative value.natAbs ends
  rw [shape] at whole number
  rw [List.cons_append] at whole
  unfold integerText
  rw [shape]
  split
  next negative =>
    have signed : Decimal.signed true value.natAbs = value := by
      simp only [Decimal.signed, if_true]
      omega
    simp [readAtom, word?, infinite.symm, whole, number, signed]
  next natural =>
    have signed : Decimal.signed false value.natAbs = value := by
      simp only [Decimal.signed, Bool.false_eq_true, if_false]
      omega
    simp [readAtom, word?, n.symm, t.symm, f.symm, missing.symm, infinite.symm, minus, minus.symm, whole, number,
      signed]

theorem skipSpace_cons {c : Char} (visible : isSpace c = false) (rest : List Char) :
    skipSpace (c :: rest) = c :: rest := by
  rw [skipSpace, List.dropWhile_cons, visible, if_neg Bool.false_ne_true]

/-- What starts a JSON text: a visible character of ASCII that closes nothing. -/
def Starts (text : List Char) : Prop :=
  ∃ c more, text = c :: more ∧ isSpace c = false ∧ c ≠ ']' ∧ c ≠ '\x7d' ∧ c.toNat < 128

theorem Starts.append {text : List Char} (starts : Starts text) (rest : List Char) : Starts (text ++ rest) := by
  obtain ⟨c, more, shape, plain⟩ := starts
  exact ⟨c, more ++ rest, by rw [shape, List.cons_append], plain⟩

theorem Starts.skipSpace {text : List Char} (starts : Starts text) : skipSpace text = text := by
  obtain ⟨c, more, rfl, visible, _⟩ := starts
  exact skipSpace_cons visible more

theorem starts_digitsOf (value : Nat) : Starts (Decimal.digitsOf value) := by
  obtain ⟨c, more, shape, digit⟩ := digitsOf_cons value
  refine ⟨c, more, shape, ?_, ne_of_isDigit digit rfl, ne_of_isDigit digit rfl, ?_⟩
  · have blank : c ≠ ' ' ∧ c ≠ '\t' ∧ c ≠ '\n' ∧ c ≠ '\r' := by
      refine ⟨?_, ?_, ?_, ?_⟩
      all_goals exact ne_of_isDigit digit rfl
    simp [isSpace, blank]
  · simp only [isDigit, Bool.and_eq_true, decide_eq_true_eq] at digit
    have most : c.toNat ≤ '9'.toNat := digit.2
    exact Nat.lt_of_le_of_lt most (by decide)

theorem starts_print {style : Style} {value : Value} (kept : value.IsExact) {shown : List Char}
    (printed : print style value = .ok shown) : Starts shown := by
  cases kept with
  | null =>
    cases printed
    exact ⟨'n', _, rfl, by decide⟩
  | bool value =>
    cases value
    all_goals
      cases printed
      exact ⟨_, _, rfl, by decide⟩
  | int value =>
    cases printed
    unfold integerText
    split
    · exact ⟨'-', _, rfl, by decide⟩
    · exact starts_digitsOf _
  | text value =>
    cases printed
    exact ⟨'"', _, rfl, by decide⟩
  | list each =>
    obtain ⟨parts, _, printed⟩ := ok_of_bind printed
    cases printed
    exact ⟨'[', _, rfl, by decide⟩
  | record distinct each =>
    obtain ⟨parts, _, printed⟩ := ok_of_bind printed
    cases printed
    exact ⟨'\x7b', _, rfl, by decide⟩

/-- The value is read from its text, whatever follows it, with fuel for two steps for each character. -/
def ReadsBack (style : Style) (value : Value) : Prop :=
  ∀ shown, print style value = .ok shown → ∀ fuel, 2 * shown.length ≤ fuel → ∀ rest, Ends rest →
    readValue fuel (shown ++ rest) = .ok (value, rest)

theorem separated_cons (separator part : List Char) {parts : List (List Char)} (more : parts ≠ []) :
    separated separator (part :: parts) = part ++ separator ++ separated separator parts := by
  cases parts with
  | nil => exact absurd rfl more
  | cons => rfl

section
variable {left : Nat} {text rest more : List Char} {item : Value}

theorem readItems_last (first : readValue left text = .ok (item, ']' :: rest)) :
    readItems (left + 1) text = .ok ([item], rest) := by
  simp only [readItems, first, bind, Except.bind, skipSpace_cons (c := ']') rfl]
  rfl

theorem readItems_more (first : readValue left text = .ok (item, ',' :: ' ' :: more)) {items : List Value}
    (visible : skipSpace more = more) (others : readItems left more = .ok (items, rest)) :
    readItems (left + 1) text = .ok (item :: items, rest) := by
  have space : skipSpace (' ' :: more) = more := visible
  simp only [readItems, first, bind, Except.bind, skipSpace_cons (c := ',') rfl, space, others]
  rfl

end

variable {style : Style}

theorem ne_nil_of_printItems {item : Value} {items : List Value} {parts : List (List Char)}
    (printed : printItems style (item :: items) = .ok parts) : parts ≠ [] := by
  obtain ⟨_, _, printed⟩ := ok_of_bind printed
  obtain ⟨_, _, printed⟩ := ok_of_bind printed
  cases printed
  exact List.cons_ne_nil _ _

theorem readItems_print {items : List Value} {parts : List (List Char)} (some_item : items ≠ [])
    (each : ∀ item ∈ items, item.IsExact ∧ ReadsBack style item) (printed : printItems style items = .ok parts)
    {fuel : Nat} (enough : 2 * (separated [',', ' '] parts).length + 1 ≤ fuel) (rest : List Char) :
    readItems fuel (separated [',', ' '] parts ++ ']' :: rest) = .ok (items, rest) ∧
      Starts (separated [',', ' '] parts) := by
  induction items generalizing parts fuel with
  | nil => exact absurd rfl some_item
  | cons item items ih =>
    obtain ⟨shown, first, printed⟩ := ok_of_bind printed
    obtain ⟨more, others, printed⟩ := ok_of_bind printed
    cases printed
    obtain ⟨kept, reads⟩ := each item List.mem_cons_self
    have starts := starts_print kept first
    obtain ⟨left, rfl⟩ : ∃ left, fuel = left + 1 := ⟨fuel - 1, by omega⟩
    -- The bracket is behind the last item, and a separator behind every other one.
    cases items with
    | nil =>
      cases others
      rw [separated] at enough ⊢
      have value := reads shown first left (by omega) (']' :: rest) (ends_cons (by simp) rest)
      exact ⟨readItems_last value, starts⟩
    | cons second items =>
      rw [separated_cons _ _ (ne_nil_of_printItems others)] at enough ⊢
      simp only [List.length_append, List.length_cons, List.length_nil] at enough
      simp only [List.append_assoc, List.cons_append, List.nil_append]
      have less : 2 * (separated [',', ' '] more).length + 1 ≤ left := by omega
      obtain ⟨behind, next⟩ := ih (List.cons_ne_nil _ _) (fun item member => each item (List.mem_cons_of_mem _ member))
        others less
      have value := reads shown first left (by omega) (',' :: ' ' :: (separated [',', ' '] more ++ ']' :: rest))
        (ends_cons (by simp) _)
      exact ⟨readItems_more value (next.append _).skipSpace behind, starts.append _⟩

section
variable {left : Nat} {text shown rest more : List Char} {name : String} {value : Value}

theorem readFields_last (named : readQuoted ('"' :: text) = .ok (name, ':' :: ' ' :: shown))
    (visible : skipSpace shown = shown) (first : readValue left shown = .ok (value, '\x7d' :: rest)) :
    readFields (left + 1) ('"' :: text) = .ok ([(name, value)], rest) := by
  have space : skipSpace (' ' :: shown) = shown := visible
  simp only [readFields, named, bind, Except.bind, skipSpace_cons (c := ':') rfl, space, first,
    skipSpace_cons (c := '\x7d') rfl]
  rfl

theorem readFields_more (named : readQuoted ('"' :: text) = .ok (name, ':' :: ' ' :: shown))
    (visible : skipSpace shown = shown) (first : readValue left shown = .ok (value, ',' :: ' ' :: more))
    (next : skipSpace more = more) {fields : List (String × Value)}
    (others : readFields left more = .ok (fields, rest)) :
    readFields (left + 1) ('"' :: text) = .ok ((name, value) :: fields, rest) := by
  have space : skipSpace (' ' :: shown) = shown := visible
  have behind : skipSpace (' ' :: more) = more := next
  simp only [readFields, named, bind, Except.bind, skipSpace_cons (c := ':') rfl, space, first,
    skipSpace_cons (c := ',') rfl, behind, others]
  rfl

end

theorem stringText_append (asciiOnly : Bool) (text : String) (rest : List Char) :
    ∃ inner, stringText asciiOnly text ++ rest = '"' :: inner := ⟨_, rfl⟩

theorem starts_stringText (asciiOnly : Bool) (text : String) : Starts (stringText asciiOnly text) :=
  ⟨'"', _, rfl, by decide⟩

theorem ne_nil_of_printFields {field : String × Value} {fields : List (String × Value)} {parts : List (List Char)}
    (printed : printFields style (field :: fields) = .ok parts) : parts ≠ [] := by
  obtain ⟨_, _, printed⟩ := ok_of_bind printed
  obtain ⟨_, _, printed⟩ := ok_of_bind printed
  cases printed
  exact List.cons_ne_nil _ _

theorem readFields_print {fields : List (String × Value)} {parts : List (List Char)} (some_field : fields ≠ [])
    (each : ∀ field ∈ fields, field.2.IsExact ∧ ReadsBack style field.2)
    (printed : printFields style fields = .ok parts) {fuel : Nat}
    (enough : 2 * (separated [',', ' '] parts).length + 1 ≤ fuel) (rest : List Char) :
    readFields fuel (separated [',', ' '] parts ++ '\x7d' :: rest) = .ok (fields, rest) ∧
      Starts (separated [',', ' '] parts) := by
  induction fields generalizing parts fuel with
  | nil => exact absurd rfl some_field
  | cons field fields ih =>
    obtain ⟨name, item⟩ := field
    obtain ⟨shown, first, printed⟩ := ok_of_bind printed
    obtain ⟨more, others, printed⟩ := ok_of_bind printed
    cases printed
    obtain ⟨kept, reads⟩ := each (name, item) List.mem_cons_self
    have starts := starts_print kept first
    have label := starts_stringText style.asciiOnly name
    have named (text : List Char) := readQuoted_stringText style.asciiOnly name (':' :: ' ' :: text)
    obtain ⟨left, rfl⟩ : ∃ left, fuel = left + 1 := ⟨fuel - 1, by omega⟩
    cases fields with
    | nil =>
      cases others
      rw [separated] at enough ⊢
      simp only [List.length_append, List.length_cons] at enough
      simp only [List.append_assoc, List.cons_append]
      have value := reads shown first left (by omega) ('\x7d' :: rest) (ends_cons (by simp) rest)
      refine ⟨?_, label.append _⟩
      obtain ⟨inner, shape⟩ := stringText_append style.asciiOnly name (':' :: ' ' :: (shown ++ '\x7d' :: rest))
      rw [shape]
      exact readFields_last (shape ▸ named _) (starts.append _).skipSpace value
    | cons second fields =>
      rw [separated_cons _ _ (ne_nil_of_printFields others)] at enough ⊢
      simp only [List.length_append, List.length_cons, List.length_nil] at enough
      simp only [List.append_assoc, List.cons_append, List.nil_append]
      have less : 2 * (separated [',', ' '] more).length + 1 ≤ left := by omega
      obtain ⟨behind, next⟩ := ih (List.cons_ne_nil _ _) (fun item member => each item (List.mem_cons_of_mem _ member))
        others less
      have value := reads shown first left (by omega) (',' :: ' ' :: (separated [',', ' '] more ++ '\x7d' :: rest))
        (ends_cons (by simp) _)
      refine ⟨?_, label.append _⟩
      obtain ⟨inner, shape⟩ := stringText_append style.asciiOnly name
        (':' :: ' ' :: (shown ++ ',' :: ' ' :: (separated [',', ' '] more ++ '\x7d' :: rest)))
      rw [shape]
      exact readFields_more (shape ▸ named _) (starts.append _).skipSpace value (next.append _).skipSpace behind

/-- What is no text, no list and no record is read as a word or a number. -/
theorem readValue_atom {c : Char} (quote : c ≠ '"') (brace : c ≠ '\x7b') (bracket : c ≠ '[') (left : Nat)
    (rest : List Char) : readValue (left + 1) (c :: rest) = readAtom (c :: rest) := by
  simp [readValue, quote, brace, bracket]

theorem readValue_integerText (left : Nat) (value : Int) {rest : List Char} (ends : Ends rest) :
    readValue (left + 1) (integerText value ++ rest) = .ok (.int value, rest) := by
  have read := readAtom_integerText value ends
  unfold integerText at read ⊢
  split at read
  next negative =>
    rw [if_pos negative]
    exact read
  next natural =>
    obtain ⟨c, more, shape, digit⟩ := digitsOf_cons value.natAbs
    have other {d : Char} : isDigit d = false → c ≠ d := ne_of_isDigit digit
    rw [if_neg natural]
    rw [shape] at read ⊢
    exact (readValue_atom (other rfl) (other rfl) (other rfl) left _).trans read

theorem readValue_stringText (left : Nat) (asciiOnly : Bool) (text : String) (rest : List Char) :
    readValue (left + 1) (stringText asciiOnly text ++ rest) = .ok (.text text, rest) := by
  have read := readQuoted_stringText asciiOnly text rest
  obtain ⟨inner, shape⟩ := stringText_append asciiOnly text rest
  rw [shape] at read ⊢
  rw [readValue, read]
  rfl

theorem Starts.readValue_list {inner : List Char} (starts : Starts inner) (left : Nat) :
    readValue (left + 1) ('[' :: inner) = (readItems left inner).map fun (items, rest) => (.list items, rest) := by
  rw [readValue, starts.skipSpace]
  obtain ⟨c, more, rfl, _, open_, _⟩ := starts
  simp [open_]

theorem Starts.readValue_record {inner : List Char} (starts : Starts inner) (left : Nat) :
    readValue (left + 1) ('\x7b' :: inner) =
      (readFields left inner).map fun (fields, rest) => (.record (Fields.ofPairs fields), rest) := by
  rw [readValue, starts.skipSpace]
  obtain ⟨c, more, rfl, _, _, open_, _⟩ := starts
  simp [open_]

/-- A text is not empty, so there is fuel for a first step. -/
theorem ReadsBack.of_step {value : Value} (kept : value.IsExact)
    (step : ∀ shown, print style value = .ok shown → ∀ left, 2 * shown.length ≤ left + 1 → ∀ rest, Ends rest →
      readValue (left + 1) (shown ++ rest) = .ok (value, rest)) : ReadsBack style value := by
  intro shown printed fuel enough
  obtain ⟨c, more, shape, _⟩ := starts_print kept printed
  cases fuel with
  | zero =>
    rw [shape, List.length_cons] at enough
    omega
  | succ left => exact step shown printed left enough

theorem readsBack {value : Value} (kept : value.IsExact) : ReadsBack style value := by
  induction kept with
  | null =>
    refine .of_step .null ?_
    intro shown printed left enough rest ends
    cases printed
    rfl
  | bool value =>
    refine .of_step (.bool value) ?_
    intro shown printed left enough rest ends
    cases value
    all_goals
      cases printed
      rfl
  | int value =>
    refine .of_step (.int value) ?_
    intro shown printed left enough rest ends
    cases printed
    exact readValue_integerText left value ends
  | text value =>
    refine .of_step (.text value) ?_
    intro shown printed left enough rest ends
    cases printed
    exact readValue_stringText left _ value rest
  | @list items each ih =>
    refine .of_step (.list each) ?_
    intro shown printed left enough rest ends
    obtain ⟨parts, inside, printed⟩ := ok_of_bind printed
    cases printed
    by_cases none : items = []
    · rw [none] at inside ⊢
      cases inside
      rfl
    · simp only [List.length_append, List.length_cons, List.length_nil] at enough
      have less : 2 * (separated [',', ' '] parts).length + 1 ≤ left := by omega
      obtain ⟨read, starts⟩ := readItems_print none (fun item member => ⟨each item member, ih item member⟩) inside
        less rest
      simp only [List.cons_append, List.append_assoc, List.nil_append]
      rw [(starts.append _).readValue_list, read]
      rfl
  | @record fields distinct each ih =>
    refine .of_step (.record distinct each) ?_
    intro shown printed left enough rest ends
    obtain ⟨parts, inside, printed⟩ := ok_of_bind printed
    cases printed
    by_cases none : fields = []
    · rw [none] at inside ⊢
      cases inside
      rfl
    · simp only [List.length_append, List.length_cons, List.length_nil] at enough
      have less : 2 * (separated [',', ' '] parts).length + 1 ≤ left := by omega
      obtain ⟨read, starts⟩ := readFields_print none (fun field member => ⟨each field member, ih field member⟩) inside
        less rest
      simp only [List.cons_append, List.append_assoc, List.nil_append]
      rw [(starts.append _).readValue_record, read]
      simp only [Except.map, Fields.ofPairs_of_nodup distinct]

theorem read_print {value : Value} (kept : value.IsExact) {shown : List Char}
    (printed : print style value = .ok shown) : read (String.ofList shown) = .ok value := by
  have starts := starts_print kept printed
  have whole := readsBack kept shown printed (2 * shown.length + 1) (by omega) [] ends_nil
  rw [List.append_nil] at whole
  have unmarked : shown.head?.any (·.toNat = 0xfeff) = false := by
    obtain ⟨c, more, rfl, _, _, _, ascii⟩ := starts
    simp only [List.head?_cons, Option.any_some, decide_eq_false_iff_not]
    omega
  simp only [read, String.toList_ofList, unmarked, Bool.false_eq_true, if_false, readDecoded, readWhole,
    starts.skipSpace, whole]
  rfl

/-- A value that holds no other values. -/
def IsFlat : Value → Prop
  | .list _ => False
  | .record _ => False
  | _ => True

theorem isFlat_of_readNumber {negative : Bool} {whole text rest : List Char} {value : Value}
    (read : readNumber negative whole text = (value, rest)) : IsFlat value := by
  unfold readNumber at read
  dsimp only at read
  split at read
  all_goals
    cases read
    trivial

theorem isFlat_of_readAtom {text rest : List Char} {value : Value} (read : readAtom text = .ok (value, rest)) :
    IsFlat value := by
  unfold readAtom at read
  dsimp only at read
  split at read
  next found shape =>
    cases read
    obtain ⟨word, member, same⟩ := List.exists_of_findSome?_eq_some shape
    obtain ⟨behind, _, same⟩ := Option.map_eq_some_iff.mp same
    cases same
    simp only [List.mem_cons, List.not_mem_nil, or_false] at member
    obtain rfl | rfl | rfl | rfl | rfl | rfl := member <;> trivial
  next =>
    -- The sign is told first.
    split at read
    all_goals
      split at read
      next => cases read
      next => exact isFlat_of_readNumber (Except.ok.inj read)

theorem exact_of_readAtom {text rest : List Char} {value : Value} (read : readAtom text = .ok (value, rest))
    (simple : value.IsSimple) : value.IsExact := by
  cases simple with
  | null => exact .null
  | bool value => exact .bool value
  | int value => exact .int value
  | text value => exact .text value
  | list each => exact (isFlat_of_readAtom read).elim
  | record each => exact (isFlat_of_readAtom read).elim

theorem exact_of_readValue {left : Nat}
    (items : ∀ text items rest, readItems left text = .ok (items, rest) → ∀ item ∈ items, item.IsSimple → item.IsExact)
    (fields : ∀ text fields rest, readFields left text = .ok (fields, rest) →
      ∀ field ∈ fields, field.2.IsSimple → field.2.IsExact) {text rest : List Char} {value : Value}
    (read : readValue (left + 1) text = .ok (value, rest)) (simple : value.IsSimple) : value.IsExact := by
  unfold readValue at read
  split at read
  next => cases read
  next =>
    obtain ⟨found, _, same⟩ := ok_of_map read
    cases same
    exact .text _
  next =>
    dsimp only at read
    split at read
    next =>
      cases read
      exact .record List.nodup_nil nofun
    next =>
      obtain ⟨found, inside, same⟩ := ok_of_map read
      cases same
      obtain ⟨distinct, known⟩ := Fields.ofPairs_fields found.1
      cases simple with
      | record each =>
        refine .record distinct ?_
        intro field member
        exact fields _ _ _ inside field (known field member) (each field member)
  next =>
    dsimp only at read
    split at read
    next =>
      cases read
      exact .list nofun
    next =>
      obtain ⟨found, inside, same⟩ := ok_of_map read
      cases same
      cases simple with
      | list each =>
        refine .list ?_
        intro item member
        exact items _ _ _ inside item member (each item member)
  next => exact exact_of_readAtom read simple

/-- What is read, at any depth, has each name once in a record. -/
theorem exact_of_readParts {fuel : Nat} :
    (∀ text value rest, readValue fuel text = .ok (value, rest) → value.IsSimple → value.IsExact) ∧
      (∀ text items rest, readItems fuel text = .ok (items, rest) → ∀ item ∈ items, item.IsSimple → item.IsExact) ∧
      ∀ text fields rest, readFields fuel text = .ok (fields, rest) →
        ∀ field ∈ fields, field.2.IsSimple → field.2.IsExact := by
  -- The three readers call each other with less fuel, so their results are known together.
  induction fuel with
  | zero => exact ⟨nofun, nofun, nofun⟩
  | succ left ih =>
    obtain ⟨values, items, fields⟩ := ih
    refine ⟨fun _ _ _ => exact_of_readValue items fields, ?_, ?_⟩
    · intro text all rest read
      unfold readItems at read
      obtain ⟨⟨first, behind⟩, own, read⟩ := ok_of_bind read
      dsimp only at read
      split at read
      next =>
        cases read
        intro item member
        rw [List.mem_singleton.mp member]
        exact values _ _ _ own
      next =>
        obtain ⟨⟨more, last⟩, others, read⟩ := ok_of_bind read
        cases read
        intro item member
        cases member with
        | head => exact values _ _ _ own
        | tail _ later => exact items _ _ _ others item later
      next => cases read
    · intro text all rest read
      unfold readFields at read
      split at read
      next =>
        obtain ⟨⟨name, behind⟩, named, read⟩ := ok_of_bind read
        dsimp only at read
        split at read
        next =>
          obtain ⟨⟨first, behind⟩, own, read⟩ := ok_of_bind read
          dsimp only at read
          split at read
          next =>
            cases read
            intro field member
            rw [List.mem_singleton.mp member]
            exact values _ _ _ own
          next =>
            obtain ⟨⟨more, last⟩, others, read⟩ := ok_of_bind read
            cases read
            intro field member
            cases member with
            | head => exact values _ _ _ own
            | tail _ later => exact fields _ _ _ others field later
          next => cases read
        next => cases read
      next => cases read

/-- The value of a JSON text, if it is simple, has each name once in a record. -/
theorem exact_of_read {text : String} {value : Value} (ran : read text = .ok value) (simple : value.IsSimple) :
    value.IsExact := by
  unfold read at ran
  dsimp only at ran
  split at ran
  next => cases ran
  next =>
    rw [readDecoded] at ran
    cases whole : readWhole text.toList with
    | error stop =>
      rw [whole] at ran
      cases ran
    | ok found =>
      rw [whole] at ran
      cases ran
      obtain ⟨⟨first, rest⟩, own, whole⟩ := ok_of_bind whole
      dsimp only at whole
      split at whole
      next =>
        cases whole
        exact (exact_of_readParts).1 _ _ _ own simple
      next => cases whole

end Json

end FormQuery
