import FormQuery.Proofs.TokenShape
import FormQuery.Text.Classes

/-! The letters of ASCII, and their case. The tables of letters and of letter case go up by code, so only their first
entries count there, and they say what is built in. Nothing that is asked of characters to tell tokens apart depends on
letter case. -/

namespace FormQuery

namespace Text

variable {c : Char}

/-- What holds of every ASCII character, code by code. -/
theorem forall_ascii (holds : Char → Prop) (codes : ∀ code < 128, holds (Char.ofNat code)) (ascii : c.toNat < 128) :
    holds c := by
  have known := codes c.toNat ascii
  rwa [Char.ofNat_toNat] at known

/-- Ranges that start further on do not count. -/
theorem CodeRanges.has_take {ranges : CodeRanges} {bound : Nat} (size : Nat)
    (beyond : ∀ range ∈ ranges.drop size, bound ≤ range.1) (below : c.toNat < bound) :
    ranges.has c = CodeRanges.has (ranges.take size) c := by
  have none : CodeRanges.has (ranges.drop size) c = false := by
    rw [CodeRanges.has, List.any_eq_false]
    intro range member
    have starts := beyond range member
    simp only [Bool.and_eq_true, decide_eq_true_eq]
    omega
  calc ranges.has c
    _ = CodeRanges.has (ranges.take size ++ ranges.drop size) c := by rw [List.take_append_drop]
    _ = CodeRanges.has (ranges.take size) c := by
      rw [CodeRanges.has, List.any_append, ← CodeRanges.has, ← CodeRanges.has, none, Bool.or_false]

theorem find?_take {α : Type} {items : List α} {ask : α → Bool} (size : Nat)
    (beyond : ∀ item ∈ items.drop size, ¬ask item = true) : items.find? ask = (items.take size).find? ask := by
  calc items.find? ask
    _ = (items.take size ++ items.drop size).find? ask := by rw [List.take_append_drop]
    _ = (items.take size).find? ask := by
      rw [List.find?_append, List.find?_eq_none.mpr beyond, Option.or_none]

theorem CaseRuns.apply_take {runs : CaseRuns} {bound : Nat} (size : Nat)
    (beyond : ∀ run ∈ runs.drop size, bound ≤ run.1) (below : c.toNat < bound) : runs.apply c = CaseRuns.apply (runs.take size) c := by
  rw [CaseRuns.apply, find?_take size]
  · rfl
  · intro run member
    have starts := beyond run member
    simp only [Bool.and_eq_true, decide_eq_true_eq]
    omega

/-- The tables beyond ASCII. -/
theorem further_entries : (∀ range ∈ letterRanges.drop 2, 128 ≤ range.1) ∧ (∀ run ∈ lowerRuns.drop 1, 128 ≤ run.1) ∧
    (∀ run ∈ upperRuns.drop 1, 128 ≤ run.1) ∧ ∀ long ∈ longUppers, 128 ≤ long.1 := by
  decide +kernel

theorem first_entries (ascii : c.toNat < 128) : CodeRanges.has (letterRanges.take 2) c = c.isAlpha ∧
    CaseRuns.apply (lowerRuns.take 1) c = c.toLower ∧ CaseRuns.apply (upperRuns.take 1) c = c.toUpper ∧
    c.toUpper.isAlpha = c.isAlpha ∧ c.toUpper.toLower = c.toLower ∧ (c.isAlpha = true ∨ c.toUpper = c) := by
  apply forall_ascii (fun c => CodeRanges.has (letterRanges.take 2) c = c.isAlpha ∧
    CaseRuns.apply (lowerRuns.take 1) c = c.toLower ∧ CaseRuns.apply (upperRuns.take 1) c = c.toUpper ∧
    c.toUpper.isAlpha = c.isAlpha ∧ c.toUpper.toLower = c.toLower ∧ (c.isAlpha = true ∨ c.toUpper = c)) _ ascii
  decide +kernel

theorem isLetter_ascii (ascii : c.toNat < 128) : isLetter c = c.isAlpha := by
  rw [isLetter, CodeRanges.has_take 2 further_entries.1 ascii, (first_entries ascii).1]

theorem lowerChar_ascii (ascii : c.toNat < 128) : lowerChar c = c.toLower := by
  rw [lowerChar, CaseRuns.apply_take 1 further_entries.2.1 ascii, (first_entries ascii).2.1]

theorem upperChar_ascii (ascii : c.toNat < 128) : upperChar c = [c.toUpper] := by
  rw [upperChar, List.find?_eq_none.mpr]
  · exact congrArg ([·]) ((CaseRuns.apply_take 1 further_entries.2.2.1 ascii).trans (first_entries ascii).2.2.1)
  · intro long member
    have far := further_entries.2.2.2 long member
    rw [beq_iff_eq]
    omega

theorem upper_ascii {text : List Char} (ascii : ∀ c ∈ text, c.toNat < 128) : upper text = text.map Char.toUpper := by
  induction text with
  | nil => rfl
  | cons c text ih =>
    obtain ⟨low, others⟩ := List.forall_mem_cons.mp ascii
    rw [upper, List.flatMap_cons, upperChar_ascii low, ← upper, ih others, List.map_cons, List.singleton_append]

/-- The two characters whose lower case depends on what is around them, or is longer, are not in ASCII. -/
theorem lower_ascii {text : List Char} (ascii : ∀ c ∈ text, c.toNat < 128) : lower text = text.map Char.toLower := by
  suffices after : ∀ before, lowerAfter before text = text.map Char.toLower from after []
  induction text with
  | nil => exact fun _ => rfl
  | cons c text ih =>
    intro before
    obtain ⟨low, others⟩ := List.forall_mem_cons.mp ascii
    rw [lowerAfter, if_neg (by omega), if_neg (by omega), lowerChar_ascii low, ih others, List.map_cons,
      List.singleton_append]

theorem toUpper_cases (c : Char) : c.toUpper = c ∨ c.toNat < 128 := by
  unfold Char.toUpper
  split
  next low =>
    right
    have last : c.toNat ≤ 122 := by simpa [UInt32.le_iff_toNat_le] using low.2
    omega
  next => exact .inl rfl

theorem isAlpha_toUpper (c : Char) : c.toUpper.isAlpha = c.isAlpha := by
  obtain same | ascii := toUpper_cases c
  · rw [same]
  · exact (first_entries ascii).2.2.2.1

theorem toLower_toUpper (c : Char) : c.toUpper.toLower = c.toLower := by
  obtain same | ascii := toUpper_cases c
  · rw [same]
  · exact (first_entries ascii).2.2.2.2.1

/-- What is the same for all letters of ASCII does not depend on their case. -/
theorem toUpper_invariant {β : Type} (ask : Char → β) (answer : β)
    (letters : ∀ c : Char, c.isAlpha = true → ask c = answer) (c : Char) : ask c.toUpper = ask c := by
  by_cases letter : c.isAlpha = true
  · rw [letters c letter, letters c.toUpper (by rwa [isAlpha_toUpper])]
  · obtain same | ascii := toUpper_cases c
    · rw [same]
    · rw [(first_entries ascii).2.2.2.2.2.resolve_left letter]

end Text

open Text

section

variable {c : Char} (letter : c.isAlpha = true)

include letter

theorem isWordStart_of_isAlpha : isWordStart c = true := by simp [isWordStart, letter]

theorem isWordPart_of_isAlpha : isWordPart c = true := by simp [isWordPart, Char.isAlphanum, letter]

theorem isBlank_of_isAlpha : isBlank c = false := isBlank_of_isWordStart (isWordStart_of_isAlpha letter)

theorem ascii_of_isAlpha : c.toNat < 128 := by
  have code := code_of_isWordStart (isWordStart_of_isAlpha letter)
  omega

theorem isDigit_of_isAlpha : isDigit c = false := by
  have code := code_of_isWordStart (isWordStart_of_isAlpha letter)
  rw [← Bool.not_eq_true]
  intro digit
  have range := code_of_isDigit digit
  omega

end

section

variable (c : Char)

theorem isBlank_toUpper : isBlank c.toUpper = isBlank c :=
  toUpper_invariant isBlank false (fun _ => isBlank_of_isAlpha) c

theorem isDigit_toUpper : isDigit c.toUpper = isDigit c :=
  toUpper_invariant isDigit false (fun _ => isDigit_of_isAlpha) c

theorem isWordStart_toUpper : isWordStart c.toUpper = isWordStart c :=
  toUpper_invariant isWordStart true (fun _ => isWordStart_of_isAlpha) c

theorem isWordPart_toUpper : isWordPart c.toUpper = isWordPart c :=
  toUpper_invariant isWordPart true (fun _ => isWordPart_of_isAlpha) c

theorem beq_toUpper {sign : Char} (noLetter : sign.isAlpha = false) : (sign == c.toUpper) = (sign == c) := by
  refine toUpper_invariant (sign == ·) false (fun c letter => ?_) c
  rw [beq_eq_false_iff_ne]
  rintro rfl
  rw [noLetter] at letter
  cases letter

end

end FormQuery
