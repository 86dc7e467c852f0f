import FormQuery.Settings
import Mathlib.Data.List.TakeWhile

/-! Names of tables and columns: a grammar of plain names, and what settings accept, which is compared with it. -/

namespace FormQuery

namespace Settings

def IsNameCharacter (c : Char) : Prop := c.isAlpha = true ∨ c.isDigit = true ∨ c = '_'

def IsWord (text : List Char) : Prop :=
  ∃ c rest, text = c :: rest ∧ (c.isAlpha = true ∨ c = '_') ∧ ∀ d ∈ rest, IsNameCharacter d

/-- One word, or two with a dot between them. -/
inductive IsPlainName : List Char → Prop where
  | alone {word : List Char} : IsWord word → IsPlainName word
  | joined {owner own : List Char} : IsWord owner → IsWord own → IsPlainName (owner ++ '.' :: own)

/-- A plain name that a line end may follow. -/
def IsAccepted (text : List Char) : Prop := ∃ name, IsPlainName name ∧ (text = name ∨ text = name ++ ['\n'])

theorem isName_iff {text : List Char} : isName text = true ↔ IsWord text := by
  cases text with
  | nil => simp [isName, IsWord]
  | cons c rest =>
    have same : isName (c :: rest) = true ↔ (c.isAlpha = true ∨ c = '_') ∧ ∀ d ∈ rest, IsNameCharacter d := by
      simp [isName, isNameStart, isNamePart, IsNameCharacter, Char.isAlphanum, or_assoc]
    rw [same]
    constructor
    · intro parts
      exact ⟨c, rest, rfl, parts⟩
    · intro word
      obtain ⟨_, _, shape, parts⟩ := word
      cases shape
      exact parts

theorem IsWord.characters {text : List Char} (word : IsWord text) : ∀ c ∈ text, IsNameCharacter c := by
  obtain ⟨c, rest, rfl, start, more⟩ := word
  rw [List.forall_mem_cons]
  exact ⟨start.imp_right .inr, more⟩

theorem not_isNameCharacter_dot : ¬ IsNameCharacter '.' := by
  unfold IsNameCharacter
  decide

theorem not_isNameCharacter_lineEnd : ¬ IsNameCharacter '\n' := by
  unfold IsNameCharacter
  decide

theorem IsWord.no_dot {text : List Char} (word : IsWord text) : ∀ c ∈ text, c ≠ '.' := by
  intro c member same
  exact not_isNameCharacter_dot (same ▸ word.characters c member)

/-- A plain name starts like a word, and goes on with words and dots. -/
theorem IsPlainName.cons {text : List Char} (plain : IsPlainName text) :
    ∃ c rest, text = c :: rest ∧ (c.isAlpha = true ∨ c = '_') ∧ ∀ d ∈ rest, IsNameCharacter d ∨ d = '.' := by
  cases plain with
  | alone word =>
    obtain ⟨c, rest, shape, start, more⟩ := word
    exact ⟨c, rest, shape, start, fun d member => .inl (more d member)⟩
  | @joined owner own first second =>
    obtain ⟨c, rest, rfl, start, more⟩ := first
    refine ⟨c, rest ++ '.' :: own, rfl, start, ?_⟩
    intro d member
    rw [List.mem_append, List.mem_cons] at member
    obtain before | dot | behind := member
    · exact .inl (more d before)
    · exact .inr dot
    · exact .inl (second.characters d behind)

theorem IsPlainName.characters {text : List Char} (plain : IsPlainName text) :
    ∀ c ∈ text, IsNameCharacter c ∨ c = '.' := by
  obtain ⟨c, rest, rfl, start, more⟩ := plain.cons
  rw [List.forall_mem_cons]
  exact ⟨.inl (start.imp_right .inr), more⟩

theorem IsPlainName.no_lineEnd {text : List Char} (plain : IsPlainName text) : '\n' ∉ text := by
  intro member
  obtain inside | dot := plain.characters _ member
  · exact not_isNameCharacter_lineEnd inside
  · cases dot

theorem IsAccepted.cons {text : List Char} (accepted : IsAccepted text) :
    ∃ c rest, text = c :: rest ∧ (c.isAlpha = true ∨ c = '_') ∧ ∀ d ∈ rest, IsNameCharacter d ∨ d = '.' ∨ d = '\n' := by
  obtain ⟨name, plain, shape⟩ := accepted
  obtain ⟨c, rest, rfl, start, more⟩ := plain.cons
  obtain same | same := shape
  · exact ⟨c, rest, same, start, fun d member => (more d member).imp_right .inl⟩
  · refine ⟨c, rest ++ ['\n'], same, start, ?_⟩
    intro d member
    rw [List.mem_append, List.mem_singleton] at member
    obtain inside | lineEnd := member
    · exact (more d inside).imp_right .inl
    · exact .inr (.inr lineEnd)

theorem IsAccepted.characters {text : List Char} (accepted : IsAccepted text) :
    ∀ c ∈ text, IsNameCharacter c ∨ c = '.' ∨ c = '\n' := by
  obtain ⟨c, rest, rfl, start, more⟩ := accepted.cons
  rw [List.forall_mem_cons]
  exact ⟨.inl (start.imp_right .inr), more⟩

theorem dropWhile_word {word : List Char} (known : IsWord word) : word.dropWhile (· ≠ '.') = [] := by
  rw [List.dropWhile_eq_nil_iff]
  simpa using known.no_dot

theorem isIdentifier_iff_dropLineEnd {text : List Char} : isIdentifier text = true ↔ IsPlainName (dropLineEnd text) := by
  unfold isIdentifier
  generalize dropLineEnd text = name
  constructor
  · intro named
    have whole := List.takeWhile_append_dropWhile (p := (· ≠ '.')) (l := name)
    simp only at named
    split at named
    next => exact .alone (isName_iff.mp named)
    next point own behind =>
      have dot : point = '.' := by
        have head := List.head?_dropWhile_not (· ≠ '.') name
        rw [behind] at head
        simpa using head
      rw [Bool.and_eq_true, isName_iff, isName_iff] at named
      rw [behind, dot] at whole
      rw [← whole]
      exact .joined named.1 named.2
  · intro plain
    cases plain with
    | alone word =>
      simp only [dropWhile_word word]
      exact isName_iff.mpr word
    | @joined owner own first second =>
      have apart : ∀ c ∈ owner, (decide (c ≠ '.')) = true := by simpa using first.no_dot
      have behind : (owner ++ '.' :: own).dropWhile (· ≠ '.') = '.' :: own := by
        rw [List.dropWhile_append_of_pos apart]
        rfl
      have before : (owner ++ '.' :: own).takeWhile (· ≠ '.') = owner := by
        rw [List.takeWhile_append_of_pos apart]
        simp
      simp only [behind, before, isName_iff.mpr first, isName_iff.mpr second, Bool.and_self]

theorem eq_dropLineEnd_or (text : List Char) : text = dropLineEnd text ∨ text = dropLineEnd text ++ ['\n'] := by
  unfold dropLineEnd
  split
  next last =>
    obtain ⟨before, rfl⟩ := List.getLast?_eq_some_iff.mp last
    exact .inr (by simp)
  next => exact .inl rfl

theorem dropLineEnd_of_not_mem {text : List Char} (none : '\n' ∉ text) : dropLineEnd text = text := by
  unfold dropLineEnd
  split
  next last => exact absurd (List.mem_of_getLast? last) none
  next => rfl

/-- The recognizer takes plain names, and a line end behind them. -/
theorem isIdentifier_iff {text : List Char} : isIdentifier text = true ↔ IsAccepted text := by
  rw [isIdentifier_iff_dropLineEnd]
  constructor
  · intro plain
    exact ⟨dropLineEnd text, plain, eq_dropLineEnd_or text⟩
  · intro accepted
    obtain ⟨name, plain, rfl | rfl⟩ := accepted
    · rwa [dropLineEnd_of_not_mem plain.no_lineEnd]
    · simpa [dropLineEnd] using plain

end Settings

end FormQuery
