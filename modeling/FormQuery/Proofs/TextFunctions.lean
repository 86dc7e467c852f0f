import FormQuery.Proofs.CharacterPositions
import FormQuery.Sql.Texts
import Mathlib.Data.List.DropRight

/-! TRIM and REPLACE in a sample and in a database. A sample takes every blank off the ends of a text and a database
only spaces, so they agree where no other blank is left at the ends. A sample finds the empty text everywhere and a
database nowhere, so they agree where a text that is not empty is replaced. -/

namespace FormQuery

open Sql

namespace Sql

variable {kind : Char → Bool} {text rest : List Char}

theorem trimmed_rdropWhile (kind : Char → Bool) (text : List Char) :
    Trimmed kind text ((text.dropWhile kind).rdropWhile kind) := by
  obtain ⟨middle, shown⟩ : ∃ middle, middle = text.dropWhile kind := ⟨_, rfl⟩
  have bare : ∀ c ∈ middle.head?, kind c = false := by
    intro c member
    have known := List.head?_dropWhile_not kind text
    rw [← shown, Option.mem_def.mp member] at known
    exact known
  rw [← shown]
  refine ⟨⟨text.takeWhile kind, middle.rtakeWhile kind, ?_, ?_, ?_⟩, ?_, ?_⟩
  · rw [List.append_assoc, List.rdropWhile_append_rtakeWhile, shown, List.takeWhile_append_dropWhile]
  · exact fun c => List.mem_takeWhile_imp
  · exact fun c => List.mem_rtakeWhile_imp
  · intro c member
    obtain ⟨back, whole⟩ := List.rdropWhile_prefix kind (l := middle)
    apply bare
    rw [← whole, List.head?_append, Option.mem_def.mp member]
    rfl
  · intro c member
    have some_rest : middle.rdropWhile kind ≠ [] := by
      intro none
      rw [none] at member
      cases member
    have known := List.rdropWhile_last_not kind middle some_rest
    rw [List.getLast?_eq_some_getLast some_rest, Option.mem_some] at member
    rwa [member, Bool.not_eq_true] at known

theorem Trimmed.eq_rdropWhile (trimmed : Trimmed kind text rest) : rest = (text.dropWhile kind).rdropWhile kind := by
  obtain ⟨⟨front, back, rfl, before, behind⟩, bare⟩ := trimmed
  have none : back.dropWhile kind = [] := List.dropWhile_eq_nil_iff.mpr behind
  rw [List.append_assoc, List.dropWhile_append_of_pos before]
  -- With nothing left the characters behind are dropped from the front already.
  cases shape : rest with
  | nil => rw [List.nil_append, none, List.rdropWhile_nil]
  | cons c more =>
    have start : kind c = false := bare.first c (by simp [shape])
    have whole : (c :: more ++ back).dropWhile kind = c :: more ++ back := by
      rw [List.cons_append, List.dropWhile_cons_of_neg (by simp [start])]
    have turned : ∀ d ∈ back.reverse, kind d = true := fun d member => behind d (List.mem_reverse.mp member)
    have self : (c :: more).rdropWhile kind = c :: more := by
      rw [List.rdropWhile_eq_self_iff]
      intro some_rest
      rw [Bool.not_eq_true]
      exact bare.last _ (by rw [shape, List.getLast?_eq_some_getLast some_rest]; rfl)
    rw [whole, List.rdropWhile, List.reverse_append, List.dropWhile_append_of_pos turned]
    exact self.symm

theorem existsUnique_trimmed (kind : Char → Bool) (text : List Char) : ∃! rest, Trimmed kind text rest :=
  ⟨_, trimmed_rdropWhile kind text, fun _ trimmed => trimmed.eq_rdropWhile⟩

theorem isBlank_of_isSpace {c : Char} (space : isSpace c = true) : Text.isBlank c = true := by
  rw [of_decide_eq_true space]
  decide

/-- A text without its spaces is without its blanks as well, unless another blank is left at one of its ends. -/
theorem Trimmed.eq_iff {own : List Char} (blanks : Trimmed Text.isBlank text rest) (spaces : Trimmed isSpace text own) :
    rest = own ↔ BareEnds Text.isBlank own := by
  constructor
  · intro same
    exact same ▸ blanks.bare
  · intro bare
    obtain ⟨front, back, parts, before, behind⟩ := spaces.parts
    have whole : Trimmed Text.isBlank text own :=
      ⟨⟨front, back, parts, fun c member => isBlank_of_isSpace (before c member),
        fun c member => isBlank_of_isSpace (behind c member)⟩, bare⟩
    exact (existsUnique_trimmed Text.isBlank text).unique blanks whole

end Sql

theorem Text.trimmed_trim (text : List Char) : Trimmed isBlank text (trim text) := trimmed_rdropWhile isBlank text

theorem Sql.Replaced.cons {old new text result : List Char} {c : Char} (absent : ¬old <+: c :: text)
    (others : Replaced old new text result) : Replaced old new (c :: text) (c :: result) := by
  cases others with
  | absent none =>
    refine .absent ?_
    rw [List.infix_cons_iff, not_or]
    exact ⟨absent, none⟩
  | @found before rest result first others =>
    refine @Replaced.found _ _ (c :: before) rest result (fun skipped inside => ?_) others
    cases skipped with
    | zero => exact absent
    | succ skipped => exact first skipped (by simpa using inside)

namespace StringFunction

variable {old new text rest : List Char}

theorem dropStart?_eq_some : dropStart? old text = some rest ↔ text = old ++ rest := by
  induction old generalizing text with
  | nil => simp [dropStart?, eq_comm]
  | cons c old ih =>
    cases text with
    | nil => simp [dropStart?]
    | cons d text =>
      rw [dropStart?]
      split
      next same => rw [ih, same, List.cons_append, List.cons.injEq, eq_self, true_and]
      next other => simp [Ne.symm other]

theorem replaceEach_cons {c : Char} (absent : ¬old <+: c :: text) :
    replaceEach old new (c :: text) = c :: replaceEach old new text := by
  rw [replaceEach]
  split
  next => rfl
  next rest found => exact absurd ⟨rest, (dropStart?_eq_some.mp found).symm⟩ absent

theorem replaceEach_start (some_old : old ≠ []) (rest : List Char) :
    replaceEach old new (old ++ rest) = new ++ replaceEach old new rest := by
  obtain ⟨c, more, shape⟩ := List.exists_cons_of_ne_nil (List.append_ne_nil_of_left_ne_nil some_old rest)
  rw [shape, replaceEach]
  split
  next none =>
    have found : dropStart? old (c :: more) = some rest := dropStart?_eq_some.mpr shape.symm
    rw [none] at found
    cases found
  next behind found =>
    have same := (dropStart?_eq_some.mp found).symm.trans shape.symm
    rw [List.append_cancel_left_eq] at same
    rw [if_neg (by simpa using some_old), same]

theorem replaceEach_absent (absent : ¬old <:+: text) : replaceEach old new text = text := by
  induction text with
  | nil => rw [replaceEach]
  | cons c text ih =>
    rw [List.infix_cons_iff, not_or] at absent
    rw [replaceEach_cons absent.1, ih absent.2]

theorem replaceEach_found (some_old : old ≠ []) {before : List Char}
    (first : ∀ skipped < before.length, ¬old <+: (before ++ old ++ rest).drop skipped) :
    replaceEach old new (before ++ old ++ rest) = before ++ new ++ replaceEach old new rest := by
  induction before with
  | nil => exact replaceEach_start some_old rest
  | cons c before ih =>
    have start : ¬old <+: c :: (before ++ old ++ rest) := first 0 (by simp)
    have others := ih fun skipped inside => first (skipped + 1) (by simpa using inside)
    rw [List.cons_append, List.cons_append, replaceEach_cons start, others]
    rfl

theorem replaced_replaceEach (some_old : old ≠ []) (text : List Char) :
    Replaced old new text (replaceEach old new text) := by
  induction text using replaceEach.induct old with
  | case1 =>
    rw [replaceEach]
    exact .absent (by simpa using some_old)
  | case2 c text none ih =>
    have absent : ¬old <+: c :: text := by
      intro ⟨rest, same⟩
      rw [dropStart?_eq_some.mpr same.symm] at none
      cases none
    rw [replaceEach_cons absent]
    exact .cons absent ih
  | case3 c text rest found empty ih => exact absurd (List.isEmpty_iff.mp empty) some_old
  | case4 c text rest found _ ih =>
    rw [dropStart?_eq_some.mp found, replaceEach_start some_old]
    exact @Replaced.found _ _ [] rest _ nofun ih

theorem replaced_iff (some_old : old ≠ []) {result : List Char} :
    Replaced old new text result ↔ result = replaceEach old new text := by
  constructor
  · intro replaced
    induction replaced with
    | absent none => exact (replaceEach_absent none).symm
    | found first _ ih => rw [replaceEach_found some_old first, ih]
  · intro same
    rw [same]
    exact replaced_replaceEach some_old text

theorem existsUnique_replaces (old new text : List Char) : ∃! result, Replaces old new text result := by
  unfold Replaces
  split
  next => exact ⟨text, rfl, fun _ same => same⟩
  next some_old =>
    exact ⟨replaceEach old new text, replaced_replaceEach some_old text, fun _ => (replaced_iff some_old).mp⟩

theorem length_flatMap_cons (text new : List Char) :
    (text.flatMap (· :: new)).length = text.length * (new.length + 1) := by
  simp [List.length_flatMap]

theorem eq_nil_of_spread {text new : List Char} (same : new ++ text.flatMap (· :: new) = text) : new = [] := by
  have sizes := congrArg List.length same
  rw [List.length_append, length_flatMap_cons, Nat.mul_succ] at sizes
  exact List.length_eq_zero_iff.mp (by omega)

/-- A sample and a database replace alike, unless something is to be put in the place of the empty text. -/
theorem replaceAll_eq_iff {own : List Char} (replaces : Replaces old new text own) :
    replaceAll old new text = own ↔ old ≠ [] ∨ new = [] := by
  unfold Replaces at replaces
  unfold replaceAll
  split at replaces
  next empty =>
    rw [replaces, empty]
    constructor
    · intro same
      exact .inr (eq_nil_of_spread same)
    · intro none
      simp [none.resolve_left (· rfl)]
  next some_old => simp [some_old, (replaced_iff some_old).mp replaces]

end StringFunction

namespace ValueExpr

open StringFunction

/-- How TRIM of a text in a sample compares with the function of a database that stands in the statement. -/
structure TrimCompares (submission : Submission) (layout : Layout) (name : String) (text : ValueExpr)
    (content : List Char) : Prop where
  written : ∀ position sql, Sql.value layout text = .ok sql →
    Sql.value layout (call name [text] position) = .ok (.code "BTRIM(" :: sql ++ [.code ")"])
  own : ∃! own, Trimmed isSpace content own
  computed : ∃ rest, (∀ position, (call name [text] position).evaluate submission layout = .ok (textValue rest)) ∧
    Trimmed Text.isBlank content rest ∧ ∀ own, Trimmed isSpace content own → (rest = own ↔ BareEnds Text.isBlank own)

/-- The same of REPLACE. Where the empty text is replaced, a sample puts the new one around every character. -/
structure ReplaceCompares (submission : Submission) (layout : Layout) (name : String) (text old new : ValueExpr)
    (content searched inserted : List Char) : Prop where
  written : ∀ position sql first second, Sql.value layout text = .ok sql → Sql.value layout old = .ok first →
    Sql.value layout new = .ok second → Sql.value layout (call name [text, old, new] position) =
      .ok (.code "REPLACE(" :: separated ", " [sql, first, second] ++ [.code ")"])
  own : ∃! own, Replaces searched inserted content own
  computed : ∃ result,
    (∀ position, (call name [text, old, new] position).evaluate submission layout = .ok (textValue result)) ∧
    (searched = [] → result = inserted ++ content.flatMap (· :: inserted)) ∧
    ∀ own, Replaces searched inserted content own → (result = own ↔ searched ≠ [] ∨ inserted = [])

variable {submission : Submission} {layout : Layout} {name : String} {text old new : ValueExpr}
  {content searched inserted : String}

theorem trimCompares (found : find? name = some .trim) (ran : text.evaluate submission layout = .ok (.text content)) :
    TrimCompares submission layout name text content.toList := by
  refine ⟨fun position sql shown => ?_, existsUnique_trimmed _ _, Text.trim content.toList, fun position => ?_,
    Text.trimmed_trim _, fun own spaces => (Text.trimmed_trim _).eq_iff spaces⟩
  · have parts : Sql.values layout [text] = .ok [sql] := by
      rw [Sql.values, bind_ok shown]
      rfl
    rw [Sql.value, found]
    exact bind_ok parts _
  · have values : evaluateAll submission layout [text] = .ok [.text content] := evaluateAll_cons ran rfl
    rw [evaluate_call found values]
    rfl

theorem replaceCompares (found : find? name = some .replace)
    (ran : text.evaluate submission layout = .ok (.text content))
    (old_ran : old.evaluate submission layout = .ok (.text searched))
    (new_ran : new.evaluate submission layout = .ok (.text inserted)) :
    ReplaceCompares submission layout name text old new content.toList searched.toList inserted.toList := by
  refine ⟨fun position sql first second shown sought put => ?_, existsUnique_replaces _ _ _,
    replaceAll searched.toList inserted.toList content.toList, fun position => ?_, fun empty => ?_,
    fun own => replaceAll_eq_iff⟩
  · have parts : Sql.values layout [text, old, new] = .ok [sql, first, second] := by
      simp only [Sql.values, bind_ok shown, bind_ok sought, bind_ok put]
      rfl
    rw [Sql.value, found]
    exact bind_ok parts _
  · have values : evaluateAll submission layout [text, old, new] =
        .ok [.text content, .text searched, .text inserted] :=
      evaluateAll_cons ran (evaluateAll_cons old_ran (evaluateAll_cons new_ran rfl))
    rw [evaluate_call found values]
    rfl
  · simp [replaceAll, empty]

/-- TRIM and REPLACE of texts, beside what a database makes of them. They agree where the spaces hide no other blank at
the ends, and where a text that is not empty is replaced. -/
theorem evaluate_trimmed_replaced (ran : text.evaluate submission layout = .ok (.text content)) :
    (∀ name, find? name = some .trim → TrimCompares submission layout name text content.toList) ∧
    ∀ name old new searched inserted, find? name = some .replace →
      old.evaluate submission layout = .ok (.text searched) → new.evaluate submission layout = .ok (.text inserted) →
        ReplaceCompares submission layout name text old new content.toList searched.toList inserted.toList :=
  ⟨fun _ found => trimCompares found ran,
    fun _ _ _ _ _ found old_ran new_ran => replaceCompares found ran old_ran new_ran⟩

theorem evaluate_trimmed_replaced_dash :
    let typed (content : String) : ValueExpr := .literal ⟨.text content, 0, none⟩
    find? "TRIM" = some .trim ∧ find? "REPLACE" = some .replace ∧
      Trimmed isSpace " a-b ".toList "a-b".toList ∧ Replaces ['-'] [] " a-b ".toList " ab ".toList ∧
      (call "TRIM" [typed " a-b "] 0).evaluate [] {} = .ok (.text "a-b") ∧
      (call "REPLACE" [typed " a-b ", typed "-", typed ""] 0).evaluate [] {} = .ok (.text " ab ") := by
  intro typed
  have trim : find? "TRIM" = some .trim := by decide +kernel
  have replace : find? "REPLACE" = some .replace := by decide +kernel
  have trimmed : Trimmed isSpace " a-b ".toList "a-b".toList :=
    ⟨⟨[' '], [' '], rfl, by simp [isSpace], by simp [isSpace]⟩, fun | _, rfl => rfl, fun | _, rfl => rfl⟩
  have replaced : Replaces ['-'] [] " a-b ".toList " ab ".toList :=
    @Replaced.found _ _ " a".toList "b ".toList _ (by decide) (.absent (by decide))
  obtain ⟨trims, replaces⟩ := evaluate_trimmed_replaced (rfl : (typed " a-b ").evaluate [] {} = .ok (.text " a-b "))
  obtain ⟨rest, shown, -, alike⟩ := (trims "TRIM" trim).computed
  obtain ⟨result, computed, -, same⟩ := (replaces "REPLACE" (typed "-") (typed "") "-" "" replace rfl rfl).computed
  refine ⟨trim, replace, trimmed, replaced, ?_, ?_⟩
  · rw [shown 0, (alike _ trimmed).mpr ⟨fun | _, rfl => rfl, fun | _, rfl => rfl⟩]
    rfl
  · rw [computed 0, (same _ replaced).mpr (.inl (by decide))]
    rfl

/-- A database leaves a tab at the start of a text, and a text as it is where nothing is to be replaced. -/
theorem tab_lost :
    let typed (content : String) : ValueExpr := .literal ⟨.text content, 0, none⟩
    Trimmed isSpace "\tx".toList "\tx".toList ∧ (call "TRIM" [typed "\tx"] 0).evaluate [] {} = .ok (.text "x") ∧
      Replaces [] ['x'] "abc".toList "abc".toList ∧
      (call "REPLACE" [typed "abc", typed "", typed "x"] 0).evaluate [] {} = .ok (.text "xaxbxcx") := by
  intro typed
  have trimmed : Trimmed isSpace "\tx".toList "\tx".toList := ⟨⟨[], [], rfl, nofun, nofun⟩, fun | _, rfl => rfl, fun | _, rfl => rfl⟩
  have replaced : Replaces [] ['x'] "abc".toList "abc".toList := rfl
  exact ⟨trimmed, rfl, replaced, rfl⟩

end ValueExpr

end FormQuery
