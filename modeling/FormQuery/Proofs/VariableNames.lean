import FormQuery.Proofs.AsciiLetters
import FormQuery.Settings.Tree

/-! The paths that environment variables spell. Behind the mark, a name is parted at pairs of underscores, the first
pair first, and every part is taken in small letters. The parts keep the letters of the name but for their case: names
that spell one path are one name in small letters. -/

namespace FormQuery

namespace Text

theorem underscore_uncased : skippedRanges.has '_' = false ∧ casedRanges.has '_' = false ∧ lowerChar '_' = '_' :=
  ⟨by decide +kernel, by decide +kernel, lowerChar_ascii (by decide)⟩

/-- What stands behind an underscore is no context for what stands before it. -/
theorem startsCased_append (text behind : List Char) : startsCased (text ++ '_' :: behind) = startsCased text := by
  have stops : ('_' :: behind).dropWhile skippedRanges.has = '_' :: behind := by
    rw [List.dropWhile_cons_of_neg (by simp [underscore_uncased.1])]
  rw [startsCased, startsCased, List.dropWhile_append, stops]
  cases text.dropWhile skippedRanges.has with
  | nil => exact underscore_uncased.2.1
  | cons c rest => rfl

theorem lowerAfter_append (before front behind : List Char) : lowerAfter before (front ++ '_' :: behind) =
    lowerAfter before front ++ lowerAfter (front.reverse ++ before) ('_' :: behind) := by
  induction front generalizing before with
  | nil => rfl
  | cons c front ih =>
    rw [List.cons_append, lowerAfter, lowerAfter, startsCased_append, ih, List.reverse_cons, List.append_assoc,
      List.append_assoc, List.singleton_append]

theorem lowerAfter_behind (before further text : List Char) :
    lowerAfter (before ++ '_' :: further) text = lowerAfter before text := by
  induction text generalizing before with
  | nil => rfl
  | cons c rest ih => rw [lowerAfter, lowerAfter, startsCased_append, ← List.cons_append, ih]

theorem lower_append (front behind : List Char) :
    lower (front ++ '_' :: behind) = lower front ++ '_' :: lower behind := by
  have sign : ('_' : Char).toNat = 95 := rfl
  rw [lower, lowerAfter_append, lowerAfter, if_neg (by omega), if_neg (by omega), underscore_uncased.2.2,
    ← List.nil_append ('_' :: (front.reverse ++ [])), lowerAfter_behind]
  rfl

end Text

namespace Settings

open Text

def pair : List Char := ['_', '_']

/-- The parts of a text between pairs of underscores. A pair is taken as early as there is one. -/
inductive PartedByPairs : List Char → List (List Char) → Prop
  | last {part : List Char} (single : ¬pair <:+: part) : PartedByPairs part [part]
  | more {part rest : List Char} {parts : List (List Char)} (first : ¬pair <:+: part ++ ['_'])
      (others : PartedByPairs rest parts) : PartedByPairs (part ++ pair ++ rest) (part :: parts)

namespace Tree

theorem nameParts_pair (part rest : List Char) : nameParts part (pair ++ rest) = part.reverse :: nameParts [] rest := by
  rw [pair, List.cons_append, List.singleton_append, nameParts]

theorem nameParts_cons {part : List Char} {c : Char} {rest : List Char} (other : ¬pair <+: c :: rest) :
    nameParts part (c :: rest) = nameParts (c :: part) rest := by
  rw [nameParts]
  intro more here behind
  apply other
  rw [here, behind]
  exact ⟨more, rfl⟩

/-- Up to its first pair a text is one part. -/
theorem nameParts_first (before : List Char) {part : List Char} (first : ¬pair <:+: part ++ ['_']) (rest : List Char) :
    nameParts before (part ++ pair ++ rest) = (before.reverse ++ part) :: nameParts [] rest := by
  induction part generalizing before with
  | nil => rw [List.nil_append, nameParts_pair, List.append_nil]
  | cons c part ih =>
    have inside : ¬pair <:+: part ++ ['_'] := fun later => first (later.trans (List.suffix_cons c _).isInfix)
    have other : ¬pair <+: c :: (part ++ pair ++ rest) := by
      intro starts
      apply first
      have short : pair <+: c :: part ++ ['_'] := by
        refine List.prefix_of_prefix_length_le starts ?_ (by simp [pair])
        exact ⟨'_' :: rest, by simp [pair]⟩
      exact short.isInfix
    rw [List.cons_append, List.cons_append, nameParts_cons other, ih _ inside, List.reverse_cons, List.append_assoc,
      List.singleton_append]

theorem nameParts_single (before : List Char) {part : List Char} (single : ¬pair <:+: part) :
    nameParts before part = [before.reverse ++ part] := by
  induction part generalizing before with
  | nil => rw [nameParts, List.append_nil]
  | cons c part ih =>
    have inside : ¬pair <:+: part := fun later => single (later.trans (List.suffix_cons c _).isInfix)
    rw [nameParts_cons fun starts => single starts.isInfix, ih _ inside, List.reverse_cons, List.append_assoc,
      List.singleton_append]

theorem no_pair_in_one (text : List Char) : ¬pair <:+: text.take 1 := by
  intro inside
  have short : pair.length ≤ 1 := Nat.le_trans inside.length_le (List.length_take_le 1 text)
  contradiction

/-- Reading goes on as long as what is taken, with the next character, has no pair in it. -/
theorem partedByPairs_nameParts (before text : List Char) (single : ¬pair <:+: before.reverse ++ text.take 1) :
    PartedByPairs (before.reverse ++ text) (nameParts before text) := by
  fun_induction nameParts before text with
  | case1 before =>
    rw [List.append_nil]
    exact .last (by simpa using single)
  | case2 before rest ih =>
    have others : PartedByPairs rest (nameParts [] rest) := ih (no_pair_in_one rest)
    have parted : PartedByPairs (before.reverse ++ pair ++ rest) (before.reverse :: nameParts [] rest) :=
      .more (by simpa using single) others
    simpa [pair] using parted
  | case3 before c rest other ih =>
    have parted := ih ?_
    · simpa using parted
    · intro inside
      rw [List.reverse_cons] at inside
      cases rest with
      | nil => exact single (by simpa using inside)
      | cons d rest =>
        rw [List.take_succ_cons, List.take_zero, List.infix_concat_iff] at inside
        -- A pair that ends with the next character is these two characters, and they are none.
        rcases inside with ends | before
        · rw [List.append_assoc, List.singleton_append] at ends
          have last : pair <:+ [c, d] := List.suffix_of_suffix_length_le ends (List.suffix_append _ _) (by simp [pair])
          obtain ⟨rfl, rfl⟩ : '_' = c ∧ '_' = d := by simpa [pair] using last.eq_of_length rfl
          exact other rest rfl rfl
        · exact single (by simpa using before)

theorem nameParts_eq_iff {text : List Char} {parts : List (List Char)} :
    nameParts [] text = parts ↔ PartedByPairs text parts := by
  constructor
  · intro read
    subst read
    exact partedByPairs_nameParts [] text (no_pair_in_one text)
  · intro parted
    induction parted with
    | last single => exact nameParts_single [] single
    | more first others ih => rw [nameParts_first [] first, ih, List.reverse_nil, List.nil_append]

end Tree

/-- Whether a name spells a path of sections and a leaf. -/
def SpellsPath (name : String) (path : List String) : Prop :=
  ∃ text parts, name.toList = Tree.variableMark ++ text ∧ PartedByPairs text parts ∧ 2 ≤ parts.length ∧
    path = parts.map fun part => String.ofList (lower part)

theorem spells_nil (name : String) : ¬SpellsPath name [] := by
  intro spells
  obtain ⟨text, parts, -, -, many, path⟩ := spells
  rw [List.map_eq_nil_iff.mp path.symm] at many
  cases many

theorem not_spells_configVariable (path : List String) : ¬SpellsPath Tree.configVariable path := by
  intro spells
  obtain ⟨text, parts, marked, parted, many, -⟩ := spells
  have whole : Tree.variableMark ++ text = Tree.variableMark ++ "CONFIG".toList := by
    rw [← marked]
    rfl
  have known : text = "CONFIG".toList := List.append_cancel_left whole
  have single : parts = ["CONFIG".toList] := by rw [← Tree.nameParts_eq_iff.mpr parted, known]; rfl
  rw [single] at many
  contradiction

theorem variablePath?_eq_some {name leaf : String} {sections : List String} :
    Tree.variablePath? name = some (sections, leaf) ↔ SpellsPath name (sections ++ [leaf]) := by
  constructor
  · intro read
    rw [Tree.variablePath?] at read
    split at read
    next => cases read
    next marked =>
      simp only [Bool.or_eq_true, decide_eq_true_eq, Bool.not_eq_true', not_or, Bool.not_eq_false,
        List.isPrefixOf_iff_prefix] at marked
      obtain ⟨-, text, typed⟩ := marked
      rw [← typed, List.drop_left] at read
      simp only at read
      split at read
      next last first further shape =>
        obtain ⟨rfl, rfl⟩ := Prod.mk.inj (Option.some.inj read)
        rw [List.reverse_eq_iff, List.reverse_cons] at shape
        refine ⟨text, _, typed.symm, Tree.nameParts_eq_iff.mp rfl, ?_, shape.symm⟩
        have length := congrArg List.length shape
        simp at length
        omega
      next => cases read
  · intro spells
    have setting : name ≠ Tree.configVariable := fun same => not_spells_configVariable _ (same ▸ spells)
    obtain ⟨text, parts, typed, parted, many, path⟩ := spells
    have marked : Tree.variableMark.isPrefixOf name.toList = true := by
      rw [typed]
      exact List.isPrefixOf_iff_prefix.mpr (List.prefix_append _ _)
    rw [Tree.variablePath?, if_neg (by simp [setting, marked]), typed, List.drop_left, Tree.nameParts_eq_iff.mpr parted]
    simp only [← path, List.reverse_append, List.reverse_singleton, List.singleton_append]
    have length := congrArg List.length path
    rw [List.length_append, List.length_singleton, List.length_map] at length
    cases shape : sections.reverse with
    | nil =>
      rw [List.reverse_eq_nil_iff.mp shape] at length
      simp at length
      omega
    | cons first further =>
      simp only
      rw [← shape, List.reverse_reverse]

/-- A variable assigns its text to the path that its name spells. -/
theorem assignment?_eq_some {name own text : String} {path : List String} :
    assignment? (name, own) = some (path, text) ↔ SpellsPath name path ∧ own = text := by
  constructor
  · intro read
    obtain ⟨⟨sections, leaf⟩, spelled, same⟩ := Option.map_eq_some_iff.mp read
    obtain ⟨rfl, rfl⟩ := Prod.mk.inj same
    exact ⟨variablePath?_eq_some.mp spelled, rfl⟩
  · intro spelled
    obtain ⟨spells, rfl⟩ := spelled
    rcases path.eq_nil_or_concat with rfl | ⟨sections, leaf, rfl⟩
    · exact absurd spells (spells_nil name)
    · rw [List.concat_eq_append] at spells ⊢
      simp only [assignment?, variablePath?_eq_some.mpr spells, Option.map_some]

theorem mem_assignments {environment : List (String × String)} {path : List String} {text : String} :
    (path, text) ∈ assignments environment ↔ ∃ name, (name, text) ∈ environment ∧ SpellsPath name path := by
  rw [assignments, List.mem_filterMap]
  constructor
  · intro assigns
    obtain ⟨⟨name, own⟩, member, read⟩ := assigns
    obtain ⟨spells, rfl⟩ := assignment?_eq_some.mp read
    exact ⟨name, member, spells⟩
  · intro spelled
    obtain ⟨name, member, spells⟩ := spelled
    exact ⟨(name, text), member, assignment?_eq_some.mpr ⟨spells, rfl⟩⟩

theorem lower_of_parted {text : List Char} {parts : List (List Char)} (parted : PartedByPairs text parts) :
    lower text = pair.intercalate (parts.map lower) := by
  induction parted with
  | last single => simp
  | @more part rest parts first others ih =>
    have some_part : parts ≠ [] := by
      cases others <;> exact List.cons_ne_nil _ _
    have apart : lower (part ++ pair ++ rest) = lower part ++ pair ++ lower rest := by
      have one : part ++ pair ++ rest = part ++ '_' :: ([] ++ '_' :: rest) := by simp [pair]
      rw [one, lower_append, lower_append]
      simp [pair, lower, lowerAfter]
    cases parts with
    | nil => exact absurd rfl some_part
    | cons next further => rw [apart, ih, List.map_cons, List.map_cons, List.map_cons, List.intercalate_cons_cons]

theorem lower_eq_of_spells {one other : String} {path : List String} (here : SpellsPath one path)
    (there : SpellsPath other path) : lower one.toList = lower other.toList := by
  obtain ⟨text, parts, typed, parted, -, rfl⟩ := here
  obtain ⟨again, others, retyped, reparted, -, same⟩ := there
  have mark : Tree.variableMark = "FORMQL".toList ++ ['_'] := rfl
  have small : parts.map lower = others.map lower := by
    have letters := congrArg (List.map String.toList) same
    simpa [Function.comp_def] using letters
  rw [typed, retyped, mark, List.append_assoc, List.append_assoc, List.singleton_append, List.singleton_append,
    lower_append, lower_append, lower_of_parted parted, lower_of_parted reparted, small]

end Settings

end FormQuery
