import FormQuery.Proofs.Runs
import FormQuery.Sample.Condition
import FormQuery.Sample.Pattern
import Mathlib.Data.List.Forall2

/-! What patterns match. The meaning of a pattern is a cut of the text into consecutive pieces, one to each of its
characters. The matcher tries beginnings one after the other and finds a cut whenever there is one, and so does the
regular expression that spells the pattern. -/

namespace FormQuery

variable {agree : Char → Char → Bool}

namespace Pattern

/-- The pieces that a character of a pattern takes: `%` takes any piece, `_` any one character, and every other
character one that agrees with it. -/
def Takes (agree : Char → Char → Bool) (p : Char) (piece : List Char) : Prop :=
  p = '%' ∨ ∃ c, piece = [c] ∧ (p = '_' ∨ agree p c = true)

/-- A text can be cut into consecutive pieces, one to each character of a pattern. -/
def Cuts (agree : Char → Char → Bool) (pattern text : List Char) : Prop :=
  ∃ pieces : List (List Char), pieces.flatten = text ∧ List.Forall₂ (Takes agree) pattern pieces

theorem cuts_nil {text : List Char} : Cuts agree [] text ↔ text = [] := by
  constructor
  · rintro ⟨pieces, joined, taken⟩
    cases taken
    exact joined.symm
  · rintro rfl
    exact ⟨[], rfl, .nil⟩

theorem cuts_cons {p : Char} {pattern text : List Char} :
    Cuts agree (p :: pattern) text ↔
      ∃ piece rest, text = piece ++ rest ∧ Takes agree p piece ∧ Cuts agree pattern rest := by
  constructor
  · rintro ⟨pieces, joined, taken⟩
    cases taken with
    | cons first others => exact ⟨_, _, joined.symm, first, _, rfl, others⟩
  · rintro ⟨piece, rest, rfl, first, pieces, rfl, others⟩
    exact ⟨piece :: pieces, rfl, .cons first others⟩

theorem Cuts.mono {other : Char → Char → Bool} (implies : ∀ p c, agree p c = true → other p c = true)
    {pattern text : List Char} (cuts : Cuts agree pattern text) : Cuts other pattern text := by
  obtain ⟨pieces, joined, taken⟩ := cuts
  refine ⟨pieces, joined, taken.imp fun p piece taken => ?_⟩
  exact taken.imp_right fun ⟨c, single, same⟩ => ⟨c, single, same.imp_right (implies p c)⟩

theorem afterSome_iff {accept : List Char → Bool} {text : List Char} :
    afterSome accept text = true ↔ ∃ piece rest, text = piece ++ rest ∧ accept rest = true := by
  induction text with
  | nil => simp [afterSome]
  | cons c text ih =>
    rw [afterSome, Bool.or_eq_true, ih]
    constructor
    · rintro (whole | ⟨piece, rest, rfl, accepted⟩)
      · exact ⟨[], _, rfl, whole⟩
      · exact ⟨c :: piece, rest, rfl, accepted⟩
    · rintro ⟨_ | ⟨first, piece⟩, rest, same, accepted⟩
      · exact .inl (same ▸ accepted)
      · cases same
        exact .inr ⟨piece, rest, rfl, accepted⟩

/-- Trying one beginning after the other misses no cut. -/
theorem matchesBy_iff {pattern text : List Char} : matchesBy agree pattern text = true ↔ Cuts agree pattern text := by
  induction pattern generalizing text with
  | nil => rw [matchesBy, List.isEmpty_iff, cuts_nil]
  | cons p pattern ih =>
    rw [matchesBy.eq_def, cuts_cons]
    simp only
    split
    next any =>
      rw [afterSome_iff]
      refine exists₂_congr fun piece rest => and_congr_right fun _ => ?_
      rw [ih]
      exact ⟨fun cuts => ⟨.inl any, cuts⟩, And.right⟩
    next plain =>
      cases text with
      | nil => simp [Takes, plain]
      | cons c rest =>
        simp only [Bool.and_eq_true, Bool.or_eq_true, decide_eq_true_eq, ih]
        constructor
        · rintro ⟨same, cuts⟩
          exact ⟨[c], rest, rfl, .inr ⟨c, rfl, same⟩, cuts⟩
        · rintro ⟨_, rest, shape, any | ⟨c, rfl, same⟩, cuts⟩
          · exact absurd any plain
          · cases shape
            exact ⟨same, cuts⟩

def part (p : Char) : Expression := if p = '%' then .repeated .any else if p = '_' then .any else .letter p

def expression (pattern : List Char) : Expression := pattern.foldr (fun p rest => .sequence (part p) rest) .nothing

private theorem operators_escaped : ∀ c ∈ Expression.operators, c ∈ escaped := by
  have each : Expression.operators.all (escaped.contains ·) = true := by decide
  exact fun c member => List.contains_iff_mem.mp (List.all_eq_true.mp each c member)

private theorem escaped_plain : ∀ c ∈ escaped, c.isAlphanum = false := by
  have each : escaped.all (!·.isAlphanum) = true := by decide
  exact fun c member => by simpa using List.all_eq_true.mp each c member

/-- A character that is not repeated stays apart from what follows it, since no spelling starts with a star. -/
theorem ofText?_any {pattern : List Char} : Expression.ofText? ('.' :: spelled pattern) =
    (Expression.ofText? (spelled pattern)).map (.sequence .any) := by
  have star : ∀ rest, spelled pattern ≠ '*' :: rest := by
    intro rest
    cases pattern with
    | nil => simp [spelled]
    | cons p pattern =>
      rw [spelled, List.flatMap_cons]
      split
      · simp
      · split
        · simp
        · rw [escape]
          split
          · simp
          next plain =>
            simp only [List.singleton_append, ne_eq, List.cons.injEq, not_and]
            rintro rfl
            exact absurd (by decide) plain
  rw [Expression.ofText?]
  intro rest
  exact star rest

theorem ofText?_escape {p : Char} (rest : List Char) : Expression.ofText? (escape p ++ rest) =
    (Expression.ofText? rest).map (.sequence (.letter p)) := by
  rw [escape]
  split
  next special =>
    rw [List.cons_append, List.singleton_append, Expression.ofText?, if_neg (by simp [escaped_plain p special])]
  next plain =>
    have ordinary : p ∉ Expression.operators := fun operator => plain (operators_escaped p operator)
    have dot : p ≠ '.' := by
      rintro rfl
      exact ordinary (by decide)
    have backslash : p ≠ '\\' := by
      rintro rfl
      exact ordinary (by decide)
    rw [List.singleton_append, Expression.ofText?, if_neg ordinary]
    · rintro rest rfl
      exact absurd rfl dot
    · exact dot
    · rintro c rest rfl
      exact absurd rfl backslash

/-- The spelling of a pattern is read as the expression that was meant, whatever operators the pattern holds. -/
theorem ofText?_spelled (pattern : List Char) : Expression.ofText? (spelled pattern) = some (expression pattern) := by
  induction pattern with
  | nil => rfl
  | cons p pattern ih =>
    have next : spelled (p :: pattern) =
        (if p = '%' then ['.', '*'] else if p = '_' then ['.'] else escape p) ++ spelled pattern := rfl
    have whole : expression (p :: pattern) = .sequence (part p) (expression pattern) := rfl
    rw [next, whole, part]
    split
    · rw [List.cons_append, List.singleton_append, Expression.ofText?, ih]
      rfl
    · split
      · rw [List.singleton_append, ofText?_any, ih]
        rfl
      · rw [ofText?_escape, ih]
        rfl

theorem takes_any_repeated (text : List Char) : Expression.Takes agree (.repeated .any) text := by
  induction text with
  | nil => exact .done
  | cons c text ih => exact .again (.any c) ih

theorem takes_part {p : Char} {piece : List Char} : (part p).Takes agree piece ↔ Takes agree p piece := by
  unfold part Takes
  split
  next any => exact ⟨fun _ => .inl any, fun _ => takes_any_repeated piece⟩
  next plain =>
    simp only [plain, false_or]
    split
    next one =>
      constructor
      · intro taken
        cases taken with
        | any c => exact ⟨c, rfl, .inl one⟩
      · rintro ⟨c, rfl, _⟩
        exact .any c
    next other =>
      constructor
      · intro taken
        cases taken with
        | letter same => exact ⟨_, rfl, .inr same⟩
      · rintro ⟨c, rfl, one | same⟩
        · exact absurd one other
        · exact .letter same

theorem takes_expression {pattern text : List Char} :
    (expression pattern).Takes agree text ↔ Cuts agree pattern text := by
  induction pattern generalizing text with
  | nil =>
    rw [cuts_nil]
    constructor
    · intro taken
      cases taken
      rfl
    · rintro rfl
      exact .nothing
  | cons p pattern ih =>
    have whole : expression (p :: pattern) = .sequence (part p) (expression pattern) := rfl
    rw [whole, cuts_cons]
    constructor
    · intro taken
      cases taken with
      | sequence left right => exact ⟨_, _, rfl, takes_part.mp left, ih.mp right⟩
    · rintro ⟨piece, rest, rfl, first, others⟩
      exact .sequence (takes_part.mpr first) (ih.mpr others)

end Pattern

theorem Text.sameLetter_refl (c : Char) : sameLetter c c = true := beq_self_eq_true (fold c)

namespace Condition

/-- What LIKE and ILIKE with a pattern say of the cells of a column. A cell with a text is accepted when the text can be
cut in the way of the pattern, which is when the expression that spells the pattern takes it; and ILIKE takes letters of
any case for each other, so it accepts whatever LIKE does. -/
structure Fitting (pattern : String) (cells : List Value) (like ilike : List Bool) : Prop where
  length_like : like.length = cells.length
  length_ilike : ilike.length = cells.length
  cuts : ∀ (index : Nat) (text : String), cells[index]? = some (.text text) →
    (like[index]? = some true ↔ Pattern.Cuts (· == ·) pattern.toList text.toList)
  cuts_anyCase : ∀ (index : Nat) (text : String), cells[index]? = some (.text text) →
    (ilike[index]? = some true ↔ Pattern.Cuts Text.sameLetter pattern.toList text.toList)
  spelled : ∃ expression, Expression.ofText? (Pattern.spelled pattern.toList) = some expression ∧
    ∀ (index : Nat) (text : String), cells[index]? = some (.text text) →
      (like[index]? = some true ↔ expression.Takes (· == ·) text.toList) ∧
        (ilike[index]? = some true ↔ expression.Takes Text.sameLetter text.toList)
  wider : ∀ index : Nat, like[index]? = some true → ilike[index]? = some true

theorem likeCell_text (pattern : String) (anyCase : Bool) (text : String) : likeCell pattern anyCase (.text text) =
    if anyCase then Pattern.ilike pattern text else Pattern.like pattern text := rfl

theorem like_iff {pattern text : String} :
    Pattern.like pattern text = true ↔ Pattern.Cuts (· == ·) pattern.toList text.toList :=
  Pattern.matchesBy_iff

theorem ilike_iff {pattern text : String} :
    Pattern.ilike pattern text = true ↔ Pattern.Cuts Text.sameLetter pattern.toList text.toList :=
  Pattern.matchesBy_iff

theorem ilike_of_like {pattern text : String} (fits : Pattern.like pattern text = true) :
    Pattern.ilike pattern text = true := by
  rw [ilike_iff]
  refine (like_iff.mp fits).mono fun p c same => ?_
  obtain rfl : p = c := eq_of_beq same
  exact Text.sameLetter_refl p

theorem likeCell_wider {pattern : String} {cell : Value} (accepted : likeCell pattern false cell = true) :
    likeCell pattern true cell = true := by
  simp only [likeCell, Bool.false_eq_true, if_false, if_true, Bool.and_eq_true] at accepted ⊢
  exact ⟨accepted.1, ilike_of_like accepted.2⟩

variable {layout : Layout} {condition : Condition} {pattern : String}

/-- Patterns mean cuts, on every column that can be read, and they are always evaluated there. -/
theorem rowMask_cuts (like : condition.operator = .like) (quoted : condition.value.value = .text pattern)
    {rows : List Row} {cells : List Value} (read : Row.column rows condition.column layout = .ok cells) :
    ∃ mask anyCase, condition.rowMask rows layout = .ok mask ∧
      ({ condition with operator := .ilike } : Condition).rowMask rows layout = .ok anyCase ∧
      Fitting pattern cells mask anyCase := by
  refine ⟨cells.map (likeCell pattern false), cells.map (likeCell pattern true), ?_, ?_, ?_⟩
  · rw [rowMask, bind_ok read, mask, like, quoted]
    rfl
  · rw [rowMask, bind_ok read, mask, quoted]
    rfl
  have shown {anyCase : Bool} {index : Nat} {text : String} (found : cells[index]? = some (.text text)) :
      (cells.map (likeCell pattern anyCase))[index]? =
        some (if anyCase then Pattern.ilike pattern text else Pattern.like pattern text) := by
    rw [List.getElem?_map, found, Option.map_some, likeCell_text]
  constructor
  · exact List.length_map _
  · exact List.length_map _
  · intro index text found
    simp [shown found, like_iff]
  · intro index text found
    simp [shown found, ilike_iff]
  · refine ⟨_, Pattern.ofText?_spelled pattern.toList, fun index text found => ?_⟩
    simp [shown found, like_iff, ilike_iff, Pattern.takes_expression]
  · intro index accepted
    rw [List.getElem?_map, Option.map_eq_some_iff] at accepted ⊢
    obtain ⟨cell, found, fits⟩ := accepted
    exact ⟨cell, found, likeCell_wider fits⟩

theorem rowMask_cuts_lineEnd :
    let condition : Condition := ⟨⟨"note", 0, false⟩, .like, ⟨.text "%.*_b%", 0, none⟩⟩
    let rows : List Row := [⟨[], .record [("note", .text "x.*\nbc")]⟩, ⟨[], .record [("note", .text "x..\nb")]⟩]
    let cells : List Value := [.text "x.*\nbc", .text "x..\nb"]
    Row.column rows condition.column {} = .ok cells ∧
      ∃ mask anyCase, condition.rowMask rows {} = .ok mask ∧ Fitting "%.*_b%" cells mask anyCase ∧
        mask[0]? = some true ∧ mask[1]? ≠ some true := by
  intro condition rows cells
  have read : Row.column rows condition.column {} = .ok cells := rfl
  obtain ⟨mask, anyCase, ran, _, fitting⟩ := rowMask_cuts rfl rfl read
  refine ⟨read, mask, anyCase, ran, fitting, ?_, ?_⟩
  · rw [fitting.cuts 0 _ rfl, ← Pattern.matchesBy_iff]
    decide +kernel
  · rw [ne_eq, fitting.cuts 1 _ rfl, ← Pattern.matchesBy_iff]
    decide +kernel

end Condition

end FormQuery
