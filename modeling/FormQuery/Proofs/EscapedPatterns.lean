import FormQuery.Proofs.ClauseReading
import FormQuery.Proofs.PatternMeaning
import FormQuery.Sql.Statement
import FormQuery.Sql.Texts

/-! Patterns that are meant as texts. A database takes a backslash in a pattern for the sign that the next character
stands for itself; a sample takes it for a character. So the two read a pattern alike as long as it has no backslash,
and the pattern for exactly one text finds this text in a sample only where nothing in it had to be protected. -/

namespace FormQuery

open Sql

namespace Pattern

theorem isSpecial_iff {c : Char} : isSpecial c = true ↔ c = '%' ∨ c = '_' ∨ c = '\\' := by
  simp [isSpecial, or_assoc]

theorem toList_exactly (text : String) : (exactly text).toList = text.toList.flatMap protect := String.toList_ofList

theorem patternParts?_cons {c : Char} (plain : c ≠ '\\') (rest : List Char) :
    patternParts? (c :: rest) = (patternParts? rest).map (.ofChar c :: ·) := by
  rw [patternParts?]
  intro same
  exact absurd same plain

theorem patternParts?_protect (c : Char) (rest : List Char) :
    patternParts? (protect c ++ rest) = (patternParts? rest).map (.letter c :: ·) := by
  unfold protect
  split
  next => rw [List.cons_append, List.singleton_append, patternParts?]
  next plain =>
    simp only [isSpecial_iff, not_or] at plain
    rw [List.singleton_append, patternParts?_cons plain.2.2, PatternPart.ofChar, if_neg plain.1, if_neg plain.2.1]

theorem patternParts?_exactly (text : List Char) :
    patternParts? (text.flatMap protect) = some (text.map .letter) := by
  induction text with
  | nil => rfl
  | cons c text ih => rw [List.flatMap_cons, patternParts?_protect, ih, Option.map_some, List.map_cons]

theorem take_letters {text other : List Char} : Take (text.map .letter) other ↔ other = text := by
  induction text generalizing other with
  | nil =>
    constructor
    · intro taken
      cases taken
      rfl
    · intro same
      rw [same]
      exact .nil
  | cons c text ih =>
    constructor
    · intro taken
      cases taken with
      | letter c others => rw [ih.mp others]
    · intro same
      rw [same]
      exact .letter c (ih.mpr rfl)

theorem likes_exactly {text other : String} : Likes (exactly text) other ↔ other = text := by
  rw [Likes, toList_exactly, patternParts?_exactly, ← String.toList_inj]
  simp [take_letters]

section Cuts

variable {pattern text : List Char}

theorem cuts_any : Cuts (· == ·) ('%' :: pattern) text ↔
    ∃ piece rest, text = piece ++ rest ∧ Cuts (· == ·) pattern rest := by
  simp [cuts_cons, Takes]

theorem cuts_one : Cuts (· == ·) ('_' :: pattern) text ↔ ∃ c rest, text = c :: rest ∧ Cuts (· == ·) pattern rest := by
  rw [cuts_cons]
  constructor
  · intro ⟨piece, rest, shape, taken, cuts⟩
    obtain ⟨c, single, _⟩ := taken.resolve_left (by decide)
    exact ⟨c, rest, by rw [shape, single]; rfl, cuts⟩
  · intro ⟨c, rest, shape, cuts⟩
    exact ⟨[c], rest, shape, .inr ⟨c, rfl, .inl rfl⟩, cuts⟩

theorem cuts_letter {c : Char} (any : c ≠ '%') (one : c ≠ '_') :
    Cuts (· == ·) (c :: pattern) text ↔ ∃ rest, text = c :: rest ∧ Cuts (· == ·) pattern rest := by
  rw [cuts_cons]
  constructor
  · intro ⟨piece, rest, shape, taken, cuts⟩
    obtain ⟨d, single, same⟩ := taken.resolve_left any
    have equal : c = d := by simpa using same.resolve_left one
    exact ⟨rest, by rw [shape, single, equal]; rfl, cuts⟩
  · intro ⟨rest, shape, cuts⟩
    exact ⟨[c], rest, shape, .inr ⟨c, rfl, .inr (beq_self_eq_true c)⟩, cuts⟩

end Cuts

theorem take_ofChar {c : Char} {parts : List PatternPart} {pattern text : List Char}
    (alike : ∀ text, Take parts text ↔ Cuts (· == ·) pattern text) :
    Take (.ofChar c :: parts) text ↔ Cuts (· == ·) (c :: pattern) text := by
  unfold PatternPart.ofChar
  split
  next any =>
    rw [any, cuts_any]
    constructor
    · intro taken
      cases taken with
      | any piece others => exact ⟨piece, _, rfl, (alike _).mp others⟩
    · intro ⟨piece, rest, shape, cuts⟩
      rw [shape]
      exact .any piece ((alike rest).mpr cuts)
  next any =>
    split
    next one =>
      rw [one, cuts_one]
      constructor
      · intro taken
        cases taken with
        | one c others => exact ⟨c, _, rfl, (alike _).mp others⟩
      · intro ⟨c, rest, shape, cuts⟩
        rw [shape]
        exact .one c ((alike rest).mpr cuts)
    next one =>
      rw [cuts_letter any one]
      constructor
      · intro taken
        cases taken with
        | letter c others => exact ⟨_, rfl, (alike _).mp others⟩
      · intro ⟨rest, shape, cuts⟩
        rw [shape]
        exact .letter c ((alike rest).mpr cuts)

/-- Without a backslash a pattern means in a sample what it means in a database. -/
theorem likes_iff {pattern text : String} (plain : '\\' ∉ pattern.toList) :
    Likes pattern text ↔ Pattern.like pattern text = true := by
  rw [Condition.like_iff, Likes]
  generalize pattern.toList = pattern at plain
  have read : ∃ parts, patternParts? pattern = some parts ∧ ∀ text, Take parts text ↔ Cuts (· == ·) pattern text := by
    induction pattern with
    | nil =>
      refine ⟨[], rfl, fun text => ?_⟩
      rw [cuts_nil]
      exact @take_letters [] text
    | cons c pattern ih =>
      simp only [List.mem_cons, not_or] at plain
      obtain ⟨parts, found, alike⟩ := ih plain.2
      refine ⟨.ofChar c :: parts, ?_, fun text => take_ofChar alike⟩
      rw [patternParts?_cons (Ne.symm plain.1), found, Option.map_some]
  obtain ⟨parts, found, alike⟩ := read
  simp [found, alike]

/-- A text as the pattern for another one takes it in a sample: a backslash stands before each special character, which
means what it means without one. -/
inductive Expands : List Char → List Char → Prop
  | nil : Expands [] []
  | any {text rest : List Char} (piece : List Char) (others : Expands text rest) :
      Expands ('%' :: text) ('\\' :: (piece ++ rest))
  | one {text rest : List Char} (c : Char) (others : Expands text rest) : Expands ('_' :: text) ('\\' :: c :: rest)
  | backslash {text rest : List Char} (others : Expands text rest) : Expands ('\\' :: text) ('\\' :: '\\' :: rest)
  | plain {c : Char} {text rest : List Char} (ordinary : isSpecial c = false) (others : Expands text rest) :
      Expands (c :: text) (c :: rest)

variable {text other : List Char}

theorem cuts_protect {c : Char} {rest : List Char} (alike : ∀ other, Cuts (· == ·) rest other ↔ Expands text other) :
    Cuts (· == ·) (protect c ++ rest) other ↔ Expands (c :: text) other := by
  unfold protect
  split
  next special =>
    rw [List.cons_append, List.singleton_append, cuts_letter (by decide) (by decide)]
    constructor
    · intro ⟨behind, shape, cuts⟩
      rw [shape]
      rcases isSpecial_iff.mp special with any | one | backslash
      · rw [any, cuts_any] at cuts
        obtain ⟨piece, last, same, cuts⟩ := cuts
        rw [any, same]
        exact .any piece ((alike last).mp cuts)
      · rw [one, cuts_one] at cuts
        obtain ⟨d, last, same, cuts⟩ := cuts
        rw [one, same]
        exact .one d ((alike last).mp cuts)
      · rw [backslash, cuts_letter (by decide) (by decide)] at cuts
        obtain ⟨last, same, cuts⟩ := cuts
        rw [backslash, same]
        exact .backslash ((alike last).mp cuts)
    · intro expands
      cases expands with
      | any piece others => exact ⟨_, rfl, cuts_any.mpr ⟨piece, _, rfl, (alike _).mpr others⟩⟩
      | one d others => exact ⟨_, rfl, cuts_one.mpr ⟨d, _, rfl, (alike _).mpr others⟩⟩
      | backslash others =>
        exact ⟨_, rfl, (cuts_letter (by decide) (by decide)).mpr ⟨_, rfl, (alike _).mpr others⟩⟩
      | plain ordinary others => exact absurd special (by simp [ordinary])
  next ordinary =>
    have plain := ordinary
    simp only [isSpecial_iff, not_or] at plain
    rw [List.singleton_append, cuts_letter plain.1 plain.2.1]
    constructor
    · intro ⟨last, shape, cuts⟩
      rw [shape]
      exact .plain (Bool.eq_false_iff.mpr ordinary) ((alike last).mp cuts)
    · intro expands
      cases expands with
      | plain _ others => exact ⟨_, rfl, (alike _).mpr others⟩
      | any | one | backslash => exact absurd (by decide) ordinary

theorem cuts_exactly : Cuts (· == ·) (text.flatMap protect) other ↔ Expands text other := by
  induction text generalizing other with
  | nil =>
    rw [List.flatMap_nil, cuts_nil]
    constructor
    · intro same
      rw [same]
      exact .nil
    · intro expands
      cases expands
      rfl
  | cons c text ih =>
    rw [List.flatMap_cons]
    exact cuts_protect fun other => ih

theorem Expands.count_le (expands : Expands text other) :
    text.count '\\' + text.countP isSpecial ≤ other.count '\\' := by
  induction expands with
  | nil => simp
  | any piece others ih =>
    have own : isSpecial '%' = true := rfl
    simp only [List.count_cons, List.countP_cons, List.count_append, own]
    simp
    omega
  | one c others ih =>
    have own : isSpecial '_' = true := rfl
    simp only [List.count_cons, List.countP_cons, own]
    simp
    omega
  | backslash others ih =>
    have own : isSpecial '\\' = true := rfl
    simp only [List.count_cons, List.countP_cons, own]
    simp
    omega
  | plain ordinary others ih =>
    simp only [List.count_cons, List.countP_cons, ordinary]
    simp
    omega

/-- Only a text without special characters is found by the pattern for it. -/
theorem Expands.ordinary (expands : Expands text text) : ∀ c ∈ text, isSpecial c = false := by
  have none : text.countP isSpecial = 0 := by
    have := expands.count_le
    omega
  simpa using none

theorem exactly_of_ordinary {text : String} (ordinary : ∀ c ∈ text.toList, isSpecial c = false) :
    exactly text = text := by
  rw [← String.toList_inj, toList_exactly]
  have each : ∀ c ∈ text.toList, protect c = [c] := fun c member => by simp [protect, ordinary c member]
  rw [List.flatMap_congr each, List.flatMap_singleton']

end Pattern

namespace Sql

theorem symbolsOf?_text {sql : Sql} (legible : Legible (fun piece => piece.isClean ∧ piece.isWhole) sql) :
    symbolsOf? sql.text = some sql.symbols := by
  rw [symbolsOf?, scan_text (legible.mono fun _ => And.left), Option.map_some, symbolsFrom_marks legible]

theorem symbols_like {layout : Layout} {column : ColumnRef} {pattern : String} {position : Nat} {sql : Sql}
    (ran : Sql.condition layout ⟨column, .like, ⟨.text pattern, position, none⟩⟩ = .ok sql) :
    ∃ operand, Sql.column column layout = .ok operand ∧
      sql.symbols = operand.symbols ++ [.word "LIKE", .literal pattern] := by
  obtain ⟨operand, found, ran⟩ := ok_of_bind ran
  have written : Except.ok (operand ++ [.code " LIKE ", .literal pattern]) = .ok sql := ran
  refine ⟨operand, found, ?_⟩
  rw [← Except.ok.inj written, symbols_append]
  rfl

end Sql

theorem Row.physical_of_column {layout : Layout} {ref : ColumnRef} {rows : List Row} {cells : List Value}
    (read : Row.column rows ref layout = .ok cells) (pseudo : ref.pseudo = true) :
    ∃ physical, layout.physical ref.name = .ok physical := by
  rw [Row.column, if_pos pseudo] at read
  obtain ⟨physical, found, _⟩ := ok_of_bind read
  exact ⟨physical, found⟩

namespace Condition

open Pattern

/-- What LIKE with the pattern for exactly one text says of the cells of a column. It finds the text where nothing in it
had to be protected; any other text it never finds, but expansions of it. -/
structure FindsExactly (text : String) (cells : List Value) (mask : List Bool) : Prop where
  length : mask.length = cells.length
  null : ∀ index : Nat, cells[index]? = some .null → mask[index]? = some false
  expanded : ∀ (index : Nat) (cell : Value), cells[index]? = some cell → cell.isNull = false →
    (mask[index]? = some true ↔ Expands text.toList cell.display.toList)
  found : (∀ c ∈ text.toList, isSpecial c = false) → ∀ (index : Nat) (cell : Value), cells[index]? = some cell →
    cell.isNull = false → (mask[index]? = some true ↔ cell.display = text)
  missed : ∀ c ∈ text.toList, isSpecial c = true → ∀ (index : Nat) (cell : Value), cells[index]? = some cell →
    cell.display = text → mask[index]? = some false

theorem like_exactly {text other : String} : like (exactly text) other = true ↔ Expands text.toList other.toList := by
  rw [like_iff, toList_exactly, cuts_exactly]

theorem findsExactly (text : String) (cells : List Value) :
    FindsExactly text cells (cells.map (likeCell (exactly text) false)) := by
  have shown {index : Nat} {cell : Value} (at_index : cells[index]? = some cell) :
      (cells.map (likeCell (exactly text) false))[index]? =
        some (!cell.isNull && like (exactly text) cell.display) := by
    rw [List.getElem?_map, at_index]
    rfl
  constructor
  · exact List.length_map _
  · intro index at_index
    rw [shown at_index]
    rfl
  · intro index cell at_index some_cell
    rw [shown at_index, some_cell, Bool.not_false, Bool.true_and, Option.some_inj, like_exactly]
  · intro ordinary index cell at_index some_cell
    have plain : '\\' ∉ text.toList := fun member => Bool.false_ne_true (ordinary _ member).symm
    have same := exactly_of_ordinary ordinary
    rw [shown at_index, some_cell, Bool.not_false, Bool.true_and, Option.some_inj, same, ← likes_iff plain]
    have exact_match := @likes_exactly text cell.display
    rwa [same] at exact_match
  · intro c member special index cell at_index same
    have unlike : like (exactly text) cell.display = false := by
      rw [← Bool.not_eq_true, like_exactly, same]
      intro expands
      rw [expands.ordinary c member] at special
      cases special
    rw [shown at_index, unlike, Bool.and_false]

variable {layout : Layout}

/-- LIKE with the pattern for exactly one text. The statement has this pattern as it is, and a database finds the text
and no other with it, whatever the text holds; in a sample a backslash protects nothing. -/
theorem rowMask_exactly (plain : layout.IsPlain) {column : ColumnRef} (valid : column.WellFormed) (text : String)
    (position : Nat) {rows : List Row} {cells : List Value} (read : Row.column rows column layout = .ok cells) :
    let condition : Condition := ⟨column, .like, ⟨.text (exactly text), position, none⟩⟩
    (∃ sql operand, Sql.condition layout condition = .ok sql ∧ Sql.column column layout = .ok operand ∧
      symbolsOf? sql.text = some (operand.symbols ++ [.word "LIKE", .literal (exactly text)])) ∧
    (∀ other, Likes (exactly text) other ↔ other = text) ∧
    ∃ mask, condition.rowMask rows layout = .ok mask ∧ FindsExactly text cells mask := by
  intro condition
  have like_known : Comparison.like ∈ Comparison.known := by decide
  have known : condition.WellFormed := ⟨valid, like_known, .inl ⟨_, rfl, rfl⟩, fun _ => ⟨_, rfl, rfl⟩⟩
  have ran : condition.rowMask rows layout = .ok (cells.map (likeCell (exactly text) false)) := bind_ok read _
  refine ⟨?_, fun other => likes_exactly, _, ran, findsExactly text cells⟩
  obtain ⟨operand, shown⟩ : ∃ operand, Sql.column column layout = .ok operand := by
    unfold Sql.column
    split
    next pseudo =>
      obtain ⟨physical, found⟩ := Row.physical_of_column read pseudo
      exact ⟨_, bind_ok found _⟩
    next => exact ⟨_, rfl⟩
  have written : ∃ sql, Sql.condition layout condition = .ok sql := ⟨_, bind_ok shown _⟩
  obtain ⟨sql, written⟩ := written
  obtain ⟨_, again, symbols⟩ := symbols_like written
  cases shown.symm.trans again
  have legible := legible_condition suits_whole (whole_names plain) known nofun written
  exact ⟨sql, operand, written, shown, symbols ▸ symbolsOf?_text legible⟩

/-- The pattern for one half of a hundred percent finds what starts like it, with a backslash in between. -/
theorem rowMask_exactly_percent :
    let condition : Condition := ⟨⟨"rate", 0, false⟩, .like, ⟨.text (exactly "50%"), 0, none⟩⟩
    let rows : List Row := [⟨[], .record [("rate", .text "50%")]⟩, ⟨[], .record [("rate", .text "50\\ of 100")]⟩]
    let cells : List Value := [.text "50%", .text "50\\ of 100"]
    Layout.IsPlain {} ∧ condition.column.WellFormed ∧ Row.column rows condition.column {} = .ok cells ∧
      exactly "50%" = "50\\%" ∧ Likes (exactly "50%") "50%" ∧
      ∃ mask, condition.rowMask rows {} = .ok mask ∧ FindsExactly "50%" cells mask ∧
        mask[0]? = some false ∧ mask[1]? = some true := by
  intro condition rows cells
  have plain : Layout.IsPlain {} := by decide
  have valid : condition.column.WellFormed := nofun
  have read : Row.column rows condition.column {} = .ok cells := rfl
  obtain ⟨_, likes, mask, ran, finds⟩ := rowMask_exactly plain valid "50%" 0 read
  refine ⟨plain, valid, read, by decide +kernel, (likes _).mpr rfl, mask, ran, finds, ?_, ?_⟩
  · exact finds.missed '%' (by decide) rfl 0 _ rfl rfl
  · rw [finds.expanded 1 _ rfl rfl]
    exact .plain rfl (.plain rfl (.any " of 100".toList .nil))

/-- A database finds a percent sign with the pattern for it, and a sample does not. -/
theorem percent_missed :
    let condition : Condition := ⟨⟨"rate", 0, false⟩, .like, ⟨.text (exactly "%"), 0, none⟩⟩
    let rows : List Row := [⟨[], .record [("rate", .text "%")]⟩]
    Row.column rows condition.column {} = .ok [.text "%"] ∧ Likes (exactly "%") "%" ∧
      condition.rowMask rows {} = .ok [false] := by
  intro condition rows
  refine ⟨rfl, ⟨[.letter '%'], by decide +kernel, .letter '%' .nil⟩, ?_⟩
  have ran : condition.rowMask rows {} = .ok [likeCell (exactly "%") false (.text "%")] := rfl
  have unlike : likeCell (exactly "%") false (.text "%") = false := by decide +kernel
  rw [ran, unlike]

end Condition

end FormQuery
