import FormQuery.Proofs.TokenEnds

/-! Blanks between tokens carry no meaning. A token ends where it cannot go on, and it cannot go on with a blank either,
so blanks that are put in before a token leave every token as it is and move those behind them. -/

namespace FormQuery

open Text

/-- One text is another with blanks put in somewhere before its end. -/
inductive Spaced (blanks : List Char) : List Char → List Char → Prop
  | here (c : Char) (rest : List Char) : Spaced blanks (c :: rest) (blanks ++ c :: rest)
  | behind (c : Char) {rest spaced : List Char} (further : Spaced blanks rest spaced) :
      Spaced blanks (c :: rest) (c :: spaced)

namespace Spaced

variable {blanks text spaced : List Char}

theorem before (front : List Char) {behind : List Char} (inside : behind ≠ []) :
    Spaced blanks (front ++ behind) (front ++ (blanks ++ behind)) := by
  induction front with
  | nil =>
    obtain ⟨c, rest, rfl⟩ := List.exists_cons_of_ne_nil inside
    exact .here c rest
  | cons d front ih => exact .behind d ih

theorem ne_nil (between : Spaced blanks text spaced) : text ≠ [] := by
  cases between <;> simp

theorem parted (between : Spaced blanks text spaced) (white : ∀ c ∈ blanks, isBlank c = true) : Parted text spaced := by
  induction between with
  | here c rest =>
    cases blanks with
    | nil => exact .same _
    | cons b blanks => exact .here (.inl (white b List.mem_cons_self)) _ _
  | behind c further ih => exact .behind c ih

end Spaced

def Token.shift (places : Nat) (token : Token) : Token := { token with position := token.position + places }

def insertAt (source : String) (position : Nat) (more : List Char) : String :=
  String.ofList (source.toList.take position ++ more ++ source.toList.drop position)

theorem position_le_of_mem {before : List TokenKind} {position : Nat} {text : List Char} {token : Token}
    (member : token ∈ tokensFrom before position text) : position ≤ token.position := by
  obtain ⟨tokens, shape, cut⟩ := tokensFrom_cut before position text
  rw [shape] at member
  obtain inside | last := List.mem_append.mp member
  · exact (cut.placed token inside).1
  · obtain rfl := List.mem_singleton.mp last
    exact Nat.le_add_right _ _

theorem position_le_of_append {before : List TokenKind} {position : Nat} {text : List Char} {earlier later : List Token}
    {token : Token} (tokens : tokensFrom before position text = earlier ++ token :: later) :
    position ≤ token.position :=
  position_le_of_mem (tokens ▸ List.mem_append_cons_self)

theorem nil_of_starts {before : List TokenKind} {position : Nat} {text : List Char} {earlier later : List Token}
    {token : Token} (tokens : tokensFrom before position text = earlier ++ token :: later)
    (starts : token.position = position) : earlier = [] := by
  cases earlier with
  | nil => rfl
  | cons first earlier =>
    cases text with
    | nil => simp [tokensFrom] at tokens
    | cons c rest =>
      by_cases blank : isBlank c = true
      · rw [tokensFrom_blank _ _ _ blank] at tokens
        have := position_le_of_append tokens
        omega
      · rw [tokensFrom_visible blank rfl] at tokens
        have := position_le_of_append (List.cons.inj tokens).2
        omega

theorem tokensFrom_add (before : List TokenKind) (position places : Nat) (text : List Char) :
    tokensFrom before (position + places) text = (tokensFrom before position text).map (Token.shift places) := by
  fun_induction tokensFrom before position text with
  | case1 before position => simp [tokensFrom, Token.shift]
  | case2 before position c rest blank ih => rw [tokensFrom_blank _ _ _ blank, ← ih, Nat.add_right_comm]
  | case3 before position c rest visible found text ih =>
    rw [tokensFrom, if_neg visible, List.map_cons, ← ih, Nat.add_right_comm _ _ places]
    rfl

theorem tokensFrom_blanks (before : List TokenKind) (position : Nat) (text : List Char) {blanks : List Char}
    (white : ∀ c ∈ blanks, isBlank c = true) :
    tokensFrom before position (blanks ++ text) = tokensFrom before (position + blanks.length) text := by
  induction blanks generalizing position with
  | nil => rfl
  | cons b blanks ih =>
    obtain ⟨blank, others⟩ := List.forall_mem_cons.mp white
    rw [List.cons_append, tokensFrom_blank _ _ _ blank, ih _ others, List.length_cons, Nat.add_assoc, Nat.add_comm 1]

/-- Blanks put in where a token starts leave the tokens before it, and move it and the tokens behind it. -/
theorem tokensFrom_insert {before : List TokenKind} {position : Nat} {front behind blanks : List Char}
    {earlier later : List Token} {token : Token} (white : ∀ c ∈ blanks, isBlank c = true) (inside : behind ≠ [])
    (tokens : tokensFrom before position (front ++ behind) = earlier ++ token :: later)
    (starts : token.position = position + front.length) :
    tokensFrom before position (front ++ (blanks ++ behind)) =
      earlier ++ (token :: later).map (Token.shift blanks.length) := by
  induction size : front.length using Nat.strongRecOn generalizing before position front earlier with
  | ind size ih =>
  cases front with
  | nil =>
    obtain rfl := nil_of_starts tokens starts
    rw [List.nil_append, tokensFrom_blanks before position behind white, tokensFrom_add]
    exact congrArg _ tokens
  | cons c front =>
    rw [List.cons_append] at tokens ⊢
    rw [List.length_cons] at starts size
    by_cases blank : isBlank c = true
    · rw [tokensFrom_blank _ _ _ blank] at tokens ⊢
      exact ih front.length (by omega) tokens (by omega) rfl
    · generalize known : lexeme before c (front ++ behind) = found at tokens
      rw [tokensFrom_visible blank known] at tokens
      cases earlier with
      | nil =>
        -- The first token stands in front of the place.
        obtain ⟨rfl, -⟩ := List.cons.inj tokens
        simp only [Lexeme.token] at starts
        omega
      | cons first earlier =>
        obtain ⟨same, tokens⟩ := List.cons.inj tokens
        have further := position_le_of_append tokens
        obtain ⟨word, front, rfl, length⟩ : ∃ word rest, front = word ++ rest ∧ found.more = word.length :=
          ⟨front.take found.more, front.drop found.more, (List.take_append_drop _ _).symm,
            (List.length_take_of_le (by omega)).symm⟩
        have between : Spaced blanks (front ++ behind) (front ++ (blanks ++ behind)) := .before front inside
        rw [List.append_assoc] at known tokens ⊢
        have unmoved := lexeme_parted (between.parted white) before (known ▸ length)
          fun ends => absurd ends between.ne_nil
        rw [tokensFrom_visible blank (unmoved.trans known), ← same]
        rw [length, List.drop_left] at tokens ⊢
        rw [List.length_append] at starts size
        rw [ih front.length (by omega) tokens (by omega) rfl, List.cons_append]
        simp [Lexeme.token, length]

/-- Blanks between tokens carry no meaning. Wherever a token starts, blanks can be put in: the tokens before it stay as
they are, and it and those behind it move on, the end of input with them. -/
theorem tokenize_insertAt {source : String} {earlier later : List Token} {token : Token}
    (tokens : tokenize source = earlier ++ token :: later) (visible : token.kind ≠ .endOfInput) {blanks : List Char}
    (white : ∀ c ∈ blanks, isBlank c = true) :
    tokenize (insertAt source token.position blanks) =
      earlier ++ (token :: later).map (Token.shift blanks.length) := by
  have inside : token.position < source.length := by
    obtain ⟨all, shape, consists⟩ := exists_consists source
    have member : token ∈ tokenize source := tokens ▸ List.mem_append_cons_self
    rw [shape] at member
    obtain member | last := List.mem_append.mp member
    · have long : 0 < token.text.length := by
        rw [Nat.pos_iff_ne_zero, Ne, String.length_eq_zero_iff]
        exact (consists.visible token member).2
      have ends := (consists.placed token member).1
      rw [String.length_toList, Token.stop] at ends
      omega
    · obtain rfl := List.mem_singleton.mp last
      exact absurd rfl visible
  have length := String.length_toList (s := source)
  rw [insertAt, tokenize, String.toList_ofList, List.append_assoc]
  apply tokensFrom_insert white
  · rw [Ne, List.drop_eq_nil_iff]
    omega
  · rw [List.take_append_drop]
    exact tokens
  · rw [List.length_take_of_le (by omega), Nat.zero_add]

theorem tokenize_insertAt_number : tokenize (insertAt "FIELD('a')>=5AND" 12 [' ', '\n']) =
    [⟨.fieldWord, "FIELD", 0, "FIELD"⟩, ⟨.leftParen, "(", 5, "("⟩, ⟨.columnRef, "'a'", 6, "a"⟩,
      ⟨.rightParen, ")", 9, ")"⟩, ⟨.operator, ">=", 10, ">="⟩, ⟨.number, "5", 14, "5"⟩, ⟨.andWord, "AND", 15, "AND"⟩,
      .endAt 18] := by
  have tokens : tokenize "FIELD('a')>=5AND" =
      [⟨.fieldWord, "FIELD", 0, "FIELD"⟩, ⟨.leftParen, "(", 5, "("⟩, ⟨.columnRef, "'a'", 6, "a"⟩,
        ⟨.rightParen, ")", 9, ")"⟩, ⟨.operator, ">=", 10, ">="⟩] ++
      ⟨.number, "5", 12, "5"⟩ :: [⟨.andWord, "AND", 13, "AND"⟩, .endAt 16] := by decide +kernel
  exact tokenize_insertAt tokens (by decide) (List.all_eq_true.mp (by decide))

end FormQuery
