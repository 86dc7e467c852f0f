import FormQuery.Token.Lexer

/-! What the tokens of a text look like. The kind of a token settles which values it can have, so a reader of tokens may
rely on the spelling of numbers and on the words behind operators, aggregates and functions. -/

namespace FormQuery

open Text

/-- Digits of any script, at least one. -/
def IsDigits (text : List Char) : Prop := text ≠ [] ∧ ∀ c ∈ text, isDigit c = true

/-- A number as it can be typed: digits, and perhaps a point with digits after it. -/
inductive SpellsNumber : List Char → Prop where
  | whole {digits : List Char} (shown : IsDigits digits) : SpellsNumber digits
  | fraction {digits places : List Char} (shown : IsDigits digits) (behind : IsDigits places) :
      SpellsNumber (digits ++ '.' :: places)

/-- Digits are those of ASCII or lie far behind it. -/
theorem code_of_isDigit {c : Char} (digit : isDigit c = true) : (48 ≤ c.toNat ∧ c.toNat ≤ 57) ∨ 1632 ≤ c.toNat := by
  simp only [isDigit, digitValue?, Option.isSome_map, List.find?_isSome, Bool.and_eq_true, decide_eq_true_eq] at digit
  obtain ⟨first, member, low, high⟩ := digit
  have zeros : ∀ first ∈ digitZeros, first = 48 ∨ 1632 ≤ first := by decide
  have := zeros first member
  omega

theorem isBlank_of_isDigit {c : Char} (digit : isDigit c = true) : isBlank c = false := by
  simp only [isDigit, digitValue?, Option.isSome_map, List.find?_isSome, Bool.and_eq_true, decide_eq_true_eq] at digit
  obtain ⟨first, member, low, high⟩ := digit
  have apart : ∀ first ∈ digitZeros, ∀ range ∈ blankRanges, first + 9 < range.1 ∨ range.2 < first := by decide
  rw [← Bool.not_eq_true]
  simp only [isBlank, CodeRanges.has, List.any_eq_true, Bool.and_eq_true, decide_eq_true_eq, not_exists, not_and]
  intro range inside above
  have := apart first member range inside
  omega

theorem code_of_isWordStart {c : Char} (start : isWordStart c = true) : 65 ≤ c.toNat ∧ c.toNat ≤ 122 := by
  have shown : (decide (c.val ≥ 'A'.val ∧ c.val ≤ 'Z'.val) || (decide (c.val ≥ 'a'.val) && decide (c.val ≤ 'z'.val)) ||
      decide (c = '_')) = true := start
  simp only [Bool.or_eq_true, Bool.and_eq_true, decide_eq_true_eq, UInt32.le_iff_toNat_le, ge_iff_le] at shown
  rcases shown with (⟨low, high⟩ | ⟨low, high⟩) | rfl
  · exact ⟨low, Nat.le_trans high (by decide)⟩
  · exact ⟨Nat.le_trans (by decide) low, high⟩
  · decide

theorem isBlank_of_isWordStart {c : Char} (start : isWordStart c = true) : isBlank c = false := by
  have letter := code_of_isWordStart start
  have apart : ∀ range ∈ blankRanges, range.2 < 65 ∨ 122 < range.1 := by decide
  rw [← Bool.not_eq_true]
  simp only [isBlank, CodeRanges.has, List.any_eq_true, Bool.and_eq_true, decide_eq_true_eq, not_exists, not_and]
  intro range inside above
  have := apart range inside
  omega

private theorem takeWhile_isDigits {text : List Char} (some_digit : (text.takeWhile isDigit).isEmpty = false) :
    IsDigits (text.takeWhile isDigit) := by
  refine ⟨by simpa using some_digit, fun c member => ?_⟩
  exact List.all_eq_true.mp List.all_takeWhile c member

theorem spellsNumber_take (c : Char) (rest : List Char) (digit : isDigit c = true) :
    SpellsNumber ((c :: rest).take (numberLength (c :: rest))) := by
  have parts : (c :: rest).takeWhile isDigit ++ (c :: rest).dropWhile isDigit = c :: rest :=
    List.takeWhile_append_dropWhile
  have shown : IsDigits ((c :: rest).takeWhile isDigit) := takeWhile_isDigits (by simp [digit])
  unfold numberLength
  generalize (c :: rest).takeWhile isDigit = digits at parts shown
  generalize (c :: rest).dropWhile isDigit = behind at parts
  rw [← parts]
  simp only
  split
  next places =>
    split
    next => simpa using SpellsNumber.whole shown
    next found =>
      have fraction := takeWhile_isDigits (by simpa using found)
      have same : (digits ++ '.' :: places).take (digits.length + 1 + (places.takeWhile isDigit).length) =
          digits ++ '.' :: places.takeWhile isDigit := by
        rw [Nat.add_assoc, List.take_length_add_append, Nat.add_comm, List.take_succ_cons]
        congr 2
        exact (List.prefix_iff_eq_take.mp (List.takeWhile_prefix _)).symm
      rw [same]
      exact .fraction shown fraction
  next => simpa using SpellsNumber.whole shown

/-- The values that a kind of token can have. A word has its kind from the list of reserved words. -/
def TokenKind.Allows (kind : TokenKind) (value : String) : Prop :=
  match kind with
  | .number => SpellsNumber value.toList
  | .operator => value ∈ operatorSymbols ∨ reservedKind? value = some .operator
  | .tableRef | .columnRef | .string | .comma | .semicolon | .leftParen | .rightParen | .star | .unrecognized
  | .endOfInput => True
  | kind => reservedKind? value = some kind

def Token.Shaped (token : Token) : Prop := token.kind.Allows token.value

theorem quotedKind_cases (before : List TokenKind) (content : List Char) :
    quotedKind before content = .tableRef ∨ quotedKind before content = .columnRef ∨
      quotedKind before content = .string := by
  unfold quotedKind
  split
  · exact .inl rfl
  · exact .inl rfl
  · exact .inr (.inl rfl)
  · split
    · exact .inr (.inl rfl)
    · exact .inr (.inr rfl)

private theorem allows_quotedKind (before : List TokenKind) (content : List Char) (value : String) :
    (quotedKind before content).Allows value := by
  rcases quotedKind_cases before content with kind | kind | kind <;> rw [kind] <;> trivial

theorem mem_of_lookup {α β : Type} [BEq α] [LawfulBEq α] {entries : List (α × β)} {key : α} {value : β}
    (found : entries.lookup key = some value) : (key, value) ∈ entries := by
  obtain ⟨first, last, rfl, _⟩ := List.lookup_eq_some_iff.mp found
  simp

theorem reservedKind?_cases {value : String} {kind : TokenKind} (reserved : reservedKind? value = some kind) :
    (value, kind) ∈ keywords ∨ (kind = .aggregate ∧ value ∈ aggregateNames) ∨
      (kind = .function ∧ (StringFunction.ofName? value).isSome) ∨ (kind = .operator ∧ value ∈ operatorWords) := by
  simp only [reservedKind?] at reserved
  split at reserved
  next found => exact Or.inl (mem_of_lookup (found.trans reserved))
  next =>
    split at reserved
    next name => exact Or.inr (Or.inl ⟨(Option.some.inj reserved).symm, name⟩)
    next =>
      split at reserved
      next name => exact Or.inr (Or.inr (Or.inl ⟨(Option.some.inj reserved).symm, name⟩))
      next =>
        split at reserved
        next name => exact Or.inr (Or.inr (Or.inr ⟨(Option.some.inj reserved).symm, name⟩))
        next => cases reserved

private theorem allows_reserved {value : String} {kind : TokenKind} (reserved : reservedKind? value = some kind) :
    kind.Allows value := by
  have plain : kind ≠ .number := by
    rintro rfl
    have := reservedKind?_cases reserved
    simp [keywords] at this
  cases kind <;> first | exact absurd rfl plain | exact Or.inr reserved | exact reserved | trivial

private theorem allows_punctuation {c : Char} {kind : TokenKind} (found : punctuation.lookup c = some kind)
    (value : String) : kind.Allows value := by
  have member := mem_of_lookup found
  simp only [punctuation, List.mem_cons, Prod.mk.injEq, List.not_mem_nil, or_false] at member
  rcases member with ⟨_, rfl⟩ | ⟨_, rfl⟩ | ⟨_, rfl⟩ | ⟨_, rfl⟩ | ⟨_, rfl⟩ <;> trivial

private theorem allows_wordLexeme (c : Char) (rest : List Char) :
    (wordLexeme c rest).kind.Allows (String.ofList (wordLexeme c rest).value) := by
  simp only [wordLexeme]
  split
  next reserved => exact allows_reserved reserved
  next => trivial

theorem allows_lexeme (before : List TokenKind) (c : Char) (rest : List Char) :
    (lexeme before c rest).kind.Allows (String.ofList (lexeme before c rest).value) := by
  unfold lexeme
  split
  · unfold quotedLexeme
    split
    · exact allows_quotedKind ..
    · trivial
  · split
    next found =>
      obtain ⟨symbol, member, rfl⟩ := Option.map_eq_some_iff.mp found
      exact Or.inl (by simpa using List.mem_of_find?_eq_some member)
    next =>
      split
      next found => exact allows_punctuation found _
      next =>
        split
        next digit =>
          have spelled := spellsNumber_take c rest digit
          obtain ⟨more, long⟩ : ∃ more, numberLength (c :: rest) = more + 1 := by
            cases length : numberLength (c :: rest) with
            | zero =>
              rw [length, List.take_zero] at spelled
              generalize empty : ([] : List Char) = text at spelled
              cases spelled with
              | whole shown => exact absurd empty.symm shown.1
              | fraction => simp at empty
            | succ more => exact ⟨more, rfl⟩
          simpa [TokenKind.Allows, long] using spelled
        next =>
          split
          · exact allows_wordLexeme c rest
          · trivial

private theorem length_of_quotedSpan? {quote : Char} {text content : List Char} {size : Nat}
    (found : quotedSpan? quote text = some (content, size)) : content.length ≤ text.length := by
  fun_induction quotedSpan? quote text generalizing content size with
  | case1 => cases found
  | case2 | case5 => simp_all
  | case3 => cases found
  | case4 rest ih =>
    obtain ⟨⟨inner, length⟩, known, same⟩ := Option.map_eq_some_iff.mp found
    cases same
    have := ih known
    simp only [List.length_cons]
    omega
  | case6 c d rest different ih =>
    obtain ⟨⟨inner, length⟩, known, same⟩ := Option.map_eq_some_iff.mp found
    cases same
    have := ih known
    simp only [List.length_cons] at this ⊢
    omega

/-- A token means no more characters than were typed. -/
theorem length_lexeme (before : List TokenKind) (c : Char) (rest : List Char) :
    (lexeme before c rest).value.length ≤ (c :: rest).length := by
  unfold lexeme
  split
  · unfold quotedLexeme
    split
    next found => exact Nat.le_succ_of_le (length_of_quotedSpan? found)
    · exact Nat.le_refl _
  · split
    next found =>
      obtain ⟨symbol, member, rfl⟩ := Option.map_eq_some_iff.mp found
      have starts := List.find?_some member
      exact (List.isPrefixOf_iff_prefix.mp starts).length_le
    next =>
      split
      · simp
      · split
        · simp only [List.length_cons, List.length_take]
          omega
        · split
          · have shorter := (List.takeWhile_sublist isWordPart (l := rest)).length_le
            simp only [wordLexeme]
            split <;> simpa using shorter
          · simp

/-- A token that a text of at most `most` characters can have. -/
def Token.Fits (most : Nat) (token : Token) : Prop := token.Shaped ∧ token.value.toList.length ≤ most

/-- Every token of a text has a value of its kind, and no longer than the text. -/
theorem fits_of_mem_tokensFrom (before : List TokenKind) (position : Nat) (text : List Char) :
    ∀ token ∈ tokensFrom before position text, token.Fits text.length := by
  fun_induction tokensFrom before position text with
  | case1 => simp [Token.Fits, Token.Shaped, TokenKind.Allows]
  | case2 before position c rest blank ih =>
    exact fun token member => ⟨(ih token member).1, Nat.le_succ_of_le (ih token member).2⟩
  | case3 before position c rest visible found text ih =>
    intro token member
    rcases List.mem_cons.mp member with rfl | member
    · exact ⟨allows_lexeme before c rest, by simpa using length_lexeme before c rest⟩
    · have known := ih token member
      exact ⟨known.1, Nat.le_trans known.2 (by rw [List.length_drop, List.length_cons]; omega)⟩

theorem fits_of_mem_tokenize {source : String} {token : Token} (member : token ∈ tokenize source) :
    token.Fits source.toList.length :=
  fits_of_mem_tokensFrom [] 0 source.toList token member

namespace Token.Shaped

variable {token : Token} (shaped : token.Shaped)

include shaped

theorem allows {kind : TokenKind} (same : token.kind = kind) : kind.Allows token.value := same ▸ shaped

theorem number (kind : token.kind = .number) : SpellsNumber token.value.toList := shaped.allows kind

theorem aggregate (kind : token.kind = .aggregate) : token.value ∈ aggregateNames := by
  have reserved : reservedKind? token.value = some .aggregate := shaped.allows kind
  simpa [keywords] using reservedKind?_cases reserved

theorem function (kind : token.kind = .function) : (StringFunction.ofName? token.value).isSome := by
  have reserved : reservedKind? token.value = some .function := shaped.allows kind
  simpa [keywords] using reservedKind?_cases reserved

theorem operator (kind : token.kind = .operator) : token.value ∈ operatorSymbols ++ operatorWords := by
  have known : token.value ∈ operatorSymbols ∨ reservedKind? token.value = some .operator := shaped.allows kind
  rcases known with symbol | reserved
  · exact List.mem_append_left _ symbol
  · have word : token.value ∈ operatorWords := by simpa [keywords] using reservedKind?_cases reserved
    exact List.mem_append_right _ word

theorem connector (kind : token.kind = .andWord ∨ token.kind = .orWord) : token.value = "AND" ∨ token.value = "OR" := by
  rcases kind with kind | kind
  all_goals
    have reserved := reservedKind?_cases (shaped.allows kind)
    simp_all [keywords]

end Token.Shaped

end FormQuery
