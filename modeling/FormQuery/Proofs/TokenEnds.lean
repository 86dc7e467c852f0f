import FormQuery.Proofs.TokenCover
import FormQuery.Proofs.WrittenText

/-! Where tokens end. A blank or a semicolon goes on with no token. So a token that ends somewhere in a text is the same
in every text that agrees with it up to there, and behind it up to such a character. -/

namespace FormQuery

open Text

/-- A character that no token goes on with, quoted ones apart. -/
def Parting (c : Char) : Prop := isBlank c = true ∨ c = ';'

/-- One text is another one up to some place, and there it has a character that ends tokens. -/
inductive Parted : List Char → List Char → Prop
  | same (text : List Char) : Parted text text
  | here {c : Char} (parting : Parting c) (text rest : List Char) : Parted text (c :: rest)
  | behind (c : Char) {text parted : List Char} (further : Parted text parted) : Parted (c :: text) (c :: parted)

theorem parted_append (text : List Char) {c : Char} (parting : Parting c) (rest : List Char) :
    Parted text (text ++ c :: rest) := by
  induction text with
  | nil => exact .here parting [] rest
  | cons d text ih => exact .behind d ih

theorem Parted.startsWith {text parted : List Char} (between : Parted text parted) {holds : Char → Prop}
    (ends : ∀ c, Parting c → holds c) (starts : StartsWith holds text) : StartsWith holds parted := by
  cases between with
  | same | behind => exact starts
  | here parting =>
    intro d first
    cases first
    exact ends _ parting

theorem isDigit_of_parting (c : Char) (parting : Parting c) : isDigit c = false := by
  obtain blank | rfl := parting
  · rw [← Bool.not_eq_true]
    intro digit
    rw [isBlank_of_isDigit digit] at blank
    cases blank
  · decide

theorem isWordPart_cases {c : Char} (part : isWordPart c = true) :
    isWordStart c = true ∨ 48 ≤ c.toNat ∧ c.toNat ≤ 57 := by
  simp only [isWordPart, Char.isAlphanum, Bool.or_eq_true] at part
  simp only [isWordStart, Bool.or_eq_true]
  rcases part with (letter | digit) | line
  · exact .inl (.inl letter)
  · right
    simpa [Char.isDigit, UInt32.le_iff_toNat_le] using digit
  · exact .inl (.inr line)

theorem isWordPart_of_parting (c : Char) (parting : Parting c) : isWordPart c = false := by
  obtain blank | rfl := parting
  · rw [← Bool.not_eq_true]
    intro part
    obtain start | code := isWordPart_cases part
    · rw [isBlank_of_isWordStart start] at blank
      cases blank
    · have apart : ∀ range ∈ blankRanges, range.2 < 48 ∨ 57 < range.1 := by decide
      simp only [isBlank, CodeRanges.has, List.any_eq_true, Bool.and_eq_true, decide_eq_true_eq] at blank
      obtain ⟨range, member, low, high⟩ := blank
      have := apart range member
      omega
  · decide

theorem ne_of_parting {mark : Char} (visible : isBlank mark = false) (other : mark ≠ ';') (c : Char)
    (parting : Parting c) : c ≠ mark := by
  rintro rfl
  obtain blank | same := parting
  · rw [visible] at blank
    cases blank
  · exact other same

theorem Parted.endsNumber {text parted : List Char} (between : Parted text parted) (ends : EndsNumber text) :
    EndsNumber parted := by
  refine ⟨between.startsWith isDigit_of_parting ends.1, ?_⟩
  rintro places rfl
  generalize shape : '.' :: places = parted at between
  cases between with
  | same => exact ends.2 places shape.symm
  | here parting =>
    cases shape
    have other : '.' ≠ '.' := ne_of_parting (by decide) (by decide) '.' parting
    exact absurd rfl other
  | behind c further =>
    cases shape
    exact further.startsWith isDigit_of_parting (ends.2 _ rfl)

theorem numberLength_pos {c : Char} (rest : List Char) (digit : isDigit c = true) : 0 < numberLength (c :: rest) := by
  have spelled := (spellsNumber_take c rest digit).ne_nil
  rw [Nat.pos_iff_ne_zero]
  intro none
  rw [none] at spelled
  exact spelled List.take_zero

theorem Parted.numberLength {tail parted number : List Char} (between : Parted tail parted)
    (spelled : SpellsNumber number) (whole : FormQuery.numberLength (number ++ tail) = number.length) :
    FormQuery.numberLength (number ++ parted) = number.length := by
  cases spelled with
  | whole shown =>
    rw [numberLength_whole shown] at whole ⊢
    exact between.endsNumber whole
  | fraction shown behind =>
    rw [numberLength_fraction shown behind] at whole ⊢
    exact between.startsWith isDigit_of_parting whole

/-- Behind a quoted span there is no quote of its kind, which would be a part of it. -/
theorem startsWith_of_quotedSpan? {quote : Char} {text content : List Char} {size : Nat}
    (found : quotedSpan? quote text = some (content, size)) : StartsWith (· ≠ quote) (text.drop size) := by
  fun_induction quotedSpan? quote text generalizing content size with
  | case1 | case3 => cases found
  | case2 =>
    cases found
    simp [StartsWith]
  | case4 rest ih =>
    obtain ⟨⟨inner, length⟩, known, same⟩ := Option.map_eq_some_iff.mp found
    cases same
    exact ih known
  | case5 d rest other =>
    cases found
    simpa [StartsWith] using other
  | case6 c d rest different ih =>
    obtain ⟨⟨inner, length⟩, known, same⟩ := Option.map_eq_some_iff.mp found
    cases same
    exact ih known

/-- A quoted span ends where it ended before, unless a quote of its kind comes behind it. -/
theorem quotedSpan?_behind {tail other span content : List Char} {quote : Char}
    (found : quotedSpan? quote (span ++ tail) = some (content, span.length)) (ends : StartsWith (· ≠ quote) other) :
    quotedSpan? quote (span ++ other) = some (content, span.length) := by
  obtain ⟨-, typed⟩ := take_of_quotedSpan? found
  rw [List.take_left] at typed
  rw [typed, List.append_assoc, List.singleton_append, quotedSpan?_doubled quote content ends]
  simp

theorem Parted.quotedSpan? {tail parted span content : List Char} {quote : Char} (between : Parted tail parted)
    (mark : isQuote quote = true)
    (found : FormQuery.quotedSpan? quote (span ++ tail) = some (content, span.length)) :
    FormQuery.quotedSpan? quote (span ++ parted) = some (content, span.length) := by
  have visible : isBlank quote = false ∧ quote ≠ ';' := by
    obtain rfl | rfl : quote = '\'' ∨ quote = '"' := by simpa [isQuote] using mark
    all_goals decide
  have apart : StartsWith (· ≠ quote) tail := by
    have known := startsWith_of_quotedSpan? found
    rwa [List.drop_left] at known
  exact quotedSpan?_behind found (between.startsWith (ne_of_parting visible.1 visible.2) apart)

theorem operatorLexeme?_take (c : Char) (rest : List Char) :
    operatorLexeme? (c :: rest) = operatorLexeme? (c :: rest.take 1) := by
  have each : ∀ symbol ∈ operatorSymbols,
      symbol.toList.isPrefixOf (c :: rest) = symbol.toList.isPrefixOf (c :: rest.take 1) := by
    cases rest with
    | nil => simp
    | cons d rest =>
      simp only [operatorSymbols, List.forall_mem_cons]
      exact ⟨rfl, rfl, rfl, rfl, rfl, rfl, rfl, by simp⟩
  have same (symbols : List String) (member : ∀ symbol ∈ symbols, symbol ∈ operatorSymbols) :
      symbols.find? (fun symbol => symbol.toList.isPrefixOf (c :: rest)) =
        symbols.find? fun symbol => symbol.toList.isPrefixOf (c :: rest.take 1) := by
    induction symbols with
    | nil => rfl
    | cons symbol symbols ih =>
      obtain ⟨first, others⟩ := List.forall_mem_cons.mp member
      rw [List.find?_cons, List.find?_cons, each symbol first, ih others]
  rw [operatorLexeme?, operatorLexeme?, same _ fun _ => id]

/-- A second character counts only where the two of them are an operator. -/
theorem operatorLexeme?_pair (c d : Char) : operatorLexeme? [c, d] = operatorLexeme? [c] ∨
    (d = '=' ∨ d = '>') ∧ ∃ found, operatorLexeme? [c, d] = some found ∧ found.more = 1 := by
  have parts : operatorSymbols = ["!=", "<>", ">=", "<="] ++ ["=", "<", ">"] := rfl
  unfold operatorLexeme?
  rw [parts, List.find?_append, List.find?_append]
  cases double : ["!=", "<>", ">=", "<="].find? fun symbol => symbol.toList.isPrefixOf [c, d] with
  | some symbol =>
    refine .inr ⟨?_, _, rfl, ?_⟩
    · have each : ∀ symbol ∈ ["!=", "<>", ">=", "<="], symbol.toList.isPrefixOf [c, d] = true → d = '=' ∨ d = '>' := by
        simp only [List.forall_mem_cons]
        refine ⟨?_, ?_, ?_, ?_, by simp⟩
        all_goals
          intro starts
          simp [List.isPrefixOf] at starts
          simp [← starts.2]
      exact each symbol (List.mem_of_find?_eq_some double) (by simpa using List.find?_some double)
    · have each : ∀ symbol ∈ ["!=", "<>", ">=", "<="], symbol.length - 1 = 1 := by decide
      exact each symbol (List.mem_of_find?_eq_some double)
  | none =>
    left
    have alone : (["!=", "<>", ">=", "<="].find? fun symbol => symbol.toList.isPrefixOf [c]) = none := by
      simp [List.isPrefixOf]
    rw [alone]
    rfl

theorem Parted.operatorLexeme? {tail parted word : List Char} {c : Char} (between : Parted tail parted)
    (whole : ∀ found, FormQuery.operatorLexeme? (c :: (word ++ tail)) = some found → found.more = word.length) :
    FormQuery.operatorLexeme? (c :: (word ++ parted)) = FormQuery.operatorLexeme? (c :: (word ++ tail)) := by
  rw [operatorLexeme?_take] at whole ⊢
  rw [operatorLexeme?_take c (word ++ tail)]
  cases word with
  | cons d word => rfl
  | nil =>
    cases between with
    | same => rfl
    | behind d further => rfl
    | @here b parting tail rest =>
      have ended : FormQuery.operatorLexeme? [c, b] = FormQuery.operatorLexeme? [c] := by
        obtain ended | ⟨rfl | rfl, -⟩ := operatorLexeme?_pair c b
        · exact ended
        all_goals exact absurd rfl (ne_of_parting (by decide) (by decide) _ parting)
      cases tail with
      | nil => exact ended
      | cons d tail =>
        obtain single | ⟨-, found, known, more⟩ := operatorLexeme?_pair c d
        · exact ended.trans single.symm
        · have none : found.more = 0 := whole found known
          omega

theorem takeWhile_of_length {holds : Char → Bool} {word tail : List Char}
    (whole : ((word ++ tail).takeWhile holds).length = word.length) : ∀ c ∈ word, holds c = true := by
  have taken : (word ++ tail).takeWhile holds = word := by
    rw [List.prefix_iff_eq_take.mp (List.takeWhile_prefix holds), whole, List.take_left]
  rw [← taken]
  exact List.all_eq_true.mp List.all_takeWhile

section

variable {tail parted word : List Char} {c : Char} (between : Parted tail parted)

include between

theorem wordLexeme_parted (whole : (wordLexeme c (word ++ tail)).more = word.length) :
    wordLexeme c (word ++ parted) = wordLexeme c (word ++ tail) := by
  have length : ((word ++ tail).takeWhile isWordPart).length = word.length := by
    rw [← whole, wordLexeme]
    generalize reservedKind? _ = reserved
    cases reserved <;> simp
  have all := takeWhile_of_length length
  have stops := (length_takeWhile_append all).mp length
  rw [wordLexeme, wordLexeme, (takeWhile_of_startsWith all stops).1,
    (takeWhile_of_startsWith all (between.startsWith isWordPart_of_parting stops)).1]

theorem quotedLexeme_parted (before : List TokenKind) (mark : isQuote c = true)
    (whole : (quotedLexeme before c (word ++ tail)).more = word.length)
    (closed : tail = [] → (quotedLexeme before c (word ++ tail)).kind ≠ .unrecognized) :
    quotedLexeme before c (word ++ parted) = quotedLexeme before c (word ++ tail) := by
  unfold quotedLexeme at whole closed ⊢
  cases read : quotedSpan? c (word ++ tail) with
  | some found =>
    obtain ⟨content, size⟩ := found
    rw [read] at whole
    obtain rfl : size = word.length := whole
    rw [between.quotedSpan? mark read]
  | none =>
    -- A span that does not end reaches to the end of the text, and would go on in a longer one.
    rw [read] at whole closed
    have all : (word ++ tail).length = word.length := whole
    rw [List.length_append, Nat.add_eq_left, List.length_eq_zero_iff] at all
    exact absurd rfl (closed all)

/-- A token that ends in one text ends in the other one, and it is the same. At the end of the text this does not go for
a quoted span that does not end: it may do so further on. -/
theorem lexeme_parted (before : List TokenKind) (whole : (lexeme before c (word ++ tail)).more = word.length)
    (closed : tail = [] → isQuote c = true → (lexeme before c (word ++ tail)).kind ≠ .unrecognized) :
    lexeme before c (word ++ parted) = lexeme before c (word ++ tail) := by
  unfold lexeme at whole closed ⊢
  by_cases mark : isQuote c = true
  · rw [if_pos mark] at whole closed
    rw [if_pos mark, if_pos mark]
    exact quotedLexeme_parted between before mark whole fun ends => closed ends mark
  rw [if_neg mark] at whole
  have operator : operatorLexeme? (c :: (word ++ parted)) = operatorLexeme? (c :: (word ++ tail)) :=
    between.operatorLexeme? fun found known => by rwa [known] at whole
  rw [if_neg mark, if_neg mark, operator]
  cases symbol : operatorLexeme? (c :: (word ++ tail)) with
  | some found => rfl
  | none =>
    cases sign : punctuation.lookup c with
    | some kind => rfl
    | none =>
      simp only [symbol, sign] at whole ⊢
      by_cases digit : isDigit c = true
      · rw [if_pos digit] at whole
        rw [if_pos digit, if_pos digit]
        have long : numberLength (c :: word ++ tail) = (c :: word).length := by
          have some_digit := numberLength_pos (word ++ tail) digit
          have length : numberLength (c :: (word ++ tail)) - 1 = word.length := whole
          rw [List.cons_append, List.length_cons]
          omega
        have spelled : SpellsNumber (c :: word) := by
          have known := spellsNumber_take c (word ++ tail) digit
          rwa [← List.cons_append, long, List.take_left] at known
        have same := between.numberLength spelled long
        rw [List.cons_append] at long same
        simp [long, same]
      · rw [if_neg digit] at whole
        rw [if_neg digit, if_neg digit]
        by_cases start : isWordStart c = true
        · rw [if_pos start] at whole
          rw [if_pos start, if_pos start]
          exact wordLexeme_parted between whole
        · rw [if_neg start, if_neg start]

end

def Lexeme.token (found : Lexeme) (position : Nat) (c : Char) (rest : List Char) : Token :=
  ⟨found.kind, String.ofList (c :: rest.take found.more), position, String.ofList found.value⟩

theorem tokensFrom_blank (before : List TokenKind) (position : Nat) {c : Char} (rest : List Char)
    (blank : isBlank c = true) : tokensFrom before position (c :: rest) = tokensFrom before (position + 1) rest := by
  rw [tokensFrom, if_pos blank]

theorem tokensFrom_visible {before : List TokenKind} {c : Char} {rest : List Char} (visible : ¬isBlank c = true)
    {found : Lexeme} (known : lexeme before c rest = found) (position : Nat) :
    tokensFrom before position (c :: rest) =
      found.token position c rest ::
        tokensFrom (found.kind :: before) (position + (found.more + 1)) (rest.drop found.more) := by
  have length : (String.ofList (c :: rest.take found.more)).length = found.more + 1 := by
    have short := (lexeme_starts before c rest).inside
    rw [known] at short
    rw [← String.length_toList, String.toList_ofList, List.length_cons, List.length_take_of_le short]
  rw [tokensFrom, if_neg visible]
  simp only [known, length]
  rfl

theorem exists_parts {before : List TokenKind} {c : Char} {rest : List Char} {found : Lexeme}
    (known : lexeme before c rest = found) : ∃ word tail, rest = word ++ tail ∧ found.more = word.length := by
  have inside := (lexeme_starts before c rest).inside
  rw [known] at inside
  exact ⟨rest.take found.more, rest.drop found.more, (List.take_append_drop _ _).symm,
    (List.length_take_of_le inside).symm⟩

theorem tokensFrom_parts {before : List TokenKind} {c : Char} {word tail : List Char} (visible : ¬isBlank c = true)
    {found : Lexeme} (known : lexeme before c (word ++ tail) = found) (more : found.more = word.length)
    (position : Nat) :
    tokensFrom before position (c :: (word ++ tail)) =
      ⟨found.kind, String.ofList (c :: word), position, String.ofList found.value⟩ ::
        tokensFrom (found.kind :: before) (position + (word.length + 1)) tail := by
  rw [tokensFrom_visible visible known, Lexeme.token, more, List.take_left, List.drop_left]

theorem nil_of_tokensFrom_nil {before : List TokenKind} {position stop : Nat} {tokens : List Token}
    (cut : tokensFrom before position [] = tokens ++ [.endAt stop]) : tokens = [] := by
  rw [tokensFrom] at cut
  cases tokens with
  | nil => rfl
  | cons token tokens => simp at cut

/-- A text with more behind it, from a character on that ends tokens. The tokens of the first text are there as they
were, and those of the rest behind them, if the last token of the first text is recognized. -/
theorem tokensFrom_append {before : List TokenKind} {position : Nat} {front : List Char} {tokens : List Token}
    {stop : Nat} (cut : tokensFrom before position front = tokens ++ [.endAt stop])
    (closed : ∀ last ∈ tokens.getLast?, last.kind ≠ .unrecognized) {c : Char} (parting : Parting c)
    (rest : List Char) : tokensFrom before position (front ++ c :: rest) =
      tokens ++ tokensFrom ((tokens.map Token.kind).reverse ++ before) (position + front.length) (c :: rest) := by
  induction size : front.length using Nat.strongRecOn generalizing before position front tokens with
  | ind size ih =>
  cases front with
  | nil =>
    obtain rfl := nil_of_tokensFrom_nil cut
    simp [← size]
  | cons d front =>
    rw [List.length_cons] at size
    rw [List.cons_append]
    by_cases blank : isBlank d = true
    · rw [tokensFrom_blank _ _ _ blank] at cut ⊢
      rw [ih front.length (by omega) cut closed rfl, ← size, Nat.add_assoc, Nat.add_comm 1]
    · generalize known : lexeme before d front = found at cut
      cases tokens with
      | nil =>
        -- There is a token, so it is not the end of input that comes first.
        rw [tokensFrom_visible blank known] at cut
        have starts := (lexeme_starts before d front).visible
        rw [known] at starts
        exact absurd (congrArg Token.kind (List.cons.inj cut).1) starts
      | cons token tokens =>
        obtain ⟨word, tail, rfl, length⟩ := exists_parts known
        rw [tokensFrom_parts blank known length] at cut
        obtain ⟨rfl, others⟩ := List.cons.inj cut
        rw [List.length_append] at size
        have ends : tail = [] → (lexeme before d (word ++ tail)).kind ≠ .unrecognized := by
          rintro rfl
          obtain rfl := nil_of_tokensFrom_nil others
          rw [known]
          exact closed _ rfl
        have unmoved := lexeme_parted (parted_append tail parting rest) before (known ▸ length) fun none _ => ends none
        have later : ∀ last ∈ tokens.getLast?, last.kind ≠ .unrecognized := by
          intro last known
          refine closed last ?_
          rw [List.getLast?_cons, Option.mem_def.mp known]
          rfl
        rw [List.append_assoc, tokensFrom_parts blank (unmoved.trans known) length,
          ih tail.length (by omega) others later rfl]
        have place : position + (word.length + 1) + tail.length = position + (word.length + tail.length + 1) := by omega
        simp [place, ← size]

end FormQuery
