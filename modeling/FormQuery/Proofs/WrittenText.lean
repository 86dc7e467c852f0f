import FormQuery.Proofs.SpelledNumber
import FormQuery.Query.Writer

/-! Written queries, cut into tokens. Every part of a query is found again as one token, since what stands behind a part
ends it. A text between quotes may hold anything: its quotes are doubled, and no other character ends it. -/

namespace FormQuery

open Text

namespace Part

def kind (behind : List TokenKind) : Part → TokenKind
  | word text => (reservedKind? (String.ofList (text.toList.map Char.toUpper))).getD .unrecognized
  | operator _ => .operator
  | sign c => (punctuation.lookup c).getD .unrecognized
  | quoted content => quotedKind behind content.toList
  | number _ => .number

def value : Part → String
  | word text => text
  | operator symbol => symbol
  | sign c => String.singleton c
  | quoted content => content
  | number raw => raw

def isQuoted : Part → Bool
  | quoted _ => true
  | _ => false

def isWord : List Char → Bool
  | [] => false
  | c :: rest => isWordStart c && rest.all isWordPart

/-- A part that can be typed. Reserved words are in capitals, since a token gives them so. -/
def Good : Part → Prop
  | word text =>
    isWord text.toList ∧ ((reservedKind? (String.ofList (text.toList.map Char.toUpper))).isSome →
      text.toList.map Char.toUpper = text.toList)
  | operator symbol => symbol ∈ operatorSymbols
  | sign c => (punctuation.lookup c).isSome
  | quoted _ => True
  | number raw => SpellsNumber raw.toList

end Part

/-- What is known of the token of a part, wherever it stands. -/
structure Token.Shows (behind : List TokenKind) (part : Part) (token : Token) : Prop where
  kind : token.kind = part.kind behind
  value : token.value = part.value
  isQuoted : part.isQuoted = true → token.isQuoted = true

/-- The tokens of parts, and the end of input behind them. -/
inductive Stands : List TokenKind → List Part → List Token → Prop where
  | done {behind : List TokenKind} {token : Token} (ended : token.kind = .endOfInput) : Stands behind [] [token]
  | part {behind : List TokenKind} {part : Part} {parts : List Part} {token : Token} {tokens : List Token}
      (shows : token.Shows behind part) (others : Stands (part.kind behind :: behind) parts tokens) :
      Stands behind (part :: parts) (token :: tokens)

theorem Stands.length {behind : List TokenKind} {parts : List Part} {tokens : List Token}
    (stands : Stands behind parts tokens) : tokens.length = parts.length + 1 := by
  induction stands with
  | done => rfl
  | part _ _ ih => simp [ih]

/-- A text is empty, or its first character has a property. -/
def StartsWith (holds : Char → Prop) (text : List Char) : Prop := ∀ c ∈ text.head?, holds c

theorem StartsWith.append {holds : Char → Prop} {front back : List Char} (first : StartsWith holds front)
    (second : StartsWith holds back) : StartsWith holds (front ++ back) := by
  cases front with
  | nil => exact second
  | cons c front => exact first

theorem StartsWith.of_prefix {holds : Char → Prop} {front text : List Char} (starts : StartsWith holds text)
    (front_of : front <+: text) : StartsWith holds front := by
  obtain ⟨back, rfl⟩ := front_of
  cases front with
  | nil => simp [StartsWith]
  | cons c front => exact starts

theorem length_takeWhile_append {holds : Char → Bool} {word tail : List Char} (all : ∀ c ∈ word, holds c = true) :
    ((word ++ tail).takeWhile holds).length = word.length ↔ StartsWith (fun c => holds c = false) tail := by
  rw [List.takeWhile_append_of_pos all, List.length_append, Nat.add_eq_left, List.length_eq_zero_iff]
  cases tail with
  | nil => simp [StartsWith]
  | cons c tail => simp [StartsWith, List.takeWhile_cons]

theorem takeWhile_of_startsWith {holds : Char → Bool} {word tail : List Char} (all : ∀ c ∈ word, holds c = true)
    (stops : StartsWith (fun c => holds c = false) tail) :
    (word ++ tail).takeWhile holds = word ∧ (word ++ tail).dropWhile holds = tail := by
  rw [List.takeWhile_append_of_pos all, List.dropWhile_append_of_pos all]
  cases tail with
  | nil => simp
  | cons c tail =>
    have stop : holds c = false := stops c rfl
    simp [stop]

/-- What may stand behind digits that are a whole number: no digit, and no point with a digit behind it. -/
def EndsNumber (tail : List Char) : Prop :=
  StartsWith (fun c => isDigit c = false) tail ∧
    ∀ places, tail = '.' :: places → StartsWith (fun c => isDigit c = false) places

theorem numberLength_whole {digits tail : List Char} (shown : IsDigits digits) :
    numberLength (digits ++ tail) = digits.length ↔ EndsNumber tail := by
  have empty : ∀ c ∈ ([] : List Char), isDigit c = true := nofun
  have least : ((digits ++ tail).takeWhile isDigit).length ≤ numberLength (digits ++ tail) := by
    unfold numberLength
    split
    · simp only
      split <;> omega
    · exact Nat.le_refl _
  have most : digits.length ≤ ((digits ++ tail).takeWhile isDigit).length := by
    rw [List.takeWhile_append_of_pos shown.2, List.length_append]
    omega
  constructor
  · intro whole
    have stops := (length_takeWhile_append shown.2).mp (Nat.le_antisymm (whole ▸ least) most)
    refine ⟨stops, ?_⟩
    rintro places rfl
    obtain ⟨taken, dropped⟩ := takeWhile_of_startsWith shown.2 stops
    unfold numberLength at whole
    rw [taken, dropped] at whole
    simp only at whole
    split at whole
    next none =>
      have short : (places.takeWhile isDigit).length = ([] : List Char).length := by simpa using none
      exact (length_takeWhile_append empty).mp short
    next => omega
  · rintro ⟨stops, apart⟩
    obtain ⟨taken, dropped⟩ := takeWhile_of_startsWith shown.2 stops
    unfold numberLength
    rw [taken, dropped]
    split
    next places =>
      have short := (length_takeWhile_append empty).mpr (apart places rfl)
      have none : (places.takeWhile isDigit).isEmpty = true := by simpa using short
      rw [if_pos none]
    next => rfl

theorem numberLength_fraction {digits places tail : List Char} (shown : IsDigits digits) (behind : IsDigits places) :
    numberLength (digits ++ '.' :: places ++ tail) = (digits ++ '.' :: places).length ↔
      StartsWith (fun c => isDigit c = false) tail := by
  have point : StartsWith (fun c => isDigit c = false) ('.' :: (places ++ tail)) := by
    intro c first
    cases first
    decide
  obtain ⟨taken, dropped⟩ := takeWhile_of_startsWith shown.2 point
  have some_place : ((places ++ tail).takeWhile isDigit).isEmpty = false := by
    rw [List.takeWhile_append_of_pos behind.2, List.isEmpty_eq_false_iff]
    simp [behind.1]
  rw [List.append_assoc, List.cons_append, numberLength, taken, dropped]
  simp only [some_place, Bool.false_eq_true, if_false, List.length_append, List.length_cons]
  rw [← length_takeWhile_append behind.2]
  omega

def closers : List Char := [' ', '(', ')', ',']

def Ends (rest : List Char) : Prop := ∀ c ∈ rest.head?, c ∈ closers

theorem Ends.startsWith {rest : List Char} (ends : Ends rest) {holds : Char → Bool}
    (others : closers.any holds = false) : StartsWith (fun c => holds c = false) rest := by
  intro c first
  simpa using List.any_eq_false.mp others c (ends c first)

/-- The characters that start quoted spans, operators and signs. -/
def markers : List Char := ['\'', '"', '!', '<', '>', '=', ',', ';', '(', ')', '*']

private theorem lexeme_bare {c : Char} (bare : c ∉ markers) (behind : List TokenKind) (rest : List Char) :
    lexeme behind c rest =
      if isDigit c then ⟨.number, numberLength (c :: rest) - 1, c :: rest.take (numberLength (c :: rest) - 1)⟩
      else if isWordStart c then wordLexeme c rest
      else ⟨.unrecognized, 0, [c]⟩ := by
  have quote : isQuote c = false := by
    rw [← Bool.not_eq_true]
    intro quote
    have either : c = '\'' ∨ c = '"' := by simpa [isQuote] using quote
    rcases either with rfl | rfl <;> exact bare (by decide)
  have symbol : operatorLexeme? (c :: rest) = none := by
    have each : ∀ symbol ∈ operatorSymbols, symbol.toList.head?.any (· ∈ markers) = true := by decide
    rw [operatorLexeme?, Option.map_eq_none_iff, List.find?_eq_none]
    intro symbol member found
    have marker := each symbol member
    obtain ⟨more, same⟩ := List.isPrefixOf_iff_prefix.mp found
    cases start : symbol.toList with
    | nil => simp [start] at marker
    | cons first tail =>
      rw [start] at same marker
      obtain ⟨rfl, _⟩ := List.cons.inj same
      exact bare (by simpa using marker)
  have sign : punctuation.lookup c = none := by
    have each : ∀ entry ∈ punctuation, entry.1 ∈ markers := by decide
    rw [List.lookup_eq_none_iff]
    intro entry member
    simp only [bne_iff_ne]
    rintro rfl
    exact bare (each entry member)
  rw [lexeme, quote, symbol, sign]
  rfl

/-- What a part is found as, when the characters of `rest` stand behind it. -/
def Part.Found (behind : List TokenKind) (part : Part) (rest : List Char) : Prop :=
  ∃ c more, part.text = c :: more ∧ isBlank c = false ∧
    lexeme behind c (more ++ rest) = ⟨part.kind behind, more.length, part.value.toList⟩

private theorem isDigit_of_isWordStart {c : Char} (start : isWordStart c = true) : isDigit c = false := by
  have letter := code_of_isWordStart start
  rw [← Bool.not_eq_true]
  intro digit
  have := code_of_isDigit digit
  omega

private theorem not_marker {c : Char} (own : isWordStart c = true ∨ isDigit c = true) : c ∉ markers := by
  have others : markers.any (fun c => isWordStart c || isDigit c) = false := by decide
  intro marker
  exact List.any_eq_false.mp others c marker (by simpa using own)

theorem lexeme_word {c : Char} (start : isWordStart c = true) (behind : List TokenKind) (rest : List Char) :
    lexeme behind c rest = wordLexeme c rest := by
  rw [lexeme_bare (not_marker (.inl start)), isDigit_of_isWordStart start, start]
  rfl

theorem Part.found_word {text : String} (good : (word text).Good) (behind : List TokenKind) {rest : List Char}
    (ends : Ends rest) : (word text).Found behind rest := by
  obtain ⟨word, capitals⟩ := good
  cases same : text.toList with
  | nil => simp [isWord, same] at word
  | cons c more =>
    simp only [isWord, same, Bool.and_eq_true, List.all_eq_true] at word
    have taken := (takeWhile_of_startsWith word.2 (ends.startsWith (by decide))).1
    refine ⟨c, more, same, isBlank_of_isWordStart word.1, ?_⟩
    rw [lexeme_word word.1]
    simp only [wordLexeme, taken, Part.kind, Part.value, same]
    rw [same] at capitals
    cases reserved : reservedKind? (String.ofList ((c :: more).map Char.toUpper)) with
    | none => simp
    | some kind =>
      rw [reserved] at capitals
      simp [capitals rfl]

private theorem numberLength_spelled {text rest : List Char} (spelled : SpellsNumber text) (ends : Ends rest) :
    numberLength (text ++ rest) = text.length := by
  have stops : StartsWith (fun c => isDigit c = false) rest := ends.startsWith (by decide)
  cases spelled with
  | whole shown =>
    rw [numberLength_whole shown]
    refine ⟨stops, ?_⟩
    rintro places rfl
    have point := ends '.' rfl
    simp [closers] at point
  | fraction shown behind =>
    rw [numberLength_fraction shown behind]
    exact stops

theorem Part.found_number {raw : String} (good : (number raw).Good) (behind : List TokenKind) {rest : List Char}
    (ends : Ends rest) : (number raw).Found behind rest := by
  obtain ⟨c, more, same, digit⟩ := SpellsNumber.head_isDigit good
  have long := numberLength_spelled good ends
  rw [same] at long
  refine ⟨c, more, same, isBlank_of_isDigit digit, ?_⟩
  rw [lexeme_bare (not_marker (.inr digit)), if_pos digit, ← List.cons_append, long]
  simp [Part.kind, Part.value, same]

theorem Part.found_operator {symbol : String} (good : (operator symbol).Good) (behind : List TokenKind)
    {rest : List Char} (ends : Ends rest) : (operator symbol).Found behind rest := by
  have first : rest = [] ∨ ∃ c more, c ∈ closers ∧ rest = c :: more := by
    cases rest with
    | nil => exact .inl rfl
    | cons c more => exact .inr ⟨c, more, ends c rfl, rfl⟩
  simp only [Good, operatorSymbols, List.mem_cons, List.not_mem_nil, or_false] at good
  rcases good with rfl | rfl | rfl | rfl | rfl | rfl | rfl
  all_goals
    refine ⟨_, _, rfl, by decide, ?_⟩
    rcases first with rfl | ⟨c, more, closer, rfl⟩
    · rfl
    · simp only [closers, List.mem_cons, List.not_mem_nil, or_false] at closer
      rcases closer with rfl | rfl | rfl | rfl <;> rfl

theorem Part.found_sign {c : Char} (good : (sign c).Good) (behind : List TokenKind) (rest : List Char) :
    (sign c).Found behind rest := by
  obtain ⟨kind, found⟩ := Option.isSome_iff_exists.mp good
  have member := mem_of_lookup found
  simp only [punctuation, List.mem_cons, Prod.mk.injEq, List.not_mem_nil, or_false] at member
  refine ⟨c, [], rfl, ?_⟩
  rcases member with ⟨rfl, rfl⟩ | ⟨rfl, rfl⟩ | ⟨rfl, rfl⟩ | ⟨rfl, rfl⟩ | ⟨rfl, rfl⟩ <;> exact ⟨by decide, rfl⟩

/-- A doubled quote is read as one, so the content ends at the quote that was written behind it. -/
theorem quotedSpan?_doubled (quote : Char) (content : List Char) {rest : List Char}
    (ends : ∀ c ∈ rest.head?, c ≠ quote) :
    quotedSpan? quote (content.flatMap (fun c => if c = quote then [quote, quote] else [c]) ++ quote :: rest) =
      some (content, (content.flatMap fun c => if c = quote then [quote, quote] else [c]).length + 1) := by
  induction content with
  | nil =>
    cases rest with
    | nil => simp [quotedSpan?]
    | cons d rest => simp [quotedSpan?, ends d rfl]
  | cons c content ih =>
    rw [List.flatMap_cons]
    generalize content.flatMap (fun c => if c = quote then [quote, quote] else [c]) = doubled at ih ⊢
    by_cases same : c = quote
    · simp [same, quotedSpan?, ih]
    · obtain ⟨d, more, shape⟩ := List.exists_cons_of_ne_nil (l := doubled ++ quote :: rest) (by simp)
      rw [shape] at ih
      simp [same, shape, quotedSpan?, ih]

theorem Part.found_quoted (content : String) (behind : List TokenKind) {rest : List Char} (ends : Ends rest) :
    (quoted content).Found behind rest := by
  have apart : ∀ c ∈ rest.head?, c ≠ '\'' := by
    have other : '\'' ∉ closers := by decide
    exact fun c member same => other (same ▸ ends c member)
  refine ⟨'\'', _, by rw [Part.text, Sql.quoteLiteral, Sql.enclose, String.toList_ofList, List.cons_append],
    by decide, ?_⟩
  rw [List.append_assoc, List.singleton_append, lexeme, if_pos (by decide), quotedLexeme, quotedSpan?_doubled _ _ apart]
  simp [Part.kind, Part.value]

/-- Every part that can be typed is found, when what stands behind it ends it. Nothing runs into a sign. -/
theorem Part.found {part : Part} (good : part.Good) (behind : List TokenKind) {rest : List Char}
    (ends : (∀ c, part ≠ sign c) → Ends rest) : part.Found behind rest := by
  cases part with
  | word => exact found_word good behind (ends fun _ => by simp)
  | operator => exact found_operator good behind (ends fun _ => by simp)
  | sign => exact found_sign good behind rest
  | quoted => exact found_quoted _ behind (ends fun _ => by simp)
  | number => exact found_number good behind (ends fun _ => by simp)

private theorem Part.Found.tokens {behind : List TokenKind} {part : Part} {rest : List Char}
    (found : part.Found behind rest) (position : Nat) : ∃ token after, token.Shows behind part ∧
      tokensFrom behind position (part.text ++ rest) = token :: tokensFrom (part.kind behind :: behind) after rest := by
  obtain ⟨c, more, same, visible, lexed⟩ := found
  refine ⟨⟨part.kind behind, String.ofList (c :: more), position, part.value⟩, position + (c :: more).length,
    ⟨rfl, rfl, fun quoted => ?_⟩, ?_⟩
  · cases part with
    | quoted content =>
      rw [Part.text, Sql.quoteLiteral, Sql.enclose, String.toList_ofList, List.cons_append] at same
      obtain ⟨rfl, _⟩ := List.cons.inj same
      simp [Token.isQuoted, isQuote]
    | word | operator | sign | number => cases quoted
  · rw [same, List.cons_append, tokensFrom, if_neg (by simp [visible])]
    simp [lexed, Nat.add_comm]

private theorem Part.line_cons (part : Part) (rest : List Part) : ∃ tail, line (part :: rest) = part.text ++ tail := by
  cases rest with
  | nil => exact ⟨[], (List.append_nil _).symm⟩
  | cons next rest => exact ⟨part.gap next ++ line (next :: rest), by rw [line, List.append_assoc]⟩

private theorem Part.ends_gap {part : Part} (open_end : ∀ c, part ≠ sign c) (next : Part) (rest : List Part) :
    Ends (part.gap next ++ line (next :: rest)) := by
  obtain ⟨tail, shape⟩ := line_cons next rest
  rw [gap, shape]
  split
  next solo =>
    rcases solo with same | rfl | rfl | rfl
    · exact absurd same (open_end _)
    all_goals simp [Ends, text, closers]
  next => simp [Ends, closers]

private theorem tokensFrom_gap (behind : List TokenKind) (position : Nat) (part next : Part) (rest : List Char) :
    ∃ after, tokensFrom behind position (part.gap next ++ rest) = tokensFrom behind after rest := by
  rw [Part.gap]
  split
  · exact ⟨position, rfl⟩
  · exact ⟨position + 1, by rw [List.singleton_append, tokensFrom, if_pos (by decide)]⟩

/-- Cutting the text of parts into tokens gives their tokens. -/
theorem Part.stands_line {parts : List Part} (good : ∀ part ∈ parts, part.Good) (behind : List TokenKind)
    (position : Nat) : Stands behind parts (tokensFrom behind position (line parts)) := by
  induction parts generalizing behind position with
  | nil =>
    rw [line, tokensFrom]
    exact .done rfl
  | cons part rest ih =>
    have known := good part (by simp)
    have others := ih fun part member => good part (by simp [member])
    cases rest with
    | nil =>
      have last : part.Found behind [] := found known behind fun _ => by simp [Ends]
      obtain ⟨token, after, shows, same⟩ := last.tokens position
      rw [line, ← List.append_nil part.text, same]
      exact .part shows (others _ _)
    | cons next rest =>
      obtain ⟨token, after, shows, same⟩ :=
        (found known behind fun open_end => ends_gap open_end next rest).tokens position
      obtain ⟨later, skipped⟩ := tokensFrom_gap (part.kind behind :: behind) after part next (line (next :: rest))
      rw [line, List.append_assoc, same, skipped]
      exact .part shows (others _ _)

def Part.Shuts : Part → Prop
  | quoted _ => True
  | number raw => SpellsNumber raw.toList
  | _ => False

private theorem Part.Shuts.last {part : Part} (shuts : part.Shuts) :
    ∃ front c, part.text = front ++ [c] ∧ isBlank c = false ∧ c ≠ ';' := by
  cases part with
  | quoted content =>
    exact ⟨_, '\'', by rw [Part.text, Sql.quoteLiteral, Sql.enclose, String.toList_ofList], by decide, by decide⟩
  | number raw =>
    have spelled : SpellsNumber raw.toList := shuts
    obtain ⟨front, c, same⟩ := (List.eq_nil_or_concat raw.toList).resolve_left spelled.ne_nil
    rw [List.concat_eq_append] at same
    have member : c ∈ raw.toList := by simp [same]
    exact ⟨front, c, same, spelled.isBlank_of_mem member, spelled.ne_of_mem member (by decide)⟩
  | word | operator | sign => cases shuts

private theorem Part.line_concat (front : List Part) (part : Part) :
    ∃ before, line (front ++ [part]) = before ++ part.text := by
  induction front with
  | nil => exact ⟨[], rfl⟩
  | cons first front ih =>
    obtain ⟨before, same⟩ := ih
    cases front with
    | nil => exact ⟨first.text ++ first.gap part, rfl⟩
    | cons next front =>
      refine ⟨first.text ++ first.gap next ++ before, ?_⟩
      rw [List.append_assoc _ before, ← same]
      rfl

/-- Parts with such a part at their end. -/
def Part.Closed (parts : List Part) : Prop := ∃ front last, parts = front ++ [last] ∧ last.Shuts

theorem Part.Closed.behind {parts : List Part} (closed : Closed parts) (first : List Part) :
    Closed (first ++ parts) := by
  obtain ⟨front, last, rfl, shuts⟩ := closed
  exact ⟨first ++ front, last, (List.append_assoc ..).symm, shuts⟩

theorem Part.Closed.prepared {parts : List Part} (closed : Closed parts) :
    prepareInput (String.ofList (line parts)) = String.ofList (line parts) ∧
      (trim (String.ofList (line parts)).toList).isEmpty = false := by
  obtain ⟨front, part, rfl, shuts⟩ := closed
  obtain ⟨before, same⟩ := line_concat front part
  obtain ⟨inner, c, last, visible, other⟩ := shuts.last
  rw [same, last, ← List.append_assoc]
  generalize before ++ inner = text
  constructor
  · simp [prepareInput, dropClosing, visible, other]
  · have started : trimStart (text ++ [c]) = text.dropWhile isBlank ++ [c] := by
      rw [trimStart, List.dropWhile_append]
      cases text.dropWhile isBlank <;> simp [visible]
    simp [trim, started, trimEnd, visible]

end FormQuery
