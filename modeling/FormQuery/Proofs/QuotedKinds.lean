import FormQuery.Proofs.TokenEnds
import FormQuery.Proofs.UnclosedQuotes

/-! What a quoted span stands for. The two tokens before it and its own content settle that, and nothing else does. The
content is what was typed between the marks, with doubled marks taken for one. -/

namespace FormQuery

open Text

/-- Hexadecimal digits in groups of given sizes, with hyphens between the groups. -/
def IsGrouped (sizes : List Nat) (text : List Char) : Prop :=
  ∃ groups : List (List Char), groups.map List.length = sizes ∧
    (∀ group ∈ groups, ∀ c ∈ group, isHexDigit c = true) ∧ text = ['-'].intercalate groups

def IsUuid (text : List Char) : Prop := IsGrouped [8, 4, 4, 4, 12] text

theorem IsGrouped.length {sizes : List Nat} {text : List Char} (grouped : IsGrouped sizes text)
    (some_size : sizes ≠ []) : text.length + 1 = sizes.foldr (fun size total => size + 1 + total) 0 := by
  obtain ⟨groups, rfl, -, rfl⟩ := grouped
  induction groups with
  | nil => exact absurd rfl some_size
  | cons group groups ih =>
    cases groups with
    | nil => simp
    | cons next groups =>
      have others := ih (by simp)
      rw [List.intercalate_cons_cons]
      simp only [List.length_append, List.length_singleton, List.map_cons, List.foldr_cons] at others ⊢
      omega

theorem IsUuid.length {text : List Char} (uuid : IsUuid text) : text.length = 36 := by
  have known := IsGrouped.length uuid (by simp)
  simpa using known

theorem dropHexGroup?_eq_some {size : Nat} {text rest : List Char} : dropHexGroup? size text = some rest ↔
    ∃ group : List Char, group.length = size ∧ (∀ c ∈ group, isHexDigit c = true) ∧ text = group ++ rest := by
  induction size generalizing text with
  | zero =>
    rw [dropHexGroup?, Option.some.injEq]
    constructor
    · intro same
      exact ⟨[], rfl, by simp, same⟩
    · intro taken
      obtain ⟨group, length, -, same⟩ := taken
      rwa [List.length_eq_zero_iff.mp length] at same
  | succ size ih =>
    cases text with
    | nil =>
      refine ⟨nofun, ?_⟩
      intro taken
      obtain ⟨group, length, -, same⟩ := taken
      rw [(List.append_eq_nil_iff.mp same.symm).1] at length
      cases length
    | cons c text =>
      rw [dropHexGroup?]
      constructor
      · intro dropped
        split at dropped
        next digit =>
          obtain ⟨group, length, digits, rfl⟩ := ih.mp dropped
          exact ⟨c :: group, by simp [length], List.forall_mem_cons.mpr ⟨digit, digits⟩, rfl⟩
        next => cases dropped
      · intro taken
        obtain ⟨group, length, digits, same⟩ := taken
        cases group with
        | nil => cases length
        | cons d group =>
          obtain ⟨rfl, rfl⟩ := List.cons.inj same
          obtain ⟨digit, digits⟩ := List.forall_mem_cons.mp digits
          rw [if_pos digit]
          exact ih.mpr ⟨group, Nat.succ.inj length, digits, rfl⟩

theorem dropHexGroups?_eq_some {sizes : List Nat} {text rest : List Char} (some_size : sizes ≠ []) :
    dropHexGroups? sizes text = some rest ↔ ∃ front, IsGrouped sizes front ∧ text = front ++ rest := by
  induction sizes generalizing text with
  | nil => exact absurd rfl some_size
  | cons size sizes ih =>
    cases sizes with
    | nil =>
      rw [dropHexGroups?, dropHexGroup?_eq_some]
      constructor
      · intro taken
        obtain ⟨group, length, digits, same⟩ := taken
        exact ⟨group, ⟨[group], by simp [length], by simpa using digits, by simp⟩, same⟩
      · intro taken
        obtain ⟨front, ⟨groups, lengths, digits, rfl⟩, same⟩ := taken
        match groups, lengths with
        | [group], lengths =>
          exact ⟨group, by simpa using lengths, by simpa using digits, by simpa using same⟩
    | cons next sizes =>
      have others {text : List Char} : dropHexGroups? (next :: sizes) text = some rest ↔
          ∃ front, IsGrouped (next :: sizes) front ∧ text = front ++ rest := ih (List.cons_ne_nil next sizes)
      simp only [dropHexGroups?]
      constructor
      · intro dropped
        split at dropped
        next behind first =>
          obtain ⟨group, length, digits, rfl⟩ := dropHexGroup?_eq_some.mp first
          obtain ⟨front, ⟨groups, lengths, more, rfl⟩, rfl⟩ := others.mp dropped
          refine ⟨group ++ '-' :: ['-'].intercalate groups, ⟨group :: groups, ?_, ?_, ?_⟩, by simp⟩
          · rw [List.map_cons, length, lengths]
          · exact List.forall_mem_cons.mpr ⟨digits, more⟩
          · cases groups with
            | nil => cases lengths
            | cons second groups => simp
        next => cases dropped
      · intro taken
        obtain ⟨front, ⟨groups, lengths, digits, rfl⟩, same⟩ := taken
        match groups, lengths with
        | group :: second :: groups, lengths =>
          obtain ⟨length, lengths⟩ := List.cons.inj lengths
          obtain ⟨digits, more⟩ := List.forall_mem_cons.mp digits
          have first : dropHexGroup? size text = some ('-' :: (['-'].intercalate (second :: groups) ++ rest)) :=
            dropHexGroup?_eq_some.mpr ⟨group, length, digits, by simp [same]⟩
          rw [first]
          exact others.mpr ⟨_, ⟨second :: groups, lengths, more, rfl⟩, rfl⟩

/-- A line end behind an identifier makes no difference. -/
theorem isIdentifierShaped_iff (text : List Char) :
    isIdentifierShaped text = true ↔ IsUuid text ∨ ∃ front, IsUuid front ∧ text = front ++ ['\n'] := by
  have drops (rest : List Char) : dropHexGroups? identifierShape text = some rest ↔
      ∃ front, IsUuid front ∧ text = front ++ rest := dropHexGroups?_eq_some (by simp [identifierShape])
  have plain : IsUuid text ↔ dropHexGroups? identifierShape text = some [] := by
    rw [drops]
    simp
  rw [isIdentifierShaped, plain, ← drops]
  cases dropHexGroups? identifierShape text <;> simp

def NamesTable (earlier : List Token) : Prop :=
  ∃ word ∈ earlier.getLast?, word.kind = .fromWord ∨ word.kind = .formWord

def NamesField (earlier : List Token) : Prop :=
  ∃ front word sign, earlier = front ++ [word, sign] ∧ word.kind = .fieldWord ∧ sign.kind = .leftParen

def kindsBefore (earlier : List Token) : List TokenKind := (earlier.map Token.kind).reverse

theorem quotedKind_eq_tableRef {before : List TokenKind} {content : List Char} :
    quotedKind before content = .tableRef ↔ before.head? = some .fromWord ∨ before.head? = some .formWord := by
  unfold quotedKind
  split
  · simp
  · simp
  · simp
  next noFrom noForm noField =>
    constructor
    · intro kind
      split at kind <;> cases kind
    · intro named
      cases before with
      | nil => simp at named
      | cons last further =>
        rcases named with named | named
        · exact absurd (congrArg (· :: further) (Option.some.inj named)) (noFrom further)
        · exact absurd (congrArg (· :: further) (Option.some.inj named)) (noForm further)

theorem quotedKind_eq_columnRef {before : List TokenKind} {content : List Char}
    (other : quotedKind before content ≠ .tableRef) : quotedKind before content = .columnRef ↔
      [.leftParen, .fieldWord] <+: before ∨ isIdentifierShaped content = true := by
  unfold quotedKind at other ⊢
  split at other
  · exact absurd rfl other
  · exact absurd rfl other
  · simp
  next noFrom noForm noField =>
    have outside : ¬[.leftParen, .fieldWord] <+: before := by
      intro inside
      obtain ⟨further, same⟩ := inside
      exact noField further same.symm
    split
    next shaped => simp [shaped]
    next unshaped => simp [outside, unshaped]

theorem namesTable_iff (earlier : List Token) : NamesTable earlier ↔
    (kindsBefore earlier).head? = some .fromWord ∨ (kindsBefore earlier).head? = some .formWord := by
  have last : (kindsBefore earlier).head? = earlier.getLast?.map Token.kind := by
    rw [kindsBefore, List.head?_reverse, List.getLast?_map]
  rw [last, NamesTable]
  cases earlier.getLast? <;> simp

theorem namesField_iff (earlier : List Token) : NamesField earlier ↔
    [.leftParen, .fieldWord] <+: kindsBefore earlier := by
  constructor
  · intro named
    obtain ⟨front, word, sign, rfl, field, opening⟩ := named
    exact ⟨kindsBefore front, by simp [kindsBefore, field, opening]⟩
  · intro inside
    obtain ⟨further, same⟩ := inside
    have kinds : earlier.map Token.kind = further.reverse ++ [.fieldWord, .leftParen] := by
      rw [← List.reverse_inj, ← kindsBefore, ← same]
      simp
    obtain ⟨front, ends, rfl, -, lasts⟩ := List.map_eq_append_iff.mp kinds
    obtain ⟨word, ends, rfl, field, lasts⟩ := List.map_eq_cons_iff.mp lasts
    obtain ⟨sign, ends, rfl, opening, lasts⟩ := List.map_eq_cons_iff.mp lasts
    obtain rfl := List.map_eq_nil_iff.mp lasts
    exact ⟨front, word, sign, rfl, field, opening⟩

/-- Every token of a text is what starts the rest of the text there, behind the tokens before it. -/
theorem exists_lexeme {before : List TokenKind} {position : Nat} {text : List Char} {earlier later : List Token}
    {token : Token} (tokens : tokensFrom before position text = earlier ++ token :: later)
    (visible : token.kind ≠ .endOfInput) : ∃ c rest,
      token = (lexeme (kindsBefore earlier ++ before) c rest).token token.position c rest := by
  fun_induction tokensFrom before position text generalizing earlier with
  | case1 before position =>
    cases earlier with
    | nil =>
      obtain ⟨rfl, -⟩ := List.cons.inj tokens
      exact absurd rfl visible
    | cons first earlier => simp at tokens
  | case2 before position c rest blank ih => exact ih tokens
  | case3 before position c rest solid found text =>
    rename_i ih
    cases earlier with
    | nil =>
      obtain ⟨rfl, -⟩ := List.cons.inj tokens
      exact ⟨c, rest, rfl⟩
    | cons first earlier =>
      obtain ⟨rfl, others⟩ := List.cons.inj tokens
      obtain ⟨d, further, same⟩ := ih others
      refine ⟨d, further, ?_⟩
      have kinds : kindsBefore (⟨found.kind, text, position, String.ofList found.value⟩ :: earlier) ++ before =
          kindsBefore earlier ++ found.kind :: before := by simp [kindsBefore]
      rw [kinds]
      exact same

def Token.Encloses (token : Token) (content : String) : Prop :=
  ∃ quote, isQuote quote = true ∧ token.text = Sql.enclose quote content

theorem toList_enclose (quote : Char) (content : String) : (Sql.enclose quote content).toList =
    quote :: (content.toList.flatMap (fun c => if c = quote then [quote, quote] else [c]) ++ [quote]) := by
  simp [Sql.enclose]

theorem quotedSpan?_enclosed {c : Char} {rest : List Char} {quote : Char} {content : String}
    (typed : c :: rest = (Sql.enclose quote content).toList) :
    c = quote ∧ quotedSpan? c rest = some (content.toList, rest.length) := by
  rw [toList_enclose] at typed
  obtain ⟨rfl, rfl⟩ := List.cons.inj typed
  rw [quotedSpan?_doubled c content.toList (by simp)]
  simp

/-- A span that does not end encloses nothing, and one that ends encloses just what is its value. -/
theorem token_of_quote {before : List TokenKind} {position : Nat} {c : Char} {rest : List Char} {token : Token}
    (mark : isQuote c = true) (known : token = (lexeme before c rest).token position c rest) :
    (token.isUnclosed = true ∧ ∀ content, ¬token.Encloses content) ∨
      ∃ content, token.isUnclosed = false ∧ token.kind = quotedKind before content.toList ∧ token.value = content ∧
        ∀ other, token.Encloses other ↔ other = content := by
  rw [lexeme, if_pos mark, quotedLexeme] at known
  cases read : quotedSpan? c rest with
  | none =>
    rw [read] at known
    subst known
    refine .inl ⟨by simp [Token.isUnclosed, Token.isQuoted, Lexeme.token, mark], ?_⟩
    intro content enclosed
    obtain ⟨quote, -, typed⟩ := enclosed
    have whole : c :: rest = (Sql.enclose quote content).toList := by simp [← typed, Lexeme.token]
    rw [(quotedSpan?_enclosed whole).2] at read
    cases read
  | some found =>
    obtain ⟨content, more⟩ := found
    rw [read] at known
    subst known
    obtain ⟨inside, typed⟩ := take_of_quotedSpan? read
    have whole : c :: rest.take more = (Sql.enclose c (String.ofList content)).toList := by
      rw [toList_enclose, String.toList_ofList, typed]
    have recognized : quotedKind before content ≠ .unrecognized := by
      rcases quotedKind_cases before content with kind | kind | kind
      all_goals
        rw [kind]
        decide
    refine .inr ⟨String.ofList content, by simp [Token.isUnclosed, Lexeme.token, recognized], ?_, rfl, ?_⟩
    · rw [String.toList_ofList]
      rfl
    · intro other
      constructor
      · intro enclosed
        obtain ⟨quote, -, same⟩ := enclosed
        have again : c :: rest.take more = (Sql.enclose quote other).toList := by simp [← same, Lexeme.token]
        have first := (quotedSpan?_enclosed whole).2
        rw [(quotedSpan?_enclosed again).2] at first
        exact String.toList_inj.mp (Prod.mk.inj (Option.some.inj first)).1
      · intro same
        subst same
        refine ⟨c, mark, ?_⟩
        rw [← String.toList_inj, ← whole]
        simp [Lexeme.token]

theorem visible_of_quoted {source : String} {token : Token} (member : token ∈ tokenize source)
    (quoted : token.isQuoted = true) : token.kind ≠ .endOfInput := by
  obtain ⟨tokens, shape, consists⟩ := exists_consists source
  rw [shape, List.mem_append, List.mem_singleton] at member
  rcases member with inside | rfl
  · exact (consists.visible token inside).1
  · cases quoted

/-- A quoted span has its kind from the tokens before it and from its content: behind the word that goes before a table
it is a table, in the parentheses of `FIELD` or with an identifier for its content it is a column, and otherwise it is a
string. Its value is what is enclosed. A line end behind an identifier is not looked at. -/
theorem tokenize_quoted {source : String} {earlier later : List Token} {token : Token}
    (tokens : tokenize source = earlier ++ token :: later) (quoted : token.isQuoted = true) :
    (token.isUnclosed = false ↔ ∃ content, token.Encloses content) ∧ ∀ content, token.Encloses content →
      token.value = content ∧ (token.kind = .tableRef ↔ NamesTable earlier) ∧
        (¬NamesTable earlier → (token.kind = .columnRef ↔ NamesField earlier ∨ IsUuid content.toList ∨
          ∃ front, IsUuid front ∧ content.toList = front ++ ['\n'])) ∧
        (token.kind ≠ .tableRef → token.kind ≠ .columnRef → token.kind = .string) := by
  have visible := visible_of_quoted (tokens ▸ List.mem_append_cons_self) quoted
  obtain ⟨c, rest, known⟩ := exists_lexeme tokens visible
  rw [List.append_nil] at known
  have mark : isQuote c = true := by
    rw [known] at quoted
    simpa [Token.isQuoted, Lexeme.token] using quoted
  rcases token_of_quote mark known with ⟨unclosed, nothing⟩ | ⟨enclosed, closed, kind, value, only⟩
  · refine ⟨by simp [unclosed, nothing], fun content typed => absurd typed (nothing content)⟩
  · refine ⟨by simp [closed, only], fun content typed => ?_⟩
    obtain rfl := (only content).mp typed
    have table : token.kind = .tableRef ↔ NamesTable earlier := by
      rw [kind, quotedKind_eq_tableRef, namesTable_iff]
    refine ⟨value, table, ?_, ?_⟩
    · intro other
      rw [← table, kind] at other
      rw [kind, quotedKind_eq_columnRef other, namesField_iff, isIdentifierShaped_iff]
    · intro noTable noColumn
      rw [kind] at noTable noColumn ⊢
      have cases := quotedKind_cases (kindsBefore earlier) content.toList
      exact (cases.resolve_left noTable).resolve_left noColumn

theorem tokenize_quoted_doubled : ∃ earlier token later,
    tokenize "SELECT FIELD('it''s') FROM 'f1'" = earlier ++ token :: later ∧ token.isQuoted = true ∧
      (∃ content, token.Encloses content ∧ token.value = content) ∧ ¬NamesTable earlier ∧ token.kind = .columnRef := by
  let earlier : List Token :=
    [⟨.selectWord, "SELECT", 0, "SELECT"⟩, ⟨.fieldWord, "FIELD", 7, "FIELD"⟩, ⟨.leftParen, "(", 12, "("⟩]
  let token : Token := ⟨.columnRef, "'it''s'", 13, "it's"⟩
  have tokens : tokenize "SELECT FIELD('it''s') FROM 'f1'" = earlier ++ token ::
      [⟨.rightParen, ")", 20, ")"⟩, ⟨.fromWord, "FROM", 22, "FROM"⟩, ⟨.tableRef, "'f1'", 27, "f1"⟩, .endAt 31] := by
    decide +kernel
  have quoted : token.isQuoted = true := by decide
  obtain ⟨closed, kinds⟩ := tokenize_quoted tokens quoted
  obtain ⟨content, enclosed⟩ := closed.mp (by decide)
  obtain ⟨value, -, column, -⟩ := kinds content enclosed
  have noTable : ¬NamesTable earlier := by simp [NamesTable, earlier]
  have field : NamesField earlier := ⟨[⟨.selectWord, "SELECT", 0, "SELECT"⟩], _, _, rfl, rfl, rfl⟩
  exact ⟨earlier, token, _, tokens, quoted, ⟨content, enclosed, value⟩, noTable, (column noTable).mpr (.inl field)⟩

/-- A text of 37 characters is taken for an identifier, and so for a column, when the last of them is a line end. -/
theorem longer_identifier : ∃ earlier token later content,
    tokenize "SELECT '3f2b6c1e-9a4d-4e5f-8a7b-0c1d2e3f4a5b\n' FROM 'f1'" = earlier ++ token :: later ∧
      token.Encloses content ∧ token.kind = .columnRef ∧
      ¬NamesTable earlier ∧ ¬NamesField earlier ∧ ¬IsUuid content.toList := by
  refine ⟨[⟨.selectWord, "SELECT", 0, "SELECT"⟩],
    ⟨.columnRef, "'3f2b6c1e-9a4d-4e5f-8a7b-0c1d2e3f4a5b\n'", 7, "3f2b6c1e-9a4d-4e5f-8a7b-0c1d2e3f4a5b\n"⟩,
    [⟨.fromWord, "FROM", 47, "FROM"⟩, ⟨.tableRef, "'f1'", 52, "f1"⟩, .endAt 56],
    "3f2b6c1e-9a4d-4e5f-8a7b-0c1d2e3f4a5b\n", by decide +kernel, ⟨'\'', by decide +kernel⟩, rfl, ?_, ?_, ?_⟩
  · simp [NamesTable]
  · intro named
    obtain ⟨front, word, sign, same, -⟩ := named
    have length := congrArg List.length same
    simp at length
  · intro uuid
    exact absurd uuid.length (by decide +kernel)

end FormQuery
