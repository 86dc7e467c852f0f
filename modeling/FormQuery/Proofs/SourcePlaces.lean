import FormQuery.Proofs.ClosingTokens

/-! Places in the text as it was given. Every column of a query that is read stands where the word `FIELD`, the quote or
the bare word that names it starts, and every error stands at a token, or at the end of what is read. -/

namespace FormQuery

open Text

/-- How a value is typed in a token of a kind: between quotes, as it is, or as a word in any letter case. -/
def TokenKind.Types (kind : TokenKind) (typed value : List Char) : Prop :=
  match kind with
  | .tableRef | .columnRef | .string =>
    ∃ quote, isQuote quote = true ∧ typed = (Sql.enclose quote (String.ofList value)).toList
  | .fieldWord => value = "FIELD".toList ∧ typed.map Char.toUpper = value
  | .unrecognized => typed = value
  | _ => True

theorem types_quotedLexeme (before : List TokenKind) {quote : Char} (mark : isQuote quote = true) (rest : List Char) :
    let found := quotedLexeme before quote rest
    found.kind.Types (quote :: rest.take found.more) found.value := by
  unfold quotedLexeme
  cases read : quotedSpan? quote rest with
  | none => exact congrArg (quote :: ·) (List.take_length ..)
  | some found =>
    obtain ⟨content, more⟩ := found
    obtain ⟨-, typed⟩ := take_of_quotedSpan? read
    have enclosed : quote :: rest.take more = (Sql.enclose quote (String.ofList content)).toList := by
      simp [typed, Sql.enclose]
    show (quotedKind before content).Types (quote :: rest.take more) content
    obtain kind | kind | kind := quotedKind_cases before content
    all_goals
      rw [kind]
      exact ⟨quote, mark, enclosed⟩

private theorem types_reserved {typed value : List Char} {kind : TokenKind}
    (reserved : reservedKind? (String.ofList value) = some kind) (word : typed.map Char.toUpper = value) :
    kind.Types typed value := by
  have named := reservedKind?_cases reserved
  cases kind with
  | fieldWord =>
    have field : String.ofList value = "FIELD" := by simpa [keywords] using named
    refine ⟨?_, word⟩
    rw [← field, String.toList_ofList]
  | tableRef | columnRef | string | unrecognized => simp [keywords] at named
  | _ => trivial

private theorem types_punctuation {c : Char} {kind : TokenKind} (found : punctuation.lookup c = some kind)
    (typed value : List Char) : kind.Types typed value := by
  have member := mem_of_lookup found
  simp only [punctuation, List.mem_cons, Prod.mk.injEq, List.not_mem_nil, or_false] at member
  rcases member with ⟨_, rfl⟩ | ⟨_, rfl⟩ | ⟨_, rfl⟩ | ⟨_, rfl⟩ | ⟨_, rfl⟩ <;> trivial

theorem types_wordLexeme (c : Char) (rest : List Char) :
    let found := wordLexeme c rest
    found.kind.Types (c :: rest.take found.more) found.value := by
  have typed : rest.take (rest.takeWhile isWordPart).length = rest.takeWhile isWordPart :=
    (List.prefix_iff_eq_take.mp (List.takeWhile_prefix isWordPart)).symm
  simp only [wordLexeme, List.length_cons, Nat.add_sub_cancel]
  split
  next reserved =>
    simp only [typed]
    exact types_reserved reserved rfl
  next =>
    simp only [typed]
    rfl

theorem types_lexeme (before : List TokenKind) (c : Char) (rest : List Char) :
    let found := lexeme before c rest
    found.kind.Types (c :: rest.take found.more) found.value := by
  unfold lexeme
  split
  next mark => exact types_quotedLexeme before mark rest
  next =>
    split
    next found =>
      obtain ⟨symbol, -, rfl⟩ := Option.map_eq_some_iff.mp found
      trivial
    next =>
      split
      next found => exact types_punctuation found _ _
      next =>
        split
        · trivial
        · split
          · exact types_wordLexeme c rest
          · rfl

theorem types_of_mem_tokensFrom (before : List TokenKind) (position : Nat) (text : List Char) :
    ∀ token ∈ tokensFrom before position text, token.kind.Types token.text.toList token.value.toList := by
  fun_induction tokensFrom before position text with
  | case1 => simp [TokenKind.Types]
  | case2 before position c rest blank ih => exact ih
  | case3 before position c rest visible found text ih =>
    refine List.forall_mem_cons.mpr ⟨?_, ih⟩
    have known := types_lexeme before c rest
    simpa [text] using known

/-- A token of a text: a word at a position. -/
structure TypedAt (source : String) (position : Nat) (word : String) : Prop where
  token : ∃ token ∈ tokenize source, token.position = position ∧ token.text = word
  text : (source.toList.drop position).take word.length = word.toList

/-- A reference stands in a text where its name starts: with the word `FIELD` in any letter case, as a quote with the
name between the marks, or as a bare word. -/
inductive ColumnRef.StandsIn (source : String) (ref : ColumnRef) : Prop
  | field {word : String} (typed : TypedAt source ref.position word) (field : word.toUpper = "FIELD")
  | quoted {quote : Char} (mark : isQuote quote = true)
      (typed : TypedAt source ref.position (Sql.enclose quote ref.name))
  | bare {word : String} (typed : TypedAt source ref.position word) (starts : Parser.startsName word = true)
      (names : ref.name = if ref.pseudo then smallLetters word else word)

theorem typedAt_of_mem {source : String} {token : Token} (member : token ∈ tokenize (prepareInput source))
    (visible : token.kind ≠ .endOfInput) (closed : token.isUnclosed = false) :
    TypedAt source token.position token.text := by
  have listed : token ∈ tokenize source := by
    obtain rfl | listed | ⟨unclosed, -⟩ := mem_tokenize_of_prepared member
    · exact absurd rfl visible
    · exact listed
    · rw [closed] at unclosed
      cases unclosed
  obtain ⟨tokens, shape, consists⟩ := exists_consists source
  refine ⟨⟨token, listed, rfl, rfl⟩, ?_⟩
  rw [shape, List.mem_append, List.mem_singleton] at listed
  obtain inside | rfl := listed
  · exact (consists.placed token inside).2
  · exact absurd rfl visible

theorem ColumnRef.ReadFrom.standsIn {source : String} {ref : ColumnRef}
    (reads : ref.ReadFrom (· ∈ tokenize (prepareInput source))) : ref.StandsIn source := by
  have types {token : Token} (member : token ∈ tokenize (prepareInput source)) :=
    types_of_mem_tokensFrom [] 0 (prepareInput source).toList token member
  have typedAt {token : Token} (member : token ∈ tokenize (prepareInput source)) {kind : TokenKind}
      (same : token.kind = kind) (known : kind ≠ .unrecognized) (visible : kind ≠ .endOfInput) :
      TypedAt source token.position token.text := by
    subst same
    exact typedAt_of_mem member visible (by simp [Token.isUnclosed, known])
  cases reads with
  | @field word name atWord field atName quoted =>
    have shown := types atWord
    rw [field] at shown
    refine .field (typedAt atWord field (by decide) (by decide)) ?_
    rw [← String.toList_inj, String.toUpper, String.toList_map, shown.2, shown.1]
  | @quoted name atName kind =>
    have shown := types atName
    rw [kind] at shown
    obtain ⟨quote, mark, shown⟩ := shown
    rw [String.ofList_toList, String.toList_inj] at shown
    exact .quoted mark (shown ▸ typedAt atName kind (by decide) (by decide))
  | @bare word atWord kind starts =>
    have shown := types atWord
    rw [kind] at shown
    have same : word.text = word.value := String.toList_inj.mp shown
    have closed : word.isUnclosed = false := by
      rw [← Bool.not_eq_true]
      intro unclosed
      obtain ⟨⟨c, rest, mark, typed⟩, -⟩ := tokensFrom_unclosed [] 0 _ atWord unclosed
      exact not_isWord_of_quote mark typed (.inl starts)
    have typed := typedAt_of_mem atWord (by simp [kind]) closed
    rw [← Parser.bareColumn_position word, same] at typed
    refine .bare typed starts ?_
    unfold Parser.bareColumn
    simp only
    split <;> rfl

theorem Query.ofTokens_of_accepted {source : String} {query : Query} (read : Query.read source = .accepted query) :
    Query.ofTokens (tokenize (prepareInput source)) = .ok query := by
  simp only [Query.read] at read
  split at read
  next => cases read
  next =>
    split at read
    next found ran =>
      cases read
      exact ran
    next => cases read

theorem Query.ofTokens_of_rejected {source : String} {error : SyntaxError}
    (read : Query.read source = .rejected error) : Query.ofTokens (tokenize (prepareInput source)) = .error error := by
  simp only [Query.read] at read
  split at read
  next => cases read
  next =>
    split at read
    next => cases read
    next found ran =>
      cases read
      exact ran

/-- The columns of a query that is read stand in the text as it was given, in the order in which the query is traversed.
Every error stands at a token of that text, or at the end of what is read of it. -/
theorem Query.read_places (source : String) :
    (∀ query, Query.read source = .accepted query →
      query.columnRefs.Pairwise (·.position < ·.position) ∧ ∀ ref ∈ query.columnRefs, ref.StandsIn source) ∧
    ∀ error, Query.read source = .rejected error →
      (∃ token ∈ tokenize source, error.position = token.position) ∨ error.position = (prepareInput source).length := by
  obtain ⟨cursor, tokens, ordered⟩ := (Finished.tokenize (prepareInput source)).exists_cursor
  have all : cursor.All (· ∈ tokenize (prepareInput source)) := by
    rw [tokens]
    exact ⟨List.mem_cons_self, fun token member => List.mem_cons_of_mem _ member⟩
  have through := Query.ofTokens_through ordered all
  rw [← tokens] at through
  refine ⟨fun query read => ⟨Query.columnRefs_ordered read, ?_⟩, fun error read => ?_⟩
  · rw [Query.ofTokens_of_accepted read] at through
    exact fun ref member => (through ref member).standsIn
  · rw [Query.ofTokens_of_rejected read] at through
    obtain ⟨token, member, here⟩ := through
    obtain rfl | listed | ⟨-, closing, listed⟩ := mem_tokenize_of_prepared member
    · exact .inr (here.trans (Token.endAt_position _))
    · exact .inl ⟨token, listed, here⟩
    · exact .inl ⟨_, listed, here⟩

theorem Query.read_places_lines :
    (∃ query, Query.read "SELECT count(Field('c1')),\n Submitted_At FROM 'f1'\nWHERE c3 = 2 ;" = .accepted query ∧
      query.columnRefs.map ColumnRef.position = [13, 28, 57] ∧
      ∀ ref ∈ query.columnRefs,
        ref.StandsIn "SELECT count(Field('c1')),\n Submitted_At FROM 'f1'\nWHERE c3 = 2 ;") ∧
    ∃ error, Query.read "SELECT c1 FROM ; ;" = .rejected error ∧
      ((∃ token ∈ tokenize "SELECT c1 FROM ; ;", error.position = token.position) ∨ error.position = 14) := by
  have some_query : (Query.read "SELECT count(Field('c1')),\n Submitted_At FROM 'f1'\nWHERE c3 = 2 ;").query?.map
      (·.columnRefs.map ColumnRef.position) = some [13, 28, 57] := by decide +kernel
  have some_error : (Query.read "SELECT c1 FROM ; ;").diagnostics.map (·.position) = [14] := by decide +kernel
  have stop : (prepareInput "SELECT c1 FROM ; ;").length = 14 := by decide +kernel
  constructor
  · cases read : Query.read "SELECT count(Field('c1')),\n Submitted_At FROM 'f1'\nWHERE c3 = 2 ;" with
    | accepted query =>
      rw [read] at some_query
      exact ⟨query, rfl, Option.some.inj some_query, ((Query.read_places _).1 query read).2⟩
    | refused | rejected =>
      rw [read] at some_query
      cases some_query
  · cases read : Query.read "SELECT c1 FROM ; ;" with
    | rejected error => exact ⟨error, rfl, ((Query.read_places _).2 error read).imp_right fun ends => ends.trans stop⟩
    | refused | accepted =>
      rw [read] at some_error
      exact absurd some_error (by simp [Reading.diagnostics])

end FormQuery
