import FormQuery.Proofs.FirstError

/-! Quotes that are never closed. Such a quote is the last token of its text, and nothing can be done with it: it names
no column, no function and no row. So the text is refused there at the latest. Only behind `AS` it is passed for an
alias, and what is missed then is the `FROM` behind it. -/

namespace FormQuery

open Text

/-- A quoted span that does not end. -/
def Token.isUnclosed (token : Token) : Bool := token.kind = .unrecognized && token.isQuoted

theorem lexeme_unclosed {before : List TokenKind} {quote : Char} {rest : List Char} (mark : isQuote quote = true)
    (unclosed : (lexeme before quote rest).kind = .unrecognized) :
    quotedSpan? quote rest = none ∧ lexeme before quote rest = ⟨.unrecognized, rest.length, quote :: rest⟩ := by
  rw [lexeme, if_pos mark] at unclosed ⊢
  unfold quotedLexeme at unclosed ⊢
  cases read : quotedSpan? quote rest with
  | none => exact ⟨rfl, rfl⟩
  | some found =>
    rw [read] at unclosed
    have same : quotedKind before found.1 = .unrecognized := unclosed
    obtain kind | kind | kind := quotedKind_cases before found.1
    all_goals
      rw [kind] at same
      cases same

theorem Token.isUnclosed_iff {token : Token} :
    token.isUnclosed = true ↔ token.kind = .unrecognized ∧ token.isQuoted = true := by
  simp [Token.isUnclosed]

theorem tokensFrom_unclosed (before : List TokenKind) (position : Nat) (text : List Char) {token : Token}
    (member : token ∈ tokensFrom before position text) (unclosed : token.isUnclosed = true) :
    (∃ c rest, isQuote c = true ∧ token.value.toList = c :: rest) ∧
      ∃ front, tokensFrom before position text = front ++ [token, .endAt (position + text.length)] := by
  obtain ⟨kind, quoted⟩ := Token.isUnclosed_iff.mp unclosed
  fun_induction tokensFrom before position text with
  | case1 before position =>
    obtain rfl := List.mem_singleton.mp member
    cases kind
  | case2 before position c rest blank ih =>
    obtain ⟨typed, front, shape⟩ := ih member
    refine ⟨typed, front, ?_⟩
    rw [shape, List.length_cons, Nat.add_assoc, Nat.add_comm 1]
  | case3 before position c rest visible found text ih =>
    obtain rfl | later := List.mem_cons.mp member
    · have mark : isQuote c = true := by simpa [Token.isQuoted, text] using quoted
      obtain ⟨-, known⟩ : _ ∧ found = ⟨.unrecognized, rest.length, c :: rest⟩ := lexeme_unclosed mark kind
      have typed : text.length = (c :: rest).length := by simp [text, known, Nat.add_comm]
      refine ⟨⟨c, rest, mark, by simp [known]⟩, [], ?_⟩
      rw [typed, known, List.drop_length, tokensFrom]
      rfl
    · obtain ⟨typed, front, shape⟩ := ih later
      refine ⟨typed, ⟨found.kind, text, position, String.ofList found.value⟩ :: front, ?_⟩
      have inside : found.more ≤ rest.length := (lexeme_starts before c rest).inside
      have length : text.length = found.more + 1 := by
        rw [← String.length_toList, String.toList_ofList, List.length_cons, List.length_take_of_le inside]
      have ends : position + text.length + (rest.drop found.more).length = position + (c :: rest).length := by
        rw [length, List.length_drop, List.length_cons]
        omega
      rw [shape, ends, List.cons_append]

theorem not_isWord_of_quote {token : Token} {c : Char} {rest : List Char} (mark : isQuote c = true)
    (typed : token.value.toList = c :: rest) : ¬Parser.IsWord token := by
  have apart : (isLetter c || c = '_') = false ∧ ∀ rest, (lower (c :: rest)).head? = some c := by
    obtain ⟨letter, same, sigma, dotted⟩ : (isLetter c || c = '_') = false ∧ lowerChar c = c ∧
        c.toNat ≠ 0x3a3 ∧ c.toNat ≠ 0x130 := by
      obtain rfl | rfl : c = '\'' ∨ c = '"' := by simpa [isQuote] using mark
      all_goals decide +kernel
    refine ⟨letter, fun rest => ?_⟩
    rw [lower, lowerAfter, if_neg sigma, if_neg dotted, same]
    rfl
  rintro (starts | row)
  · rw [Parser.startsName, typed] at starts
    exact absurd starts (by simp [apart.1])
  · have first : (lower token.value.toList).head? = some 's' := by
      have same : lower token.value.toList = Parser.rowIdColumn.toList := by
        rw [← row, smallLetters, String.toList_ofList]
      rw [same]
      decide
    rw [typed, apart.2] at first
    cases first
    exact absurd mark (by decide)

def EndsInAs (front : List Token) : Prop := ∃ others word, front = others ++ [word] ∧ word.kind = .asWord

namespace Parser.Pairing

/-- A single run through a text with an unclosed quote at its end. It goes up to the quote, and behind it only after
`AS`. -/
def upToQuote (front : List Token) (quote last : Token) : Pairing :=
  single
    (fun cursor => cursor.Ordered ∧ ((∃ left, left <:+ front ∧ cursor = Cursor.preceded ⟨quote, [last]⟩ left) ∨
      EndsInAs front ∧ cursor = ⟨last, []⟩))
    (fun token => token.position ≤ quote.position ∨ EndsInAs front ∧ token.position = last.position)
    (fun error => error.position ≤ quote.position ∨ EndsInAs front ∧ error.position = last.position)

theorem Lawful.upToQuote {front : List Token} {quote last : Token} (visible : Visible front)
    (before : ∀ token ∈ front, token.position < quote.position) (kind : quote.kind = .unrecognized)
    (nameless : ¬IsWord quote) (ends : last.kind = .endOfInput) : (upToQuote front quote last).Lawful := by
  refine .single (fun place => place.1) ?_ (fun _ met => met) ?_ ?_
  · rintro cursor ⟨-, ⟨left, inside, rfl⟩ | ⟨as_word, rfl⟩⟩
    · cases left with
      | nil => exact .inl (Nat.le_refl _)
      | cons token left => exact .inl (Nat.le_of_lt (before token (inside.subset List.mem_cons_self)))
    · exact .inr ⟨as_word, rfl⟩
  · rintro cursor ⟨ordered, ⟨left, inside, rfl⟩ | ⟨-, rfl⟩⟩ moves word
    · refine ⟨(Passes.advance ordered).ordered, .inl ?_⟩
      cases left with
      | nil => exact absurd (word kind) nameless
      | cons token left => exact ⟨left, (List.suffix_cons _ _).trans inside, Cursor.advance_preceded moves⟩
    · exact absurd ends moves
  · rintro cursor ⟨ordered, ⟨left, inside, rfl⟩ | ⟨-, rfl⟩⟩ as_word _
    · refine ⟨(Passes.advance (Passes.advance ordered).ordered).ordered, ?_⟩
      cases left with
      | nil => exact absurd (kind.symm.trans as_word) nofun
      | cons token left =>
        rw [Cursor.advance_preceded (visible token (inside.subset List.mem_cons_self))]
        cases left with
        | nil =>
          obtain ⟨earlier, rfl⟩ := inside
          exact .inr ⟨⟨earlier, token, rfl, as_word⟩, advance_cons (by simp [kind])⟩
        | cons next left =>
          have later := (List.suffix_cons _ _).trans inside
          rw [Cursor.advance_preceded (visible next (later.subset List.mem_cons_self))]
          exact .inl ⟨left, (List.suffix_cons _ _).trans later, rfl⟩
    · exact absurd (ends.symm.trans as_word) nofun

end Parser.Pairing

theorem Query.ofTokens_unclosed {front : List Token} {quote : Token} {stop : Nat}
    (finished : Finished (front ++ [quote, .endAt stop])) (kind : quote.kind = .unrecognized)
    (nameless : ¬Parser.IsWord quote) : ∃ error, Query.ofTokens (front ++ [quote, .endAt stop]) = .error error ∧
      (error.position ≤ quote.position ∨ EndsInAs front ∧ error.position = stop) := by
  have shape : front ++ [quote, .endAt stop] = (front ++ [quote]) ++ [.endAt stop] := by simp
  have visible : Visible (front ++ [quote]) := (shape ▸ finished).visible
  have before : ∀ token ∈ front, token.position < quote.position := fun token member =>
    (List.pairwise_append.mp finished.grows).2.2 token member quote List.mem_cons_self
  have unseen : Visible front := fun token member => visible token (List.mem_append_left _ member)
  have start : front ++ [quote, .endAt stop] = (Cursor.preceded ⟨quote, [.endAt stop]⟩ front).tokens := by
    cases front <;> rfl
  obtain ⟨cursor, same, ordered⟩ := finished.exists_cursor
  obtain rfl : cursor = Cursor.preceded ⟨quote, [.endAt stop]⟩ front := by
    obtain ⟨token, ahead⟩ := cursor
    obtain ⟨rfl, rfl⟩ := List.cons.inj (same.symm.trans start)
    rfl
  have ends := Query.ofTokens_ends (.upToQuote unseen before kind nameless rfl)
    ⟨⟨ordered, .inl ⟨front, List.suffix_rfl, rfl⟩⟩, rfl⟩
  rw [← start] at ends
  cases read : Query.ofTokens (front ++ [quote, .endAt stop]) with
  | error error =>
    rw [read] at ends
    obtain ⟨failure, told, same⟩ := ends
    refine ⟨error, rfl, told ?_⟩
    cases failure with
    | none => rfl
    | some failed => exact absurd (same failed rfl) nofun
  | ok query =>
    -- Nothing that is accepted ends in a token that is not recognized.
    rw [shape] at read
    have strange : (⟨.semicolon, ";", 0, ";"⟩ : Token).kind ∈ strangeKinds := by decide
    obtain ⟨-, last, known, recognized⟩ := Query.ofTokens_refused visible read strange []
    rw [List.getLast?_concat] at known
    obtain rfl := Option.some.inj known
    exact absurd kind recognized

/-- A quote that is never closed is refused where it stands, or something before it is. Only if it stands directly
behind `AS`, it may be the end of the text that is refused. -/
theorem Query.read_unclosed {source : String} {token : Token} (member : token ∈ tokenize (prepareInput source))
    (unclosed : token.isUnclosed = true) : (Query.read source).query? = none ∧
      ∃ diagnostic, (Query.read source).diagnostics = [diagnostic] ∧ (diagnostic.position ≤ token.position ∨
        diagnostic.position = (prepareInput source).length ∧
          ∃ front word, tokenize (prepareInput source) = front ++ [word, token, .endAt (prepareInput source).length] ∧
            word.kind = .asWord) := by
  obtain ⟨⟨c, rest, mark, typed⟩, front, shape⟩ := tokensFrom_unclosed [] 0 _ member unclosed
  rw [Nat.zero_add, String.length_toList] at shape
  obtain ⟨kind, -⟩ := Token.isUnclosed_iff.mp unclosed
  have finished := Finished.tokenize (prepareInput source)
  rw [tokenize, shape] at finished
  obtain ⟨error, refused, place⟩ := Query.ofTokens_unclosed finished kind (not_isWord_of_quote mark typed)
  unfold Query.read
  simp only [tokenize, shape, refused]
  split
  · exact ⟨rfl, _, rfl, .inl (Nat.zero_le _)⟩
  · refine ⟨rfl, _, rfl, ?_⟩
    obtain before | ⟨⟨others, word, rfl, as_word⟩, ends⟩ := place
    · exact .inl before
    · exact .inr ⟨ends, others, word, by simp, as_word⟩

theorem Query.read_unclosed_table : (Query.read "SELECT * FROM 'f1 WHERE").query? = none ∧
    ∃ diagnostic, (Query.read "SELECT * FROM 'f1 WHERE").diagnostics = [diagnostic] ∧ diagnostic.position ≤ 14 := by
  have member : ⟨.unrecognized, "'f1 WHERE", 14, "'f1 WHERE"⟩ ∈ tokenize (prepareInput "SELECT * FROM 'f1 WHERE") := by
    decide +kernel
  obtain ⟨none, diagnostic, only, place⟩ := Query.read_unclosed member (by decide)
  refine ⟨none, diagnostic, only, place.resolve_right ?_⟩
  rintro ⟨-, front, word, shape, as_word⟩
  have listed : word ∈ tokenize (prepareInput "SELECT * FROM 'f1 WHERE") := by simp [shape]
  have each : ∀ token ∈ tokenize (prepareInput "SELECT * FROM 'f1 WHERE"), token.kind ≠ .asWord := by decide +kernel
  exact each word listed as_word

/-- An alias that is not closed is passed, and the end of the text is refused instead. -/
theorem Query.unclosed_alias_passed :
    (∃ token ∈ tokenize (prepareInput "SELECT FIELD('c1') AS 'total"), token.isUnclosed = true ∧ token.position = 22) ∧
      (Query.read "SELECT FIELD('c1') AS 'total").diagnostics =
        [⟨.malformed, "Unexpected end of input, expected FROM", 28⟩] := by
  decide +kernel

end FormQuery
