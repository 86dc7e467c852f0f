import FormQuery.Proofs.SingleStatement
import FormQuery.Proofs.UnclosedQuotes

/-! Blanks and semicolons at the end of a text. They add tokens of their own kind and change none of those before them.
Only a quote that is never closed takes them in. So the tokens that are read are tokens of the text as it was given. -/

namespace FormQuery

open Text

theorem quotedSpan?_eq_none {quote : Char} {text : List Char} (apart : ∀ c ∈ text, c ≠ quote) :
    quotedSpan? quote text = none := by
  fun_induction quotedSpan? quote text with
  | case1 | case3 => rfl
  | case2 => exact absurd rfl (apart quote (by simp))
  | case4 | case5 => exact absurd rfl (apart quote (by simp))
  | case6 c d rest different ih =>
    rw [ih fun e member => apart e (List.mem_cons_of_mem c member)]
    rfl

theorem quotedSpan?_append {quote : Char} {text closing : List Char} (unclosed : quotedSpan? quote text = none)
    (apart : ∀ c ∈ closing, c ≠ quote) : quotedSpan? quote (text ++ closing) = none := by
  fun_induction quotedSpan? quote text with
  | case1 => exact quotedSpan?_eq_none apart
  | case2 | case5 => cases unclosed
  | case3 c different =>
    apply quotedSpan?_eq_none
    intro d member
    obtain rfl | later := List.mem_cons.mp member
    · exact different
    · exact apart d later
  | case4 rest ih =>
    have behind := ih (Option.map_eq_none_iff.mp unclosed)
    rw [List.cons_append, List.cons_append, quotedSpan?, if_pos rfl, if_pos rfl, behind]
    rfl
  | case6 c d rest different ih =>
    have behind := ih (Option.map_eq_none_iff.mp unclosed)
    rw [List.cons_append] at behind
    rw [List.cons_append, List.cons_append, quotedSpan?, if_neg different, behind]
    rfl

theorem isQuote_of_parting {c : Char} (parting : Parting c) : isQuote c = false := by
  rw [← Bool.not_eq_true]
  intro mark
  obtain rfl | rfl : c = '\'' ∨ c = '"' := by simpa [isQuote] using mark
  all_goals exact ne_of_parting (by decide) (by decide) _ parting rfl

theorem Token.endAt_position (position : Nat) : (Token.endAt position).position = position := rfl

def Token.grown (token : Token) (more : List Char) : Token :=
  ⟨token.kind, token.text ++ String.ofList more, token.position, token.value ++ String.ofList more⟩

theorem Token.isQuoted_grown {token : Token} (quoted : token.isQuoted = true) (more : List Char) :
    (token.grown more).isQuoted = true := by
  unfold Token.isQuoted Token.grown at *
  rw [String.toList_append]
  cases shape : token.text.toList with
  | nil =>
    rw [shape] at quoted
    cases quoted
  | cons c rest => rwa [shape] at quoted

def Token.isSemicolon (token : Token) : Prop := token = ⟨.semicolon, ";", token.position, ";"⟩

theorem tokensFrom_closing_nil (before : List TokenKind) (position : Nat) {closing : List Char}
    (all : ∀ c ∈ closing, Parting c) : ∃ semicolons, (∀ token ∈ semicolons, token.isSemicolon) ∧
      tokensFrom before position closing = semicolons ++ [.endAt (position + closing.length)] := by
  induction closing generalizing before position with
  | nil => exact ⟨[], by simp, by rw [tokensFrom]; rfl⟩
  | cons c closing ih =>
    obtain ⟨first, others⟩ := List.forall_mem_cons.mp all
    have ends : position + 1 + closing.length = position + (c :: closing).length := by
      rw [List.length_cons]
      omega
    obtain blank | rfl := first
    · obtain ⟨semicolons, kinds, shape⟩ := ih before (position + 1) others
      exact ⟨semicolons, kinds, by rw [tokensFrom_blank _ _ _ blank, shape, ends]⟩
    · obtain ⟨semicolons, kinds, shape⟩ := ih (.semicolon :: before) (position + 1) others
      refine ⟨⟨.semicolon, ";", position, ";"⟩ :: semicolons, List.forall_mem_cons.mpr ⟨rfl, kinds⟩, ?_⟩
      rw [tokensFrom_semicolon, shape, ends, List.cons_append]

theorem parted_closing (tail : List Char) {closing : List Char} (all : ∀ c ∈ closing, Parting c) :
    Parted tail (tail ++ closing) := by
  cases closing with
  | nil =>
    rw [List.append_nil]
    exact .same tail
  | cons d closing => exact parted_append tail (all d List.mem_cons_self) closing

/-- A quote that is never closed takes in the rest of its text. -/
theorem tokensFrom_quote (before : List TokenKind) (position : Nat) {quote : Char} {rest : List Char}
    (mark : isQuote quote = true) (none : quotedSpan? quote rest = none) : tokensFrom before position (quote :: rest) =
      [⟨.unrecognized, String.ofList (quote :: rest), position, String.ofList (quote :: rest)⟩,
        .endAt (position + (quote :: rest).length)] := by
  have visible : ¬isBlank quote = true := by
    intro blank
    rw [isQuote_of_parting (.inl blank)] at mark
    cases mark
  have whole : lexeme before quote rest = ⟨.unrecognized, rest.length, quote :: rest⟩ := by
    rw [lexeme, if_pos mark, quotedLexeme, none]
  rw [tokensFrom_visible visible whole, List.drop_length, tokensFrom, Lexeme.token, List.take_length]
  rfl

/-- What blanks and semicolons at the end of a text do to its tokens: there are semicolons behind them, or a quote that
is never closed takes everything in. The end of input moves on. -/
theorem tokensFrom_closing (before : List TokenKind) (position : Nat) (text : List Char) {closing : List Char}
    (all : ∀ c ∈ closing, Parting c) : ∃ front,
      tokensFrom before position text = front ++ [.endAt (position + text.length)] ∧
      ((∃ semicolons, (∀ token ∈ semicolons, token.isSemicolon) ∧ tokensFrom before position (text ++ closing) =
          front ++ semicolons ++ [.endAt (position + (text ++ closing).length)]) ∨
        ∃ others token, front = others ++ [token] ∧ token.isUnclosed = true ∧
          tokensFrom before position (text ++ closing) =
            others ++ [token.grown closing, .endAt (position + (text ++ closing).length)]) := by
  induction size : text.length using Nat.strongRecOn generalizing before position text with
  | ind size ih =>
  cases text with
  | nil =>
    obtain ⟨semicolons, kinds, shape⟩ := tokensFrom_closing_nil before position all
    exact ⟨[], by rw [tokensFrom]; simp [Token.endAt, ← size], .inl ⟨semicolons, kinds, shape⟩⟩
  | cons c rest =>
    have ends (word tail : List Char) :
        position + (word.length + 1) + tail.length = position + (c :: (word ++ tail)).length := by
      rw [List.length_cons, List.length_append]
      omega
    rw [List.length_cons] at size
    rw [← size, ← List.length_cons, List.cons_append]
    by_cases blank : isBlank c = true
    · rw [tokensFrom_blank _ _ _ blank, tokensFrom_blank _ _ _ blank]
      obtain ⟨front, shape, further⟩ := ih rest.length (by omega) before (position + 1) rest rfl
      have place (tail : List Char) : position + 1 + tail.length = position + (c :: tail).length := ends [] tail
      rw [place] at shape further
      exact ⟨front, shape, further⟩
    generalize known : lexeme before c rest = found
    by_cases unclosed : isQuote c = true ∧ found.kind = .unrecognized
    · obtain ⟨mark, kind⟩ := unclosed
      obtain ⟨none, -⟩ := lexeme_unclosed mark (known ▸ kind)
      have apart : ∀ d ∈ closing, d ≠ c := by
        rintro d member rfl
        rw [isQuote_of_parting (all d member)] at mark
        cases mark
      refine ⟨[_], tokensFrom_quote before position mark none, .inr ⟨[], _, rfl, ?_, ?_⟩⟩
      · simp [Token.isUnclosed, Token.isQuoted, mark]
      · rw [tokensFrom_quote before position mark (quotedSpan?_append none apart), Token.grown, ← String.ofList_append]
        rfl
    · obtain ⟨word, tail, rfl, more⟩ := exists_parts known
      have unmoved : lexeme before c (word ++ (tail ++ closing)) = found :=
        (lexeme_parted (parted_closing tail all) before (known ▸ more) fun _ mark kind =>
          unclosed ⟨mark, known ▸ kind⟩).trans known
      rw [List.length_append] at size
      obtain ⟨front, shape, further⟩ := ih tail.length (by omega) (found.kind :: before) (position + (word.length + 1))
        tail rfl
      rw [ends] at shape further
      rw [List.append_assoc, tokensFrom_parts blank known more, tokensFrom_parts blank unmoved more, shape]
      refine ⟨_ :: front, (List.cons_append ..).symm, ?_⟩
      obtain ⟨semicolons, kinds, behind⟩ | ⟨others, token, rfl, unclosed, behind⟩ := further
      · exact .inl ⟨semicolons, kinds, by rw [behind, List.cons_append, List.cons_append]⟩
      · exact .inr ⟨_ :: others, token, rfl, unclosed, by rw [behind, List.cons_append]⟩

theorem exists_closing (source : String) : ∃ closing, (∀ c ∈ closing, Parting c) ∧
    source.toList = (prepareInput source).toList ++ closing := by
  refine ⟨source.toList.rtakeWhile closes, fun c member => ?_, ?_⟩
  · exact (closes_iff c).mp (List.mem_rtakeWhile_imp member)
  · rw [toList_prepareInput, List.rdropWhile_append_rtakeWhile]

/-- Every token that is read is a token of the text as it was given, but for the end of input. A quote that is never
closed may be longer there. -/
theorem mem_tokenize_of_prepared {source : String} {token : Token} (member : token ∈ tokenize (prepareInput source)) :
    token = .endAt (prepareInput source).length ∨ token ∈ tokenize source ∨
      token.isUnclosed = true ∧ ∃ closing, token.grown closing ∈ tokenize source := by
  obtain ⟨closing, all, typed⟩ := exists_closing source
  obtain ⟨front, shape, further⟩ := tokensFrom_closing [] 0 (prepareInput source).toList all
  rw [Nat.zero_add, String.length_toList] at shape
  rw [← typed] at further
  rw [tokenize, shape, List.mem_append, List.mem_singleton] at member
  obtain inside | ends := member
  · right
    obtain ⟨semicolons, -, same⟩ | ⟨others, last, rfl, unclosed, same⟩ := further
    · refine .inl ?_
      rw [tokenize, same]
      simp [inside]
    · rw [tokenize, same]
      obtain inside | ends := List.mem_append.mp inside
      · exact .inl (List.mem_append_left _ inside)
      · obtain rfl := List.mem_singleton.mp ends
        exact .inr ⟨unclosed, closing, by simp⟩
  · exact .inl ends

end FormQuery
