import FormQuery.Proofs.ClosingTokens

/-! The tokens of a prepared text. Taking blanks and semicolons off the end of a text takes the semicolons off the end
of its tokens. No other token is touched, but for a quote that is never closed: it ends where the text ends. -/

namespace FormQuery

open Text

theorem lexeme_semicolon {before : List TokenKind} {c : Char} {rest : List Char}
    (kind : (lexeme before c rest).kind = .semicolon) : c = ';' := by
  unfold lexeme at kind
  split at kind
  next mark =>
    unfold quotedLexeme at kind
    split at kind
    next content more found =>
      rcases quotedKind_cases before content with other | other | other
      all_goals
        rw [other] at kind
        cases kind
    next => cases kind
  next =>
    split at kind
    next found known =>
      obtain ⟨symbol, -, rfl⟩ := Option.map_eq_some_iff.mp known
      cases kind
    next =>
      split at kind
      next found known =>
        subst kind
        simpa [punctuation] using mem_of_lookup known
      next =>
        split at kind
        next => cases kind
        next =>
          split at kind
          next =>
            unfold wordLexeme at kind
            simp only at kind
            split at kind
            next reserved =>
              subst kind
              have named := reservedKind?_cases reserved
              simp [keywords] at named
            next => cases kind
          next => cases kind

theorem text_of_semicolon (before : List TokenKind) (position : Nat) (text : List Char) :
    ∀ token ∈ tokensFrom before position text, token.kind = .semicolon → token.text = ";" := by
  fun_induction tokensFrom before position text with
  | case1 => simp
  | case2 before position c rest blank ih => exact ih
  | case3 before position c rest visible found text ih =>
    refine List.forall_mem_cons.mpr ⟨?_, ih⟩
    intro kind
    have same : c = ';' := lexeme_semicolon kind
    subst same
    have single : found = ⟨.semicolon, 0, [';']⟩ := rfl
    simp [text, single]

theorem rdropWhile_closing (text : List Char) {closing : List Char} (all : ∀ c ∈ closing, Parting c) :
    (text ++ closing).rdropWhile closes = text.rdropWhile closes := by
  have dropped : ∀ c ∈ closing.reverse, closes c = true := by
    intro c member
    exact (closes_iff c).mpr (all c (List.mem_reverse.mp member))
  rw [List.rdropWhile, List.reverse_append, List.dropWhile_append_of_pos dropped, List.rdropWhile]

theorem prepareInput_idempotent (source : String) : prepareInput (prepareInput source) = prepareInput source := by
  rw [← String.toList_inj, toList_prepareInput, toList_prepareInput, List.rdropWhile_idempotent]

theorem eq_nil_of_closing {source : String} {front closing : List Char}
    (typed : (prepareInput source).toList = front ++ closing) (all : ∀ c ∈ closing, Parting c) : closing = [] := by
  have again : (prepareInput source).toList.rdropWhile closes = (prepareInput source).toList := by
    rw [toList_prepareInput, List.rdropWhile_idempotent]
  rw [typed, rdropWhile_closing front all] at again
  have short := (List.rdropWhile_prefix closes front).length_le
  rw [again, List.length_append] at short
  exact List.length_eq_zero_iff.mp (by omega)

theorem last_of_prepared {source : String} {front : List Token}
    (shape : tokenize (prepareInput source) = front ++ [.endAt (prepareInput source).length]) :
    ∀ last ∈ front.getLast?, last.kind ≠ .semicolon := by
  intro last ends kind
  obtain ⟨others, rfl⟩ := List.getLast?_eq_some_iff.mp ends
  obtain ⟨tokens, same, consists⟩ := exists_consists (prepareInput source)
  rw [shape] at same
  obtain ⟨rfl, -⟩ := List.append_inj_left' same rfl
  obtain ⟨gaps, behind, length, blank, typed⟩ := consists.woven
  rcases gaps.eq_nil_or_concat with rfl | ⟨gaps, gap, rfl⟩
  · simp at length
  rw [List.concat_eq_append] at length blank typed
  rw [List.length_append, List.length_append, List.length_singleton, List.length_singleton, Nat.add_right_cancel_iff]
    at length
  rw [List.zip_append length, List.flatMap_append] at typed
  have semicolon : last.text = ";" := by
    refine text_of_semicolon [] 0 (prepareInput source).toList last ?_ kind
    show last ∈ tokenize (prepareInput source)
    simp [shape]
  -- With the blanks behind it, the semicolon would be taken off the end of the text.
  have closing : ∀ c ∈ ';' :: behind, Parting c := by
    refine List.forall_mem_cons.mpr ⟨.inr rfl, fun c member => .inl ?_⟩
    exact blank behind (by simp) c member
  have ended : (prepareInput source).toList =
      ((gaps.zip others).flatMap fun part => part.1 ++ part.2.text.toList) ++ gap ++ (';' :: behind) := by
    rw [typed]
    simp [semicolon]
  have none := eq_nil_of_closing ended closing
  cases none

/-- Such a quote is all of its text from some place on. -/
theorem suffix_of_unclosed (before : List TokenKind) (position : Nat) (text : List Char) {token : Token}
    (member : token ∈ tokensFrom before position text) (unclosed : token.isUnclosed = true) :
    token.text = token.value ∧ token.text.toList <:+ text := by
  obtain ⟨kind, quoted⟩ := Token.isUnclosed_iff.mp unclosed
  fun_induction tokensFrom before position text with
  | case1 before position =>
    obtain rfl := List.mem_singleton.mp member
    cases kind
  | case2 before position c rest blank ih =>
    obtain ⟨same, inside⟩ := ih member
    exact ⟨same, inside.trans (List.suffix_cons c rest)⟩
  | case3 before position c rest visible found text ih =>
    rcases List.mem_cons.mp member with rfl | later
    · have mark : isQuote c = true := by simpa [Token.isQuoted, text] using quoted
      obtain ⟨-, known⟩ : _ ∧ found = ⟨.unrecognized, rest.length, c :: rest⟩ := lexeme_unclosed mark kind
      have whole : text = String.ofList (c :: rest) := by simp [text, known]
      simp [whole, known]
    · obtain ⟨same, inside⟩ := ih later
      exact ⟨same, inside.trans ((List.drop_suffix _ _).trans (List.suffix_cons c rest))⟩

def withoutClosing (text : String) : String := String.ofList (text.toList.rdropWhile closes)

theorem prepareInput_eq (source : String) : prepareInput source = withoutClosing source := by
  rw [← String.toList_inj, toList_prepareInput, withoutClosing, String.toList_ofList]

/-- A quote that is never closed ends where its text ends but for blanks and semicolons. Other tokens stay. -/
def Token.trimmed (token : Token) : Token :=
  if token.isUnclosed then { token with text := withoutClosing token.text, value := withoutClosing token.value }
  else token

theorem Token.trimmed_grown {token : Token} (unclosed : token.isUnclosed = true) {closing : List Char}
    (all : ∀ c ∈ closing, Parting c) : (token.grown closing).trimmed = token.trimmed := by
  have grown : (token.grown closing).isUnclosed = true := by
    obtain ⟨kind, quoted⟩ := Token.isUnclosed_iff.mp unclosed
    exact Token.isUnclosed_iff.mpr ⟨kind, Token.isQuoted_grown quoted closing⟩
  have drops (text : String) : withoutClosing (text ++ String.ofList closing) = withoutClosing text := by
    rw [← prepareInput_eq, ← prepareInput_eq, prepareInput_closing text (by simpa using all)]
  rw [Token.trimmed, if_pos grown, Token.trimmed, if_pos unclosed]
  simp only [Token.grown, drops]

theorem trimmed_of_prepared {source : String} {token : Token} (member : token ∈ tokenize (prepareInput source)) :
    token.trimmed = token := by
  rw [Token.trimmed]
  split
  next unclosed =>
    obtain ⟨same, front, inside⟩ := suffix_of_unclosed [] 0 _ member unclosed
    obtain ⟨closing, all, typed⟩ := exists_closing token.text
    have none : closing = [] := by
      have ended : (prepareInput source).toList = front ++ (prepareInput token.text).toList ++ closing := by
        rw [← inside, typed, List.append_assoc]
      exact eq_nil_of_closing ended all
    have kept : withoutClosing token.text = token.text := by
      rw [← prepareInput_eq, ← String.toList_inj, typed, none, List.append_nil]
    rw [kept, (congrArg withoutClosing same).symm.trans (kept.trans same)]
  next => rfl

/-- Preparing a text takes blanks and semicolons off its end, once and for all. What is left has the tokens of the whole
text, as they were and where they were, but for the semicolons at the end. Only a quote that is never closed is cut, by
what is taken off, and the end of input is the new end. -/
theorem tokenize_prepareInput (source : String) : prepareInput (prepareInput source) = prepareInput source ∧
    (prepareInput source).toList <+: source.toList ∧ tokenize (prepareInput source) =
      ((tokenize source).dropLast.rdropWhile fun token => token.kind = .semicolon).map Token.trimmed ++
        [.endAt (prepareInput source).length] := by
  refine ⟨prepareInput_idempotent source, prepareInput_prefix source, ?_⟩
  obtain ⟨closing, all, typed⟩ := exists_closing source
  obtain ⟨front, shape, further⟩ := tokensFrom_closing [] 0 (prepareInput source).toList all
  rw [Nat.zero_add, String.length_toList] at shape
  rw [← typed] at further
  have unmoved : ∀ token ∈ front, token.trimmed = token := by
    intro token member
    have inside : token ∈ tokenize (prepareInput source) := by
      rw [tokenize, shape]
      exact List.mem_append_left _ member
    exact trimmed_of_prepared inside
  -- What is taken off is semicolons of its own, or the end of a quote that is never closed.
  rcases further with ⟨semicolons, kinds, whole⟩ | ⟨others, token, rfl, unclosed, whole⟩
  · have dropped : ∀ token ∈ semicolons.reverse, decide (token.kind = .semicolon) = true := by
      intro token member
      rw [kinds token (List.mem_reverse.mp member)]
      rfl
    have kept : front.rdropWhile (fun token => token.kind = .semicolon) = front := by
      refine List.rdropWhile_eq_self_iff.mpr fun some_token => ?_
      simpa using last_of_prepared shape _ (List.getLast?_eq_some_getLast some_token)
    rw [tokenize, tokenize, shape, whole, List.dropLast_concat, List.rdropWhile, List.reverse_append,
      List.dropWhile_append_of_pos dropped, ← List.rdropWhile, kept, List.map_congr_left unmoved, List.map_id']
  · have kind : ¬decide ((token.grown closing).kind = .semicolon) = true := by
      simp [Token.grown, (Token.isUnclosed_iff.mp unclosed).1]
    have same : (token.grown closing).trimmed = token := by
      rw [Token.trimmed_grown unclosed all]
      exact unmoved token (by simp)
    have before : others.map Token.trimmed = others := by
      rw [List.map_congr_left fun token member => unmoved token (List.mem_append_left _ member), List.map_id']
    have ends : others ++ [token.grown closing, .endAt (0 + source.toList.length)] =
        others ++ [token.grown closing] ++ [.endAt (0 + source.toList.length)] := by simp
    rw [tokenize, tokenize, shape, whole, ends, List.dropLast_concat,
      List.rdropWhile_concat_neg (fun token : Token => token.kind = .semicolon) _ _ kind, List.map_append, before,
      List.map_singleton, same]

end FormQuery
