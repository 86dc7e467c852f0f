import FormQuery.Proofs.ClosingTokens
import FormQuery.Proofs.LetterCase

/-! Queries in other letter case. Reserved words, words that SQL reserves elsewhere and the names of system columns are
read alike in any letter case: the query is the same, or there is an error of the same kind at the same place. -/

namespace FormQuery

open Text

theorem Token.Respells.value_behindAs {token other : Token} (respells : token.Respells true other)
    (word : token.kind = .unrecognized) (known : capitals token.value ∉ unsupportedWords) :
    other.value = token.value := by
  refine respells.spelled.resolve_right ?_
  rintro ⟨fixed, -⟩
  obtain ⟨-, reserved⟩ : token.isWord = true ∧ reservedKind? token.value = some .unrecognized := by
    simpa [Token.isRecasable, word, known] using fixed
  have named := reservedKind?_cases reserved
  simp [keywords] at named

namespace Parser

theorem matches_of_respells {behindAs : Bool} {token other : Token} (respells : token.Respells behindAs other) :
    Matches token other := by
  obtain ⟨kind, position, quoted, value, spelled⟩ := respells
  obtain same | ⟨fixed, same⟩ := spelled
  · refine ⟨kind, position, quoted, value, by rw [same], by rw [same], by rw [same], fun _ => ?_⟩
    rw [bareColumn, bareColumn, same, position]
  · refine ⟨kind, position, quoted, value, same.capitals, same.smallLetters, same.startsName, fun known => ?_⟩
    by_cases word : token.kind = .unrecognized
    · have pseudo : (pseudoColumns.lookup (smallLetters token.value)).isSome = true := by
        simp only [Token.isRecasable, word, known, decide_false, Bool.or_false, Bool.and_eq_true, Bool.or_eq_true,
          decide_eq_true_eq] at fixed
        obtain ⟨-, reserved | ⟨-, pseudo⟩⟩ := fixed
        · have named := reservedKind?_cases reserved
          simp [keywords] at named
        · exact pseudo
      simp only [bareColumn, same.smallLetters, pseudo, if_true, position]
    · rw [bareColumn, bareColumn, value word, position]

theorem refusal_matches {token other : Token} (alike : Matches token other) (expected : String) :
    (refusal other expected).cause.kind = (refusal token expected).cause.kind ∧
      (refusal other expected).position = (refusal token expected).position := by
  unfold refusal
  rw [alike.kind, alike.capital, alike.position]
  generalize (if token.kind = .unrecognized || token.kind = .function then capitals token.value else "") = word
  dsimp only
  split
  · exact ⟨rfl, rfl⟩
  · split <;> exact ⟨rfl, rfl⟩

namespace Pairing

/-- Two runs through the same tokens in other letter case. They stay together, and fail alike. -/
def recased : Pairing where
  stands cursor other := cursor.Ordered ∧
    ∃ begun ∈ other, begun.Ordered ∧ ∃ behindAs, Respelled behindAs cursor.tokens begun.tokens
  alone _ := False
  same token other := ∃ behindAs, token.Respells behindAs other
  told error other := ∃ failed ∈ other, failed.cause.kind = error.cause.kind ∧ failed.position = error.position

variable {cursor begun : Cursor} {behindAs : Bool}

theorem respelled_advance (ordered : cursor.Ordered) (second : begun.Ordered)
    (respelled : Respelled behindAs cursor.tokens begun.tokens) (visible : cursor.current.kind ≠ .endOfInput) :
    Respelled (cursor.current.kind = .asWord) cursor.advance.tokens begun.advance.tokens := by
  obtain ⟨token, ahead⟩ := cursor
  obtain ⟨other, further⟩ := begun
  cases respelled with
  | cons first rest =>
  cases ordered with
  | last ends => exact absurd ends visible
  | more =>
    cases rest with
    | cons next rest =>
      rw [advance_cons visible, advance_cons (by rwa [first.kind])]
      exact .cons next rest

theorem exists_moves_recased {other : Option Cursor} (stands : recased.stands cursor other)
    (visible : cursor.current.kind ≠ .endOfInput) : ∃ after, recased.Moves cursor other after := by
  obtain ⟨ordered, begun, rfl, second, behindAs, respelled⟩ := stands
  refine ⟨some begun.advance, ⟨(Passes.advance ordered).ordered, _, rfl, (Passes.advance second).ordered, _,
    respelled_advance ordered second respelled visible⟩, nofun, ?_⟩
  rintro _ ⟨⟩
  exact ⟨begun, rfl, rfl⟩

theorem Lawful.recased : recased.Lawful where
  ordered := by
    rintro cursor other ⟨ordered, begun, ⟨⟩, second, -⟩
    refine ⟨ordered, ?_⟩
    rintro _ ⟨⟩
    exact second
  same_self := False.elim
  alone_current := by
    rintro cursor ⟨-, begun, none, -⟩
    cases none
  same_current := by
    rintro cursor other ⟨-, begun, ⟨⟩, -, behindAs, respelled⟩
    cases respelled with
    | cons first rest => exact ⟨behindAs, first⟩
  matching same := matches_of_respells same.choose_spec
  told_alone _ := False.elim
  told_refusal expected same := ⟨_, rfl, refusal_matches (matches_of_respells same.choose_spec) expected⟩
  told_both error := ⟨error, rfl, rfl, rfl⟩
  told_count := by
    rintro token other rest name arity given - ⟨-, begun, none, -⟩
    cases none
  peeks := by
    rintro ⟨token, ahead⟩ ⟨other, further⟩ ⟨-, begun, ⟨⟩, -, behindAs, respelled⟩ -
    left
    cases respelled with
    | cons first rest =>
      cases rest with
      | nil => exact Eq.congr_left first.kind
      | cons next rest => exact Eq.congr_left next.kind
  passes stands visible _ := exists_moves_recased stands visible
  aliases stands as_word moves word known := by
    refine ⟨fun left member => ?_, exists_moves_recased moves.stands (by simp [word])⟩
    obtain ⟨ordered, begun, rfl, second, behindAs, respelled⟩ := stands
    obtain ⟨_, ⟨⟩, rfl⟩ := moves.second left member
    have behind := respelled_advance ordered second respelled (by simp [as_word])
    rw [decide_eq_true as_word] at behind
    cases behind with
    | cons first rest => exact first.value_behindAs word known

end Pairing

end Parser

/-- A text in other letter case, inside the tokens that mean the same in any letter case. -/
def Recased (source other : String) : Prop :=
  RecasedWithin (recasable false (tokenize source)) 0 source.toList other.toList

theorem Alike.isEmpty_trim {text other : List Char} (alike : Alike text other) :
    (trim other).isEmpty = (trim text).isEmpty := by
  have asked (text : List Char) : (trim text).isEmpty = text.all isBlank := by
    rw [Bool.eq_iff_iff, List.isEmpty_iff, trim_eq_nil_iff, List.all_eq_true]
  have upper (text : List Char) : (text.map Char.toUpper).all isBlank = text.all isBlank := by
    rw [List.all_map]
    exact congrArg text.all (funext isBlank_toUpper)
  rw [asked, asked, ← upper other, alike, upper]

theorem mem_recasable_prepared {source : String} {token : Token} (member : token ∈ recasable false (tokenize source)) :
    token ∈ recasable false (tokenize (prepareInput source)) := by
  obtain ⟨closing, all, typed⟩ := exists_closing source
  obtain ⟨front, shape, further⟩ := tokensFrom_closing [] 0 (prepareInput source).toList all
  rw [← typed] at further
  rw [tokenize] at member
  rw [tokenize, shape]
  have noEnd (place : Nat) : (Token.endAt place).isWord = false := rfl
  have noWord {token : Token} (semicolon : token.isSemicolon) : token.isWord = false := by
    have sign : isWordStart ';' = false := by decide
    rw [semicolon]
    simp [Token.isWord, sign]
  obtain ⟨semicolons, kinds, same⟩ | ⟨others, quote, rfl, unclosed, same⟩ := further
  · rw [same, List.append_assoc] at member
    refine mem_recasable_append member (fun token later => ?_) _
    obtain listed | ends := List.mem_append.mp later
    · exact noWord (kinds token listed)
    · rw [List.mem_singleton.mp ends, noEnd]
  · have quoted : quote.isQuoted = true := (Bool.and_eq_true_iff.mp unclosed).2
    rw [same] at member
    rw [List.append_assoc]
    refine mem_recasable_append member (List.forall_mem_cons.mpr ⟨?_, List.forall_mem_singleton.mpr (noEnd _)⟩) _
    exact Token.isWord_of_isQuoted (Token.isQuoted_grown quoted closing)

theorem Recased.prepared {source other : String} (recased : Recased source other) :
    Recased (prepareInput source) (prepareInput other) := by
  have closed : ∀ c : Char, closes c.toUpper = closes c := by
    refine toUpper_invariant closes false fun c letter => ?_
    rw [← Bool.not_eq_true, closes_iff]
    exact not_parting_of_isAlpha letter
  have front := List.prefix_iff_eq_take.mp (List.rdropWhile_prefix closes source.toList)
  have taken (size : Nat) : RecasedWithin (recasable false (tokenize (prepareInput source))) 0
      (source.toList.take size) (other.toList.take size) :=
    RecasedWithin.take recased fun token member => .inl (mem_recasable_prepared member)
  have taken := taken (source.toList.rdropWhile closes).length
  rw [← front, ← (RecasedWithin.alike recased).rdropWhile closed] at taken
  rwa [Recased, toList_prepareInput, toList_prepareInput]

/-- Readings that are the same, but for the words of a message. -/
inductive Reading.Alike : Reading → Reading → Prop
  | refused (reason : String) : Alike (.refused reason) (.refused reason)
  | rejected {error other : SyntaxError} (kind : other.cause.kind = error.cause.kind)
      (position : other.position = error.position) : Alike (.rejected error) (.rejected other)
  | accepted (query : Query) : Alike (.accepted query) (.accepted query)

/-- A text in other letter case is read as the same query, or there is an error of the same kind at the same place. -/
theorem Query.read_recased {source other : String} (recased : Recased source other) :
    (Query.read source).Alike (Query.read other) := by
  have prepared := recased.prepared
  obtain ⟨cursor, first, ordered⟩ := (Finished.tokenize (prepareInput source)).exists_cursor
  obtain ⟨begun, second, also⟩ := (Finished.tokenize (prepareInput other)).exists_cursor
  have respelled : Respelled false cursor.tokens begun.tokens := by
    rw [← first, ← second]
    exact tokensFrom_respelled prepared
  have ends := Query.ofTokens_ends .recased ⟨ordered, begun, rfl, also, false, respelled⟩
  rw [Option.map_some, ← first, ← second] at ends
  simp only [Query.read, (RecasedWithin.alike prepared).isEmpty_trim]
  split
  · exact .refused _
  · unfold Parser.Pairing.Ends at ends
    cases read : Query.ofTokens (tokenize (prepareInput source)) with
    | ok query =>
      rw [read] at ends
      obtain ⟨-, ⟨rest, -, begun, none, -⟩ | same⟩ := ends
      · cases none
      · rw [Option.some.inj same]
        exact .accepted query
    | error error =>
      rw [read] at ends
      obtain ⟨failure, ⟨failed, rfl, kind, position⟩, same⟩ := ends
      rw [Option.some.inj (same failed rfl)]
      exact .rejected kind position

theorem Query.read_recased_select :
    Recased "select Count(*), Submitted_At as Total from 'f1' where c1 ilike 'x'"
      "SELECT cOUNT(*), submitted_at AS Total FROM 'f1' WHERE c1 ILIKE 'x'" ∧
    ∃ query, Query.read "select Count(*), Submitted_At as Total from 'f1' where c1 ilike 'x'" = .accepted query ∧
      Query.read "SELECT cOUNT(*), submitted_at AS Total FROM 'f1' WHERE c1 ILIKE 'x'" = .accepted query := by
  have recased : Recased "select Count(*), Submitted_At as Total from 'f1' where c1 ilike 'x'"
      "SELECT cOUNT(*), submitted_at AS Total FROM 'f1' WHERE c1 ILIKE 'x'" := by
    refine ⟨by decide +kernel, ?_⟩
    unfold Token.covers
    decide +kernel
  have some_query :
      (Query.read "select Count(*), Submitted_At as Total from 'f1' where c1 ilike 'x'").query?.isSome = true := by
    decide +kernel
  have alike := Query.read_recased recased
  refine ⟨recased, ?_⟩
  generalize Query.read "select Count(*), Submitted_At as Total from 'f1' where c1 ilike 'x'" = first at some_query alike ⊢
  generalize Query.read "SELECT cOUNT(*), submitted_at AS Total FROM 'f1' WHERE c1 ILIKE 'x'" = second at alike ⊢
  cases alike with
  | accepted query => exact ⟨query, rfl, rfl⟩
  | refused | rejected => cases some_query

end FormQuery
