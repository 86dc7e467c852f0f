import FormQuery.Proofs.TokenShape
import FormQuery.Sql

/-! Nothing is lost in tokens. Every token stands where its position says, as it was typed, and between tokens there
are blanks alone. So a text is its tokens with these blanks, and a place in it that no token covers is blank. -/

namespace FormQuery

open Text

/-- How a value is typed: as it is, as a word in any letter case, or between quotes. -/
inductive Spells : List Char → List Char → Prop
  | same (typed : List Char) : Spells typed typed
  | word (typed : List Char) : Spells typed (typed.map Char.toUpper)
  | quoted {quote : Char} (mark : isQuote quote = true) (content : List Char) :
      Spells (Sql.enclose quote (String.ofList content)).toList content

structure Lexeme.Starts (found : Lexeme) (c : Char) (rest : List Char) : Prop where
  visible : found.kind ≠ .endOfInput
  inside : found.more ≤ rest.length
  spells : Spells (c :: rest.take found.more) found.value

/-- A span is typed as its content with doubled quotes, and a quote to close it. -/
theorem take_of_quotedSpan? {quote : Char} {text content : List Char} {size : Nat}
    (found : quotedSpan? quote text = some (content, size)) : size ≤ text.length ∧
      text.take size = content.flatMap (fun c => if c = quote then [quote, quote] else [c]) ++ [quote] := by
  fun_induction quotedSpan? quote text generalizing content size with
  | case1 | case3 => cases found
  | case2 | case5 =>
    cases found
    simp_all
  | case4 rest ih =>
    obtain ⟨⟨inner, length⟩, known, same⟩ := Option.map_eq_some_iff.mp found
    cases same
    obtain ⟨short, typed⟩ := ih known
    simp [typed, short]
  | case6 c d rest different ih =>
    obtain ⟨⟨inner, length⟩, known, same⟩ := Option.map_eq_some_iff.mp found
    cases same
    obtain ⟨short, typed⟩ := ih known
    simp only [List.length_cons] at short ⊢
    exact ⟨by omega, by simp [typed, different]⟩

theorem quotedLexeme_starts (before : List TokenKind) {quote : Char} (mark : isQuote quote = true)
    (rest : List Char) : (quotedLexeme before quote rest).Starts quote rest := by
  unfold quotedLexeme
  split
  next content more found =>
    obtain ⟨inside, typed⟩ := take_of_quotedSpan? found
    refine ⟨?_, inside, ?_⟩
    · obtain kind | kind | kind := quotedKind_cases before content
      all_goals simp [kind]
    · have shape : quote :: rest.take more = (Sql.enclose quote (String.ofList content)).toList := by
        simp [typed, Sql.enclose]
      rw [shape]
      exact .quoted mark content
  next =>
    refine ⟨by simp, Nat.le_refl _, ?_⟩
    rw [List.take_length]
    exact .same _

theorem operatorLexeme?_starts {c : Char} {rest : List Char} {found : Lexeme}
    (known : operatorLexeme? (c :: rest) = some found) : found.Starts c rest := by
  obtain ⟨symbol, member, rfl⟩ := Option.map_eq_some_iff.mp known
  have starts : symbol.toList <+: c :: rest := List.isPrefixOf_iff_prefix.mp (by simpa using List.find?_some member)
  have typed : symbol.toList = (c :: rest).take symbol.length := by
    rw [← String.length_toList]
    exact List.prefix_iff_eq_take.mp starts
  have long : 0 < symbol.length := by
    have each : ∀ symbol ∈ operatorSymbols, 0 < symbol.length := by decide
    exact each symbol (List.mem_of_find?_eq_some member)
  have short := starts.length_le
  rw [String.length_toList, List.length_cons] at short
  refine ⟨by simp, ?_, ?_⟩
  · simp only
    omega
  · have whole : c :: rest.take (symbol.length - 1) = symbol.toList := by
      rw [typed, ← List.take_succ_cons, Nat.sub_add_cancel long]
    simp only [whole]
    exact .same _

theorem punctuation_starts {c : Char} {kind : TokenKind} (found : punctuation.lookup c = some kind)
    (rest : List Char) : (⟨kind, 0, [c]⟩ : Lexeme).Starts c rest := by
  have visible : ∀ entry ∈ punctuation, entry.2 ≠ .endOfInput := by decide
  exact ⟨visible _ (mem_of_lookup found), Nat.zero_le _, .same _⟩

theorem numberLength_le (text : List Char) : numberLength text ≤ text.length := by
  have parts (text : List Char) : (text.takeWhile isDigit).length + (text.dropWhile isDigit).length = text.length := by
    rw [← List.length_append, List.takeWhile_append_dropWhile]
  have whole := parts text
  simp only [numberLength]
  split
  next rest shape =>
    have fraction := parts rest
    rw [shape, List.length_cons] at whole
    split <;> omega
  next => omega

theorem wordLexeme_starts (c : Char) (rest : List Char) : (wordLexeme c rest).Starts c rest := by
  have inside : (rest.takeWhile isWordPart).length ≤ rest.length := (List.takeWhile_sublist isWordPart).length_le
  have typed : rest.take (rest.takeWhile isWordPart).length = rest.takeWhile isWordPart :=
    (List.prefix_iff_eq_take.mp (List.takeWhile_prefix isWordPart)).symm
  simp only [wordLexeme, List.length_cons, Nat.add_sub_cancel]
  split
  next kind reserved =>
    refine ⟨?_, inside, ?_⟩
    · intro ends
      simp only at ends
      subst ends
      have := reservedKind?_cases reserved
      simp [keywords] at this
    · simp only [typed]
      exact .word _
  next =>
    refine ⟨by simp, inside, ?_⟩
    simp only [typed]
    exact .same _

theorem lexeme_starts (before : List TokenKind) (c : Char) (rest : List Char) :
    (lexeme before c rest).Starts c rest := by
  unfold lexeme
  split
  next mark => exact quotedLexeme_starts before mark rest
  next =>
    split
    next found known => exact operatorLexeme?_starts known
    next =>
      split
      next kind found => exact punctuation_starts found rest
      next =>
        split
        next =>
          have short := numberLength_le (c :: rest)
          rw [List.length_cons] at short
          refine ⟨by simp, ?_, .same _⟩
          simp only
          omega
        next =>
          split
          · exact wordLexeme_starts c rest
          · exact ⟨by simp, Nat.zero_le _, .same _⟩

namespace Token

def stop (token : Token) : Nat := token.position + token.text.length

def covers (token : Token) (place : Nat) : Prop := token.position ≤ place ∧ place < token.stop

def endAt (position : Nat) : Token := ⟨.endOfInput, "", position, ""⟩

end Token

/-- A text from a position on, cut into tokens: what is in front of the rest is a blank, or a token of its own. -/
inductive Cut : Nat → List Char → List Token → Prop
  | ends (position : Nat) : Cut position [] []
  | blank {position : Nat} {c : Char} {rest : List Char} {tokens : List Token} (white : isBlank c = true)
      (behind : Cut (position + 1) rest tokens) : Cut position (c :: rest) tokens
  | visible {token : Token} {rest : List Char} {tokens : List Token} (seen : token.kind ≠ .endOfInput)
      (typed : token.text.toList ≠ []) (spells : Spells token.text.toList token.value.toList)
      (behind : Cut token.stop rest tokens) : Cut token.position (token.text.toList ++ rest) (token :: tokens)

theorem tokensFrom_cut (before : List TokenKind) (position : Nat) (text : List Char) :
    ∃ tokens, tokensFrom before position text = tokens ++ [.endAt (position + text.length)] ∧
      Cut position text tokens := by
  fun_induction tokensFrom before position text with
  | case1 before position => exact ⟨[], rfl, .ends position⟩
  | case2 before position c rest white ih =>
    obtain ⟨tokens, shape, cut⟩ := ih
    refine ⟨tokens, ?_, .blank white cut⟩
    rw [shape, List.length_cons, Nat.add_assoc, Nat.add_comm 1]
  | case3 before position c rest visible found text ih =>
    obtain ⟨tokens, shape, cut⟩ := ih
    obtain ⟨seen, inside, spells⟩ : found.Starts c rest := lexeme_starts before c rest
    have typed : text.toList = c :: rest.take found.more := String.toList_ofList
    have length : text.length = found.more + 1 := by
      rw [← String.length_toList, typed, List.length_cons, List.length_take_of_le inside]
    refine ⟨⟨found.kind, text, position, String.ofList found.value⟩ :: tokens, ?_, ?_⟩
    · have same : position + text.length + (rest.drop found.more).length = position + (c :: rest).length := by
        rw [List.length_drop, List.length_cons]
        omega
      rw [shape, same, List.cons_append]
    · have whole : c :: rest = text.toList ++ rest.drop found.more := by
        rw [typed, List.cons_append, List.take_append_drop]
      rw [whole]
      let token : Token := ⟨found.kind, text, position, String.ofList found.value⟩
      have apart : token.text.toList ≠ [] := by simp [token, typed]
      have meant : Spells token.text.toList token.value.toList := by simpa [token, typed] using spells
      exact @Cut.visible token _ _ seen apart meant cut

namespace Cut

variable {position : Nat} {text : List Char} {tokens : List Token}

theorem placed (cut : Cut position text tokens) : ∀ token ∈ tokens,
    position ≤ token.position ∧ token.stop ≤ position + text.length ∧
      (text.drop (token.position - position)).take token.text.length = token.text.toList := by
  induction cut with
  | ends position => simp
  | @blank position c rest tokens white behind ih =>
    intro token member
    obtain ⟨after, inside, typed⟩ := ih token member
    refine ⟨by omega, by rw [List.length_cons]; omega, ?_⟩
    have shifted : token.position - position = token.position - (position + 1) + 1 := by omega
    rw [shifted, List.drop_succ_cons, typed]
  | @visible first rest tokens seen typed spells behind ih =>
    have length : first.text.toList.length = first.text.length := String.length_toList
    intro token member
    obtain rfl | later := List.mem_cons.mp member
    · refine ⟨Nat.le_refl _, ?_, ?_⟩
      · rw [Token.stop, List.length_append, length]
        omega
      · rw [Nat.sub_self, List.drop_zero, ← length, List.take_left]
    · obtain ⟨after, inside, typed⟩ := ih token later
      rw [List.length_append, length]
      have ends : first.stop = first.position + first.text.length := rfl
      refine ⟨by omega, by omega, ?_⟩
      have shifted : token.position - first.position =
          first.text.toList.length + (token.position - first.stop) := by
        rw [Token.stop, length]
        omega
      rw [shifted, List.drop_length_add_append, typed]

theorem apart (cut : Cut position text tokens) : tokens.Pairwise fun token next => token.stop ≤ next.position := by
  induction cut with
  | ends position => exact .nil
  | blank white behind ih => exact ih
  | visible seen typed spells behind ih =>
    refine .cons ?_ ih
    intro next member
    exact (behind.placed next member).1

theorem covers_or_blank (cut : Cut position text tokens) {place : Nat} (inside : place < text.length) :
    isBlank text[place] = true ∨ ∃ token ∈ tokens, token.covers (position + place) := by
  induction cut generalizing place with
  | ends position => cases inside
  | @blank position c rest tokens white behind ih =>
    cases place with
    | zero => exact .inl white
    | succ place =>
      have known := ih (by simpa using inside)
      rw [Nat.add_assoc, Nat.add_comm 1] at known
      exact known
  | @visible first rest tokens seen typed spells behind ih =>
    have length : first.text.toList.length = first.text.length := String.length_toList
    by_cases own : place < first.text.length
    · right
      refine ⟨first, List.mem_cons_self, Nat.le_add_right _ _, ?_⟩
      rw [Token.stop]
      omega
    · have further : place - first.text.length < rest.length := by
        rw [List.length_append, length] at inside
        omega
      have same : first.stop + (place - first.text.length) = first.position + place := by
        rw [Token.stop]
        omega
      have known := ih further
      rw [same] at known
      rw [List.getElem_append_right (by omega)]
      simp only [length]
      obtain white | ⟨token, member, covered⟩ := known
      · exact .inl white
      · exact .inr ⟨token, List.mem_cons_of_mem _ member, covered⟩

theorem woven (cut : Cut position text tokens) : ∃ (gaps : List (List Char)) (last : List Char),
    gaps.length = tokens.length ∧ (∀ gap ∈ gaps ++ [last], ∀ c ∈ gap, isBlank c = true) ∧
      text = (gaps.zip tokens).flatMap (fun (gap, next) => gap ++ next.text.toList) ++ last := by
  induction cut with
  | ends position => exact ⟨[], [], rfl, by simp, rfl⟩
  | @blank position c rest tokens white behind ih =>
    obtain ⟨gaps, last, length, blank, shape⟩ := ih
    cases gaps with
    | nil =>
      refine ⟨[], c :: last, length, ?_, by simp [shape]⟩
      simpa [white] using blank
    | cons gap gaps =>
      obtain ⟨token, tokens, rfl⟩ : ∃ token others, tokens = token :: others :=
        List.exists_cons_of_length_eq_add_one length.symm
      refine ⟨(c :: gap) :: gaps, last, length, ?_, by simp [shape]⟩
      intro other member
      obtain rfl | later := List.mem_cons.mp member
      · exact List.forall_mem_cons.mpr ⟨white, blank gap (by simp)⟩
      · exact blank other (List.mem_cons_of_mem _ later)
  | visible seen typed spells behind ih =>
    obtain ⟨gaps, last, length, blank, shape⟩ := ih
    refine ⟨[] :: gaps, last, by simp [length], ?_, by simp [shape]⟩
    exact List.forall_mem_cons.mpr ⟨by simp, blank⟩

theorem spelled (cut : Cut position text tokens) : ∀ token ∈ tokens,
    token.kind ≠ .endOfInput ∧ token.text.toList ≠ [] ∧ Spells token.text.toList token.value.toList := by
  induction cut with
  | ends position => simp
  | blank white behind ih => exact ih
  | visible seen typed spells behind ih => exact List.forall_mem_cons.mpr ⟨⟨seen, typed, spells⟩, ih⟩

end Cut

/-- Some tokens are what a text consists of, but for blanks. -/
structure Consists (text : List Char) (tokens : List Token) : Prop where
  visible : ∀ token ∈ tokens, token.kind ≠ .endOfInput ∧ token.text ≠ ""
  placed : ∀ token ∈ tokens, token.stop ≤ text.length ∧
    (text.drop token.position).take token.text.length = token.text.toList
  apart : tokens.Pairwise fun token next => token.stop ≤ next.position
  covered : ∀ place (inside : place < text.length), isBlank text[place] = true ∨ ∃ token ∈ tokens, token.covers place
  woven : ∃ (gaps : List (List Char)) (last : List Char),
    gaps.length = tokens.length ∧ (∀ gap ∈ gaps ++ [last], ∀ c ∈ gap, isBlank c = true) ∧
      text = (gaps.zip tokens).flatMap (fun (gap, next) => gap ++ next.text.toList) ++ last
  spelled : ∀ token ∈ tokens, Spells token.text.toList token.value.toList

theorem Cut.consists {text : List Char} {tokens : List Token} (cut : Cut 0 text tokens) : Consists text tokens := by
  constructor
  · intro token member
    obtain ⟨seen, typed, -⟩ := cut.spelled token member
    exact ⟨seen, fun empty => typed (by rw [empty, String.toList_empty])⟩
  · intro token member
    obtain ⟨-, inside, typed⟩ := cut.placed token member
    rw [Nat.zero_add] at inside
    exact ⟨inside, typed⟩
  · exact cut.apart
  · intro place inside
    have known := cut.covers_or_blank inside
    rwa [Nat.zero_add] at known
  · exact cut.woven
  · intro token member
    exact (cut.spelled token member).2.2

theorem exists_consists (source : String) : ∃ tokens, tokenize source = tokens ++ [.endAt source.length] ∧
    Consists source.toList tokens := by
  obtain ⟨tokens, shape, cut⟩ := tokensFrom_cut [] 0 source.toList
  rw [Nat.zero_add, String.length_toList] at shape
  exact ⟨tokens, shape, cut.consists⟩

/-- A text is its tokens and blanks. The end of input comes last, behind every character, and positions grow. -/
theorem tokenize_consists (source : String) : ∃ tokens, tokenize source = tokens ++ [.endAt source.length] ∧
    Consists source.toList tokens ∧ (tokenize source).Pairwise fun token next => token.position < next.position := by
  obtain ⟨tokens, shape, consists⟩ := exists_consists source
  have grows {token : Token} (member : token ∈ tokens) : token.position < token.stop := by
    have long : 0 < token.text.length := by
      rw [← String.length_toList]
      refine List.length_pos_iff.mpr fun empty => (consists.visible token member).2 ?_
      exact String.toList_eq_nil_iff.mp empty
    rw [Token.stop]
    omega
  refine ⟨tokens, shape, consists, ?_⟩
  rw [shape, List.pairwise_append]
  refine ⟨?_, List.pairwise_singleton _ _, ?_⟩
  · apply consists.apart.imp_of_mem
    intro token next member _ before
    exact Nat.lt_of_lt_of_le (grows member) before
  · intro token member last ends
    obtain rfl := List.mem_singleton.mp ends
    have inside := (consists.placed token member).1
    rw [String.length_toList] at inside
    exact Nat.lt_of_lt_of_le (grows member) inside

/-- A doubled quote, a span that does not end, and an operator of two characters. -/
example : (tokenize " 'a''b'>=\"x ").map (fun token => (token.text, token.position)) =
    [("'a''b'", 1), (">=", 7), ("\"x ", 9), ("", 12)] := by decide +kernel

end FormQuery
