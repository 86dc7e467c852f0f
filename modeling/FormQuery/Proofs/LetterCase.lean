import FormQuery.Proofs.FurtherClauses
import Mathlib.Data.List.Find

/-! Letter case in the text of a query. Where a text is typed in other letter case, its tokens are of the same kinds and
at the same places. A word that is reserved is read as the same value, and any other word is one that differs in letter
case alone. What is no word is left as it is. -/

namespace FormQuery

open Text

/-- Two texts that differ in letter case alone. -/
def Alike (text other : List Char) : Prop := other.map Char.toUpper = text.map Char.toUpper

namespace Alike

variable {text other : List Char}

theorem length (alike : Alike text other) : other.length = text.length := by
  have same := congrArg List.length alike
  rwa [List.length_map, List.length_map] at same

theorem nil (alike : Alike [] other) : other = [] := List.map_eq_nil_iff.mp alike

theorem cons {c : Char} {rest : List Char} (alike : Alike (c :: rest) other) :
    ∃ d tail, other = d :: tail ∧ d.toUpper = c.toUpper ∧ Alike rest tail := by
  obtain ⟨d, tail, shape, same, others⟩ := List.map_eq_cons_iff.mp alike
  exact ⟨d, tail, shape, same, others⟩

theorem take (alike : Alike text other) (size : Nat) : Alike (text.take size) (other.take size) := by
  rw [Alike, List.map_take, List.map_take, alike]

theorem startsWith (alike : Alike text other) {holds : Char → Prop} (same : ∀ c, holds c.toUpper ↔ holds c)
    (starts : StartsWith holds text) : StartsWith holds other := by
  cases text with
  | nil =>
    rw [alike.nil]
    exact starts
  | cons c rest =>
    obtain ⟨d, tail, rfl, upper, -⟩ := alike.cons
    intro e first
    cases first
    rw [← same, upper, same]
    exact starts c rfl

theorem takeWhile (alike : Alike text other) {ask : Char → Bool} (same : ∀ c, ask c.toUpper = ask c) :
    Alike (text.takeWhile ask) (other.takeWhile ask) := by
  have mapped (text : List Char) : (text.takeWhile ask).map Char.toUpper = (text.map Char.toUpper).takeWhile ask := by
    rw [List.takeWhile_map]
    congr 2
    exact funext fun c => (same c).symm
  rw [Alike, mapped, mapped, alike]

theorem rdropWhile (alike : Alike text other) {ask : Char → Bool} (same : ∀ c, ask c.toUpper = ask c) :
    other.rdropWhile ask = other.take (text.rdropWhile ask).length := by
  have reversed : Alike text.reverse other.reverse := by rw [Alike, List.map_reverse, List.map_reverse, alike]
  have run : (other.rtakeWhile ask).length = (text.rtakeWhile ask).length := by
    rw [List.rtakeWhile, List.rtakeWhile, List.length_reverse, List.length_reverse, (reversed.takeWhile same).length]
  have parts (text : List Char) : (text.rdropWhile ask).length + (text.rtakeWhile ask).length = text.length := by
    rw [← List.length_append, List.rdropWhile_append_rtakeWhile]
  have length := alike.length
  have equal : (other.rdropWhile ask).length = (text.rdropWhile ask).length := by
    have first := parts text
    have second := parts other
    omega
  rw [← equal]
  exact List.prefix_iff_eq_take.mp (List.rdropWhile_prefix ask other)

theorem numberLength (alike : Alike text other) : numberLength other = numberLength text := by
  have upper (text : List Char) : FormQuery.numberLength (text.map Char.toUpper) = FormQuery.numberLength text := by
    have asked : isDigit ∘ Char.toUpper = isDigit := funext isDigit_toUpper
    simp only [FormQuery.numberLength, List.takeWhile_map, List.dropWhile_map, asked, List.length_map]
    cases text.dropWhile isDigit with
    | nil => rfl
    | cons c rest =>
      have same := beq_toUpper c (by decide : '.'.isAlpha = false)
      by_cases point : '.' = c
      · subst point
        have self : '.'.toUpper = '.' := by decide
        simp only [List.map_cons, self, List.takeWhile_map, asked, List.isEmpty_map, List.length_map]
      · have other : '.' ≠ c.toUpper := by simpa [point] using same
        rw [List.map_cons]
        split
        next shape => exact absurd (List.cons.inj shape).1.symm other
        next =>
          split
          next shape => exact absurd (List.cons.inj shape).1.symm point
          next => rfl
  rw [← upper other, alike, upper]

theorem operatorLexeme? (alike : Alike text other) : operatorLexeme? other = operatorLexeme? text := by
  have starts {symbol : List Char} (signs : ∀ sign ∈ symbol, sign.isAlpha = false) (text : List Char) :
      symbol.isPrefixOf (text.map Char.toUpper) = symbol.isPrefixOf text := by
    induction symbol generalizing text with
    | nil => rfl
    | cons sign symbol ih =>
      obtain ⟨first, others⟩ := List.forall_mem_cons.mp signs
      cases text with
      | nil => rfl
      | cons c text => rw [List.map_cons, List.isPrefixOf, List.isPrefixOf, beq_toUpper c first, ih others]
  have signs (symbol : String) (member : symbol ∈ operatorSymbols) (sign : Char) (typed : sign ∈ symbol.toList) :
      sign.isAlpha = false := by
    have each : operatorSymbols.all fun symbol => symbol.toList.all fun sign => !sign.isAlpha := by decide
    simpa using List.all_eq_true.mp (List.all_eq_true.mp each symbol member) sign typed
  have upper (text : List Char) :
      FormQuery.operatorLexeme? (text.map Char.toUpper) = FormQuery.operatorLexeme? text := by
    rw [FormQuery.operatorLexeme?, FormQuery.operatorLexeme?,
      List.find?_congr fun symbol member => starts (signs symbol member) text]
  rw [← upper other, alike, upper]

end Alike

/-- A token that is no word is left as it is, when the letter case of the text behind it changes. -/
theorem lexeme_alike {before : List TokenKind} {c : Char} {word tail other : List Char}
    (noWord : isWordStart c = false) (whole : (lexeme before c (word ++ tail)).more = word.length)
    (alike : Alike tail other) : lexeme before c (word ++ other) = lexeme before c (word ++ tail) := by
  have all : Alike (c :: (word ++ tail)) (c :: (word ++ other)) := by
    simp only [Alike, List.map_cons, List.map_append]
    rw [alike]
  unfold lexeme at whole ⊢
  by_cases mark : isQuote c = true
  · rw [if_pos mark] at whole
    rw [if_pos mark, if_pos mark]
    unfold quotedLexeme at whole ⊢
    cases read : quotedSpan? c (word ++ tail) with
    | some found =>
      obtain ⟨content, size⟩ := found
      rw [read] at whole
      obtain rfl : size = word.length := whole
      have apart : StartsWith (· ≠ c) tail := by
        have known := startsWith_of_quotedSpan? read
        rwa [List.drop_left] at known
      have noLetter : c.isAlpha = false := by
        obtain rfl | rfl : c = '\'' ∨ c = '"' := by simpa [isQuote] using mark
        all_goals decide
      have same (d : Char) : d.toUpper ≠ c ↔ d ≠ c := by
        have told := beq_toUpper d noLetter
        rw [Bool.eq_iff_iff, beq_iff_eq, beq_iff_eq] at told
        rw [ne_comm, Ne, told, ← Ne, ne_comm]
      rw [quotedSpan?_behind read (alike.startsWith same apart)]
    | none =>
      rw [read] at whole
      have none : (word ++ tail).length = word.length := whole
      rw [List.length_append, Nat.add_eq_left, List.length_eq_zero_iff] at none
      subst none
      rw [alike.nil, read]
  rw [if_neg mark] at whole
  rw [if_neg mark, if_neg mark, all.operatorLexeme?]
  cases symbol : operatorLexeme? (c :: (word ++ tail)) with
  | some found => rfl
  | none =>
    cases sign : punctuation.lookup c with
    | some kind => rfl
    | none =>
      simp only [symbol, sign] at whole ⊢
      by_cases digit : isDigit c = true
      · rw [if_pos digit] at whole
        have more : numberLength (c :: (word ++ tail)) - 1 = word.length := whole
        rw [if_pos digit, if_pos digit, all.numberLength, more, List.take_left, List.take_left]
      · rw [if_neg digit, if_neg digit, noWord]
        rfl

def Token.isWord (token : Token) : Bool :=
  match token.text.toList with
  | c :: _ => isWordStart c
  | [] => false

theorem not_isWordStart_of_isQuote {c : Char} (mark : isQuote c = true) : isWordStart c = false := by
  obtain rfl | rfl : c = '\'' ∨ c = '"' := by simpa [isQuote] using mark
  all_goals decide

theorem Token.isWord_of_isQuoted {token : Token} (quoted : token.isQuoted = true) : token.isWord = false := by
  unfold Token.isQuoted at quoted
  unfold Token.isWord
  cases shape : token.text.toList with
  | nil => rfl
  | cons c rest =>
    rw [shape] at quoted
    exact not_isWordStart_of_isQuote quoted

/-- Whether a token means the same in any letter case: a reserved word does, a word that SQL reserves elsewhere, and the
name of a system column where it is no alias. -/
def Token.isRecasable (behindAs : Bool) (token : Token) : Bool :=
  token.isWord && (reservedKind? token.value = some token.kind || capitals token.value ∈ unsupportedWords ||
    !behindAs && (pseudoColumns.lookup (smallLetters token.value)).isSome)

/-- Two words that differ in letter case alone. -/
structure SameWord (word other : String) : Prop where
  ascii : ∀ c ∈ word.toList, c.toNat < 128
  also : ∀ c ∈ other.toList, c.toNat < 128
  alike : Alike word.toList other.toList

/-- A token in other letter case, where it may change. -/
structure Token.Respells (behindAs : Bool) (token other : Token) : Prop where
  kind : other.kind = token.kind
  position : other.position = token.position
  quoted : other.isQuoted = token.isQuoted
  value : token.kind ≠ .unrecognized → other.value = token.value
  spelled : other.value = token.value ∨ token.isRecasable behindAs = true ∧ SameWord token.value other.value

theorem Token.Respells.refl (behindAs : Bool) (token : Token) : token.Respells behindAs token :=
  ⟨rfl, rfl, rfl, fun _ => rfl, .inl rfl⟩

/-- Tokens in other letter case, where they may change. -/
inductive Respelled : Bool → List Token → List Token → Prop
  | nil (behindAs : Bool) : Respelled behindAs [] []
  | cons {behindAs : Bool} {token other : Token} {tokens others : List Token} (first : token.Respells behindAs other)
      (rest : Respelled (token.kind = .asWord) tokens others) : Respelled behindAs (token :: tokens) (other :: others)

namespace SameWord

variable {word other : String} (same : SameWord word other)

include same

theorem capitals : capitals other = capitals word := by
  rw [FormQuery.capitals, FormQuery.capitals, upper_ascii same.ascii, upper_ascii same.also, same.alike]

theorem smallLetters : smallLetters other = smallLetters word := by
  have mapped (text : List Char) : text.map Char.toLower = (text.map Char.toUpper).map Char.toLower := by
    rw [List.map_map]
    exact List.map_congr_left fun c _ => (toLower_toUpper c).symm
  rw [FormQuery.smallLetters, FormQuery.smallLetters, lower_ascii same.ascii, lower_ascii same.also, mapped, same.alike,
    ← mapped]

theorem startsName : Parser.startsName other = Parser.startsName word := by
  have each (c : Char) : (isLetter c.toUpper || c.toUpper = '_') = (isLetter c || c = '_') := by
    refine toUpper_invariant (fun c => isLetter c || c = '_') true (fun c letter => ?_) c
    rw [isLetter_ascii (ascii_of_isAlpha letter), letter, Bool.true_or]
  have alike := same.alike
  unfold Parser.startsName
  generalize word.toList = typed at alike ⊢
  cases typed with
  | nil => rw [alike.nil]
  | cons c rest =>
    obtain ⟨d, tail, shape, upper, -⟩ := alike.cons
    simp only [shape]
    have first := each d
    rw [upper, each c] at first
    exact first.symm

end SameWord

theorem ascii_of_isWordPart {c : Char} (part : isWordPart c = true) : c.toNat < 128 := by
  obtain start | code := isWordPart_cases part
  · have code := code_of_isWordStart start
    omega
  · omega

theorem ascii_wordLexeme {c : Char} (start : isWordStart c = true) (rest : List Char) :
    ∀ d ∈ c :: rest.take (wordLexeme c rest).more, d.toNat < 128 := by
  have typed : rest.take (wordLexeme c rest).more = rest.takeWhile isWordPart := by
    rw [List.prefix_iff_eq_take.mp (List.takeWhile_prefix isWordPart)]
    simp only [wordLexeme]
    split <;> simp
  rw [typed]
  refine List.forall_mem_cons.mpr ⟨?_, fun d member => ascii_of_isWordPart (List.mem_takeWhile_imp member)⟩
  have code := code_of_isWordStart start
  omega

/-- Two words are read alike: their kinds are the same, and their values if they are reserved. Other words stand for
themselves. -/
theorem wordLexeme_alike {c d : Char} {rest other : List Char} (alike : Alike (c :: rest) (d :: other)) :
    let found := wordLexeme c rest
    let second := wordLexeme d other
    second.kind = found.kind ∧ second.more = found.more ∧ (found.kind ≠ .unrecognized → second.value = found.value) ∧
      (found.kind = .unrecognized →
        found.value = c :: rest.take found.more ∧ second.value = d :: other.take second.more) := by
  have typed (rest : List Char) : rest.take (rest.takeWhile isWordPart).length = rest.takeWhile isWordPart :=
    (List.prefix_iff_eq_take.mp (List.takeWhile_prefix isWordPart)).symm
  obtain ⟨_, _, ⟨⟩, upper, behind⟩ := alike.cons
  have run := behind.takeWhile isWordPart_toUpper
  have capitals : (d :: other.takeWhile isWordPart).map Char.toUpper =
      (c :: rest.takeWhile isWordPart).map Char.toUpper := by
    rw [List.map_cons, List.map_cons, upper, run]
  have length := run.length
  simp only [wordLexeme, capitals, List.length_cons, length]
  cases reserved : reservedKind? (String.ofList ((c :: rest.takeWhile isWordPart).map Char.toUpper)) with
  | some kind =>
    refine ⟨rfl, rfl, fun _ => rfl, ?_⟩
    rintro rfl
    have named := reservedKind?_cases reserved
    simp [keywords] at named
  | none => exact ⟨rfl, rfl, fun known => absurd rfl known, fun _ => ⟨by simp [typed], by simp [← length, typed]⟩⟩

def recasable (behindAs : Bool) : List Token → List Token
  | [] => []
  | token :: rest =>
    let others := recasable (token.kind = .asWord) rest
    if token.isRecasable behindAs then token :: others else others

theorem mem_of_mem_recasable {behindAs : Bool} {tokens : List Token} {token : Token}
    (member : token ∈ recasable behindAs tokens) : token ∈ tokens := by
  induction tokens generalizing behindAs with
  | nil => cases member
  | cons first rest ih =>
    rw [recasable] at member
    split at member
    · obtain rfl | later := List.mem_cons.mp member
      · exact List.mem_cons_self
      · exact List.mem_cons_of_mem _ (ih later)
    · exact List.mem_cons_of_mem _ (ih member)

theorem isWord_of_mem_recasable {behindAs : Bool} {tokens : List Token} {token : Token}
    (member : token ∈ recasable behindAs tokens) : token.isWord = true := by
  induction tokens generalizing behindAs with
  | nil => cases member
  | cons first rest ih =>
    rw [recasable] at member
    split at member
    next fixed =>
      obtain rfl | later := List.mem_cons.mp member
      · exact (Bool.and_eq_true_iff.mp fixed).1
      · exact ih later
    next => exact ih member

theorem mem_recasable_append {behindAs : Bool} {front more : List Token} {token : Token}
    (member : token ∈ recasable behindAs (front ++ more)) (noWords : ∀ token ∈ more, token.isWord = false)
    (others : List Token) : token ∈ recasable behindAs (front ++ others) := by
  induction front generalizing behindAs with
  | nil =>
    have word := isWord_of_mem_recasable member
    rw [noWords token (mem_of_mem_recasable member)] at word
    cases word
  | cons first front ih =>
    rw [List.cons_append, recasable] at member ⊢
    split at member
    next fixed =>
      rw [if_pos fixed]
      obtain rfl | later := List.mem_cons.mp member
      · exact List.mem_cons_self
      · exact List.mem_cons_of_mem _ (ih later)
    next fixed =>
      rw [if_neg fixed]
      exact ih member

/-- A text from a position on, and the same in other letter case inside some tokens. -/
structure RecasedWithin (tokens : List Token) (position : Nat) (text other : List Char) : Prop where
  length : other.length = text.length
  places : ∀ place < text.length, other[place]? = text[place]? ∨
    other[place]?.map Char.toUpper = text[place]?.map Char.toUpper ∧ ∃ token ∈ tokens, token.covers (position + place)

namespace RecasedWithin

variable {tokens : List Token} {position : Nat} {text other : List Char}
  (recased : RecasedWithin tokens position text other)

include recased

theorem alike : Alike text other := by
  have length := recased.length
  apply List.ext_getElem?
  intro place
  rw [List.getElem?_map, List.getElem?_map]
  by_cases inside : place < text.length
  · obtain same | ⟨same, -⟩ := recased.places place inside
    · rw [same]
    · exact same
  · rw [List.getElem?_eq_none (by omega), List.getElem?_eq_none (by omega)]

theorem take {size : Nat} {further : List Token}
    (each : ∀ token ∈ tokens, token ∈ further ∨ position + size ≤ token.position) :
    RecasedWithin further position (text.take size) (other.take size) := by
  refine ⟨by rw [List.length_take, List.length_take, recased.length], ?_⟩
  intro place inside
  obtain ⟨front, inside⟩ := Nat.lt_min.mp (List.length_take ▸ inside)
  rw [List.getElem?_take_of_lt front, List.getElem?_take_of_lt front]
  obtain same | ⟨same, token, member, covers⟩ := recased.places place inside
  · exact .inl same
  · obtain listed | behind := each token member
    · exact .inr ⟨same, token, listed, covers⟩
    · have starts := covers.1
      omega

theorem drop {size : Nat} {further : List Token}
    (each : ∀ token ∈ tokens, token ∈ further ∨ token.stop ≤ position + size) :
    RecasedWithin further (position + size) (text.drop size) (other.drop size) := by
  refine ⟨by rw [List.length_drop, List.length_drop, recased.length], ?_⟩
  intro place inside
  rw [List.length_drop] at inside
  rw [List.getElem?_drop, List.getElem?_drop, Nat.add_assoc]
  obtain same | ⟨same, token, member, covers⟩ := recased.places (size + place) (by omega)
  · exact .inl same
  · obtain listed | before := each token member
    · exact .inr ⟨same, token, listed, covers⟩
    · have ends := covers.2
      omega

end RecasedWithin

theorem RecasedWithin.eq {position : Nat} {text other : List Char} (recased : RecasedWithin [] position text other) :
    other = text := by
  have length := recased.length
  apply List.ext_getElem?
  intro place
  by_cases inside : place < text.length
  · exact (recased.places place inside).resolve_right fun ⟨_, _, never, _⟩ => absurd never List.not_mem_nil
  · rw [List.getElem?_eq_none (by omega), List.getElem?_eq_none (by omega)]

theorem position_le_of_mem_tokensFrom {before : List TokenKind} {position : Nat} {text : List Char} {token : Token}
    (member : token ∈ tokensFrom before position text) : position ≤ token.position := by
  obtain ⟨tokens, shape, cut⟩ := tokensFrom_cut before position text
  rw [shape, List.mem_append, List.mem_singleton] at member
  obtain inside | rfl := member
  · exact (cut.placed token inside).1
  · exact Nat.le_add_right _ _

section

variable {behindAs : Bool} {position : Nat} {c d : Char} {rest tail : List Char}

theorem isQuoted_of_isWordStart (start : isWordStart c = true) (found : Lexeme) :
    (found.token position c rest).isQuoted = false := by
  rw [← Bool.not_eq_true]
  intro quoted
  have apart := Token.isWord_of_isQuoted quoted
  simp [Token.isWord, Lexeme.token, start] at apart

theorem wordLexeme_respells (start : isWordStart c = true) (alike : Alike (c :: rest) (d :: tail))
    (same : ((wordLexeme c rest).token position c rest).isRecasable behindAs = false →
      d :: tail.take (wordLexeme c rest).more = c :: rest.take (wordLexeme c rest).more) :
    ((wordLexeme c rest).token position c rest).Respells behindAs ((wordLexeme d tail).token position d tail) := by
  have second : isWordStart d = true := by
    obtain ⟨_, _, ⟨⟩, upper, -⟩ := alike.cons
    rw [← isWordStart_toUpper, upper, isWordStart_toUpper, start]
  have ascii := ascii_wordLexeme start rest
  have also := ascii_wordLexeme second tail
  obtain ⟨kind, more, value, typed⟩ := wordLexeme_alike alike
  have whole := alike.take ((wordLexeme c rest).more + 1)
  rw [List.take_succ_cons, List.take_succ_cons] at whole
  refine ⟨kind, rfl, ?_, fun known => congrArg String.ofList (value known), ?_⟩
  · rw [isQuoted_of_isWordStart second, isQuoted_of_isWordStart start]
  by_cases unknown : (wordLexeme c rest).kind = .unrecognized
  · obtain ⟨first, last⟩ := typed unknown
    rw [more] at last also
    by_cases fixed : ((wordLexeme c rest).token position c rest).isRecasable behindAs = true
    · rw [← first] at ascii whole
      rw [← last] at also whole
      exact .inr ⟨fixed, by simpa [Lexeme.token] using ascii, by simpa [Lexeme.token] using also,
        by simpa [Lexeme.token] using whole⟩
    · left
      show String.ofList _ = String.ofList _
      rw [last, first, same (Bool.not_eq_true _ ▸ fixed)]
  · exact .inl (congrArg String.ofList (value unknown))

end

namespace RecasedWithin

variable {behindAs : Bool} {position : Nat} {token : Token} {later : List Token} {text other : List Char}
  (recased : RecasedWithin (recasable behindAs (token :: later)) position text other)

include recased

theorem behind {size : Nat} (stop : token.stop = position + size) :
    RecasedWithin (recasable (token.kind = .asWord) later) (position + size) (text.drop size) (other.drop size) := by
  refine recased.drop fun next member => ?_
  rw [recasable] at member
  split at member
  · obtain rfl | listed := List.mem_cons.mp member
    · exact .inr (Nat.le_of_eq stop)
    · exact .inl listed
  · exact .inl member

/-- The first token is as it was, unless it is one of those that may change. -/
theorem unchanged {size : Nat} (fixed : token.isRecasable behindAs = false)
    (behind : ∀ next ∈ later, position + size ≤ next.position) : other.take size = text.take size := by
  refine (recased.take fun next member => .inr ?_).eq
  rw [recasable, fixed] at member
  exact behind next (mem_of_mem_recasable member)

end RecasedWithin

/-- A text in other letter case, where it may change, has the tokens of the first one in other letter case, where they
may change. -/
theorem tokensFrom_respelled {before : List TokenKind} {behindAs : Bool} {position : Nat} {text other : List Char}
    (recased : RecasedWithin (recasable behindAs (tokensFrom before position text)) position text other) :
    Respelled behindAs (tokensFrom before position text) (tokensFrom before position other) := by
  induction long : text.length using Nat.strongRecOn generalizing before behindAs position text other with
  | ind size ih =>
  cases text with
  | nil =>
    rw [recased.alike.nil, tokensFrom]
    exact .cons (.refl _ _) (.nil _)
  | cons c rest =>
    rw [List.length_cons] at long
    obtain ⟨d, tail, rfl, upper, -⟩ := recased.alike.cons
    have blank : isBlank d = isBlank c := by rw [← isBlank_toUpper, upper, isBlank_toUpper]
    by_cases white : isBlank c = true
    · rw [tokensFrom_blank _ _ _ white] at recased ⊢
      rw [tokensFrom_blank _ _ _ (blank.trans white)]
      exact ih rest.length (by omega) (recased.drop fun token member => .inl member) rfl
    · have seen : ¬isBlank d = true := by rwa [blank]
      generalize known : lexeme before c rest = found
      rw [tokensFrom_visible white known] at recased ⊢
      obtain ⟨word, left, rfl, more⟩ := exists_parts known
      have stop : (found.token position c (word ++ left)).stop = position + (found.more + 1) := by
        rw [Token.stop, Lexeme.token, more, List.take_left]
        simp [Nat.add_comm]
      rw [List.length_append] at long
      have others := ih ((word ++ left).drop found.more).length (by rw [more, List.drop_left]; omega)
        (recased.behind stop) rfl
      have same (fixed : (found.token position c (word ++ left)).isRecasable behindAs = false) :
          d :: tail.take found.more = c :: (word ++ left).take found.more :=
        recased.unchanged fixed fun next member => position_le_of_mem_tokensFrom member
      by_cases start : isWordStart c = true
      · have second : isWordStart d = true := by rw [← isWordStart_toUpper, upper, isWordStart_toUpper, start]
        have reads := wordLexeme_alike recased.alike
        rw [lexeme_word start] at known
        rw [known] at reads
        rw [tokensFrom_visible seen (lexeme_word second before tail), reads.1, reads.2.1]
        rw [← known] at same others ⊢
        exact .cons (wordLexeme_respells start recased.alike same) others
      · have fixed : (found.token position c (word ++ left)).isRecasable behindAs = false := by
          simp [Token.isRecasable, Token.isWord, Lexeme.token, start]
        -- A token that is no word stands in both texts.
        obtain ⟨rfl, front⟩ := List.cons.inj (same fixed)
        obtain ⟨behind, rfl⟩ : ∃ behind, tail = word ++ behind := by
          rw [more, List.take_left] at front
          exact ⟨tail.drop word.length, by rw [← List.take_append_drop word.length tail, front, List.drop_left]⟩
        have between := (recased.behind stop).alike
        rw [List.drop_succ_cons, List.drop_succ_cons, more, List.drop_left, List.drop_left] at between
        rw [List.drop_succ_cons, more, List.drop_left, List.drop_left] at others
        have unmoved := (lexeme_alike (Bool.not_eq_true _ ▸ start) (known ▸ more) between).trans known
        rw [← tokensFrom_visible white known, tokensFrom_parts white known more, tokensFrom_parts seen unmoved more]
        exact .cons (.refl _ _) others

end FormQuery
