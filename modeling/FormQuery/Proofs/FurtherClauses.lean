import FormQuery.Proofs.AsciiLetters
import FormQuery.Proofs.SingleStatement

/-! Clauses of other query languages behind a query. Whatever its letter case and whatever follows it, the first word of
such a clause is refused where it stands. It is told to be unsupported, unless it is a function of this language: such a
word is refused like any other that is misplaced. -/

namespace FormQuery

open Text

theorem not_parting_of_isAlpha {c : Char} (letter : c.isAlpha = true) : ¬Parting c := by
  intro parting
  have part := isWordPart_of_parting c parting
  rw [isWordPart_of_isAlpha letter] at part
  cases part

theorem capitals_of_letters {word : String} (letters : ∀ c ∈ word.toList, c.isAlpha = true) :
    capitals word = word.toUpper := by
  rw [← String.toList_inj, capitals, String.toList_ofList, String.toUpper, String.toList_map,
    upper_ascii fun c member => ascii_of_isAlpha (letters c member)]

def wordToken (position : Nat) (word : String) : Token :=
  match reservedKind? word.toUpper with
  | some kind => ⟨kind, word, position, word.toUpper⟩
  | none => ⟨.unrecognized, word, position, word⟩

theorem tokensFrom_word (before : List TokenKind) (position : Nat) {word : String} {tail : List Char}
    (letters : ∀ c ∈ word.toList, c.isAlpha = true) (some_letter : word.toList ≠ [])
    (ends : StartsWith (fun c => isWordPart c = false) tail) :
    ∃ ahead, tokensFrom before position (word.toList ++ tail) = wordToken position word :: ahead := by
  obtain ⟨c, more, typed⟩ := List.exists_cons_of_ne_nil some_letter
  have same : String.ofList (c :: more) = word := by rw [← typed, String.ofList_toList]
  have upper : String.ofList ((c :: more).map Char.toUpper) = word.toUpper := by
    rw [← typed, ← String.toList_inj, String.toList_ofList, String.toUpper, String.toList_map]
  rw [typed] at letters ⊢
  obtain ⟨letter, others⟩ := List.forall_mem_cons.mp letters
  have start := isWordStart_of_isAlpha letter
  have visible : ¬isBlank c = true := by simp [isBlank_of_isWordStart start]
  have parts : ∀ d ∈ more, isWordPart d = true := fun d member => isWordPart_of_isAlpha (others d member)
  have taken := (takeWhile_of_startsWith parts ends).1
  rw [List.cons_append, tokensFrom_visible visible (lexeme_word start before _)]
  refine ⟨_, congrArg (· :: _) ?_⟩
  simp only [wordLexeme, taken, upper, wordToken]
  cases reservedKind? word.toUpper with
  | none => simp [Lexeme.token, same]
  | some kind => simp [Lexeme.token, same, ← upper]

/-- The clauses that other query languages have behind a query: the word that each starts with, and what follows it. -/
def clauseOpeners : List (String × String) :=
  [("JOIN", ""), ("INNER", " JOIN"), ("LEFT", " JOIN"), ("RIGHT", " JOIN"), ("CROSS", " JOIN"), ("GROUP", " BY"),
   ("ORDER", " BY"), ("HAVING", ""), ("LIMIT", ""), ("OFFSET", ""), ("UNION", ""), ("INTERSECT", ""), ("EXCEPT", "")]

theorem opener_word {word rest : String} (opener : (word.toUpper, rest.toUpper) ∈ clauseOpeners) :
    word.toList ≠ [] ∧ ∀ c ∈ word.toList, c.isAlpha = true := by
  have each : ∀ opener ∈ clauseOpeners, opener.1.toList ≠ [] ∧ opener.1.toList.all Char.isAlpha = true := by
    decide +kernel
  have known : word.toUpper.toList ≠ [] ∧ word.toUpper.toList.all Char.isAlpha = true := each _ opener
  rw [String.toUpper, String.toList_map, Ne, List.map_eq_nil_iff, List.all_eq_true, List.forall_mem_map] at known
  refine ⟨known.1, fun c member => ?_⟩
  rw [← isAlpha_toUpper]
  exact known.2 c member

theorem opener_rest {word rest : String} (opener : (word.toUpper, rest.toUpper) ∈ clauseOpeners) :
    StartsWith (fun c => isWordPart c = false) rest.toList := by
  have each : ∀ opener ∈ clauseOpeners, opener.2.toList.head?.any isWordPart = false := by decide +kernel
  intro c first
  have known : rest.toUpper.toList.head?.any isWordPart = false := each _ opener
  rw [String.toUpper, String.toList_map, List.head?_map, Option.mem_def.mp first, Option.map_some, Option.any_some,
    isWordPart_toUpper] at known
  exact known

/-- Words that start a clause and are functions of this language as well. -/
def functionOpeners : List String := ["LEFT", "RIGHT"]

theorem refusal_wordToken {word rest : String} (opener : (word.toUpper, rest.toUpper) ∈ clauseOpeners)
    (position : Nat) (expected : String) : (wordToken position word).kind ∈ strangeKinds ∧
      refusal (wordToken position word) expected =
        if word.toUpper ∈ functionOpeners then
          ⟨.unexpected ⟨.function, word, position, word.toUpper⟩ expected, position⟩
        else ⟨.unsupportedWord word.toUpper, position⟩ := by
  have each : ∀ opener ∈ clauseOpeners,
      if opener.1 ∈ functionOpeners then
        reservedKind? opener.1 = some .function ∧ capitals opener.1 ∉ unsupportedWords
      else reservedKind? opener.1 = none ∧ opener.1 ∈ unsupportedWords := by decide +kernel
  have known := each _ opener
  have upper := capitals_of_letters (opener_word opener).2
  by_cases function : word.toUpper ∈ functionOpeners
  · rw [if_pos function] at known ⊢
    rw [wordToken, known.1]
    exact ⟨by simp [strangeKinds], by simp [refusal, known.2]⟩
  · rw [if_neg function] at known ⊢
    rw [wordToken, known.1]
    exact ⟨by simp [strangeKinds], by simp [refusal, upper, known.2]⟩

theorem message_misplaced (word value : String) (position : Nat) :
    SyntaxCause.message (.unexpected ⟨.function, word, position, value⟩ "end of input") =
      s!"Unexpected function {Text.quoted word}, expected end of input" := by
  have message (found : Token) (expected : String) : SyntaxCause.message (.unexpected found expected) =
    "Unexpected " ++ found.describe ++ ", expected " ++ expected := rfl
  have described : Token.describe ⟨.function, word, position, value⟩ = "function " ++ Text.quoted word := rfl
  have first : "Unexpected " ++ "function " = "Unexpected function " := by decide
  have last : ", expected " ++ "end of input" = ", expected end of input" := by decide
  have parts : s!"Unexpected function {Text.quoted word}, expected end of input" =
    "Unexpected function " ++ Text.quoted word ++ ", expected end of input" := rfl
  rewrite [message, described, parts, ← first, ← last]
  simp only [String.append_assoc]

/-- What is left of a text that starts with a word has the word still. -/
theorem prepareInput_word {word : String} (letters : ∀ c ∈ word.toList, c.isAlpha = true) (more : String) :
    ∃ tail, tail <+: more.toList ∧ (prepareInput (word ++ more)).toList = word.toList ++ tail := by
  by_cases visible : ∃ c ∈ more.toList, ¬Parting c
  · refine ⟨(prepareInput more).toList, prepareInput_prefix more, ?_⟩
    rw [prepareInput_append word visible, String.toList_append]
  · have all : ∀ c ∈ more.toList, Parting c := by
      intro c member
      by_contra other
      exact visible ⟨c, member, other⟩
    refine ⟨[], List.nil_prefix, ?_⟩
    rw [prepareInput_closing word all, toList_prepareInput, List.append_nil, List.rdropWhile_eq_self_iff]
    intro some_letter last
    exact not_parting_of_isAlpha (letters _ (List.getLast_mem some_letter)) ((closes_iff _).mp last)

def withClause (source opener more : String) : String := source ++ " " ++ opener ++ " " ++ more

theorem prepareInput_withClause {source word rest : String} (opener : (word.toUpper, rest.toUpper) ∈ clauseOpeners)
    (more : String) : ∃ tail, StartsWith (fun c => isWordPart c = false) tail ∧
      (prepareInput (withClause source (word ++ rest) more)).toList =
        source.toList ++ ' ' :: (word.toList ++ tail) := by
  obtain ⟨some_letter, letters⟩ := opener_word opener
  obtain ⟨tail, front, typed⟩ := prepareInput_word letters (rest ++ " " ++ more)
  have starts : StartsWith (fun c => isWordPart c = false) (rest ++ " " ++ more).toList := by
    rw [String.append_assoc, String.toList_append, String.toList_append]
    apply (opener_rest opener).append
    intro c first
    cases first
    decide
  have parts : withClause source (word ++ rest) more = source ++ " " ++ (word ++ (rest ++ " " ++ more)) := by
    simp only [withClause, String.append_assoc]
  have visible : ∃ c ∈ (word ++ (rest ++ " " ++ more)).toList, ¬Parting c := by
    obtain ⟨c, others, shape⟩ := List.exists_cons_of_ne_nil some_letter
    exact ⟨c, by simp [shape], not_parting_of_isAlpha (letters c (by simp [shape]))⟩
  refine ⟨tail, starts.of_prefix front, ?_⟩
  rw [parts, prepareInput_append _ visible, String.toList_append, typed]
  simp

/-- A clause of another query language behind an accepted query, in any letter case and with anything behind it. There
is one error, at the first word of the clause. It tells that the word is unsupported, but for the joins whose first word
is a function here. -/
theorem Query.clause_refused {source : String} {query : Query} (read : Query.read source = .accepted query)
    (prepared : prepareInput source = source) {word rest : String}
    (opener : (word.toUpper, rest.toUpper) ∈ clauseOpeners) (more : String) :
    (Query.read (withClause source (word ++ rest) more)).query? = none ∧
      (Query.read (withClause source (word ++ rest) more)).diagnostics =
        [if word.toUpper ∈ functionOpeners then
          ⟨.malformed, s!"Unexpected function {Text.quoted word}, expected end of input", source.length + 1⟩
        else ⟨.unsupported, s!"{word.toUpper} is not supported", source.length + 1⟩] := by
  obtain ⟨some_letter, letters⟩ := opener_word opener
  obtain ⟨before, refused⟩ := Query.read_behind read prepared
  obtain ⟨tail, ends, typed⟩ := prepareInput_withClause opener more
  obtain ⟨ahead, tokens⟩ := tokensFrom_word before (source.length + 1) letters some_letter ends
  obtain ⟨strange, cause⟩ := refusal_wordToken opener (source.length + 1) "end of input"
  have behind : tokensFrom before source.length (' ' :: (word.toList ++ tail)) =
      wordToken (source.length + 1) word :: ahead := by
    rw [tokensFrom_blank _ _ _ (by decide), tokens]
  rw [refused (.inl (by decide)) behind strange typed, cause]
  by_cases function : word.toUpper ∈ functionOpeners
  · rw [if_pos function, if_pos function]
    refine ⟨rfl, ?_⟩
    rw [Reading.diagnostics, SyntaxError.diagnostic, message_misplaced]
    rfl
  · rw [if_neg function, if_neg function]
    exact ⟨rfl, rfl⟩

theorem Query.clause_refused_order :
    (Query.read "SELECT * FROM 'f1' Order by FIELD('c1').'").query? = none ∧
      (Query.read "SELECT * FROM 'f1' Order by FIELD('c1').'").diagnostics =
        [⟨.unsupported, "ORDER is not supported", 19⟩] := by
  have some_query : (Query.read "SELECT * FROM 'f1'").query?.isSome = true := by decide +kernel
  have prepared : prepareInput "SELECT * FROM 'f1'" = "SELECT * FROM 'f1'" := by decide +kernel
  have opener : ("Order".toUpper, " by".toUpper) ∈ clauseOpeners := by decide +kernel
  have shown : withClause "SELECT * FROM 'f1'" ("Order" ++ " by") "FIELD('c1').'" =
    "SELECT * FROM 'f1' Order by FIELD('c1').'" := by decide +kernel
  have capital : "Order".toUpper = "ORDER" := by decide +kernel
  cases read : Query.read "SELECT * FROM 'f1'" with
  | accepted query =>
    have refused := Query.clause_refused read prepared opener "FIELD('c1').'"
    rw [shown, capital, if_neg (by decide)] at refused
    exact refused
  | refused | rejected =>
    rw [read] at some_query
    cases some_query

theorem Query.left_join_misplaced :
    (Query.read "SELECT * FROM 'f1'").query?.isSome = true ∧ prepareInput "SELECT * FROM 'f1'" = "SELECT * FROM 'f1'" ∧
      ("LEFT".toUpper, " JOIN".toUpper) ∈ clauseOpeners ∧
      withClause "SELECT * FROM 'f1'" ("LEFT" ++ " JOIN") "'f2'" = "SELECT * FROM 'f1' LEFT JOIN 'f2'" ∧
      (Query.read "SELECT * FROM 'f1' LEFT JOIN 'f2'").diagnostics =
        [⟨.malformed, "Unexpected function 'LEFT', expected end of input", 19⟩] := by
  decide +kernel

end FormQuery
