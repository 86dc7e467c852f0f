import FormQuery.Proofs.ReadingOn
import FormQuery.Proofs.TokenEnds
import Mathlib.Data.List.DropRight

/-! One statement to a text. Semicolons and blanks may close it, any number of them. As soon as anything else stands
behind a semicolon, the text is refused there, whatever it is. -/

namespace FormQuery

open Text

/-- Whether a character closes a text when nothing else is behind it. -/
def closes (c : Char) : Bool := isBlank c || c = ';'

theorem closes_iff (c : Char) : closes c = true ↔ Parting c := by
  rw [closes, Bool.or_eq_true, decide_eq_true_eq, Parting]

theorem toList_prepareInput (source : String) : (prepareInput source).toList = source.toList.rdropWhile closes :=
  String.toList_ofList

theorem prepareInput_prefix (source : String) : (prepareInput source).toList <+: source.toList := by
  rw [toList_prepareInput]
  exact List.rdropWhile_prefix closes _

theorem prepareInput_closing (source : String) {closing : String} (all : ∀ c ∈ closing.toList, Parting c) :
    prepareInput (source ++ closing) = prepareInput source := by
  have dropped : ∀ c ∈ closing.toList.reverse, closes c = true := by
    intro c member
    exact (closes_iff c).mpr (all c (List.mem_reverse.mp member))
  rw [← String.toList_inj, toList_prepareInput, toList_prepareInput, String.toList_append, List.rdropWhile,
    List.reverse_append, List.dropWhile_append_of_pos dropped, List.rdropWhile]

theorem prepareInput_append (source : String) {more : String} (visible : ∃ c ∈ more.toList, ¬Parting c) :
    prepareInput (source ++ more) = source ++ prepareInput more := by
  have left : (more.toList.reverse.dropWhile closes).isEmpty = false := by
    obtain ⟨c, member, other⟩ := visible
    rw [List.isEmpty_eq_false_iff, Ne, List.dropWhile_eq_nil_iff]
    intro all
    exact other ((closes_iff c).mp (all c (List.mem_reverse.mpr member)))
  rw [← String.toList_inj, String.toList_append, toList_prepareInput, toList_prepareInput, String.toList_append,
    List.rdropWhile, List.reverse_append, List.dropWhile_append, left]
  simp [List.rdropWhile]

theorem Text.trim_eq_nil_iff (text : List Char) : trim text = [] ↔ ∀ c ∈ text, isBlank c = true := by
  have dropped : trim text = (text.dropWhile isBlank).rdropWhile isBlank := rfl
  rw [dropped, List.rdropWhile_eq_nil_iff]
  constructor
  · intro all c member
    rw [← List.takeWhile_append_dropWhile (p := isBlank) (l := text)] at member
    obtain front | back := List.mem_append.mp member
    · exact List.mem_takeWhile_imp front
    · exact all c back
  · intro all c member
    exact all c ((List.dropWhile_sublist isBlank).subset member)

/-- The token that comes first behind an accepted text is refused, if it continues no phrase. Only its own kind and the
character in front of it count, and nothing that follows it. -/
theorem Query.read_behind {source : String} {query : Query} (read : Query.read source = .accepted query)
    (prepared : prepareInput source = source) : ∃ before, ∀ {c : Char} {rest : List Char} {next : Token}
      {ahead : List Token} {text : String}, Parting c → tokensFrom before source.length (c :: rest) = next :: ahead →
      next.kind ∈ strangeKinds → (prepareInput text).toList = source.toList ++ c :: rest →
      Query.read text = .rejected (refusal next "end of input") := by
  obtain ⟨tokens, shape, consists⟩ := exists_consists source
  have visible : Visible tokens := fun token member => (consists.visible token member).1
  unfold Query.read at read
  simp only [prepared, shape] at read
  split at read
  next => cases read
  next some_text =>
    split at read
    next found ran =>
      refine ⟨(tokens.map Token.kind).reverse, ?_⟩
      intro c rest next ahead text parting behind strange typed
      obtain ⟨refused, last, ends, kind⟩ := Query.ofTokens_refused visible ran strange ahead
      -- The last token is recognized, so it is no quote that is still open, and ends where it did.
      have closed : ∀ last ∈ tokens.getLast?, last.kind ≠ .unrecognized := by
        rw [Option.mem_def.mp ends]
        rintro _ ⟨⟩
        exact kind
      have tokenized : tokenize (prepareInput text) = tokens ++ next :: ahead := by
        rw [tokenize, typed, tokensFrom_append shape closed parting rest, List.append_nil, Nat.zero_add,
          String.length_toList, behind]
      have shown : (trim (prepareInput text).toList).isEmpty = false := by
        rw [List.isEmpty_eq_false_iff, Ne, trim_eq_nil_iff, typed]
        intro all
        rw [List.isEmpty_iff, trim_eq_nil_iff] at some_text
        exact some_text fun c member => all c (List.mem_append_left _ member)
      simp only [Query.read, shown, tokenized, refused]
      rfl
    next => cases read

theorem tokensFrom_semicolon (before : List TokenKind) (position : Nat) (rest : List Char) :
    tokensFrom before position (';' :: rest) =
      ⟨.semicolon, ";", position, ";"⟩ :: tokensFrom (.semicolon :: before) (position + 1) rest := by
  have found : lexeme before ';' rest = ⟨.semicolon, 0, [';']⟩ := rfl
  rw [tokensFrom_visible (by decide) found]
  rfl

/-- No second statement can be smuggled in. Behind an accepted text and a semicolon nothing may stand but blanks and
semicolons: anything else is refused at the semicolon, and quotes that are never closed and words of the language make
no difference. Blanks and semicolons alone change nothing behind any text. -/
theorem Query.read_single (source : String) :
    (∀ query, Query.read source = .accepted query → prepareInput source = source →
      ∀ more : String, (∃ c ∈ more.toList, isBlank c = false ∧ c ≠ ';') →
        (Query.read (source ++ ";" ++ more)).query? = none ∧ (Query.read (source ++ ";" ++ more)).diagnostics =
          [⟨.unsupported, "Only a single statement is supported", source.length⟩]) ∧
    ∀ closing : String, (∀ c ∈ closing.toList, isBlank c = true ∨ c = ';') →
      Query.read (source ++ closing) = Query.read source := by
  constructor
  · intro query read prepared more visible
    obtain ⟨before, refused⟩ := Query.read_behind read prepared
    have typed : (prepareInput (source ++ ";" ++ more)).toList =
        source.toList ++ ';' :: (prepareInput more).toList := by
      have solid : ∃ c ∈ more.toList, ¬Parting c := by
        obtain ⟨c, member, seen, other⟩ := visible
        exact ⟨c, member, by simp [Parting, seen, other]⟩
      rw [prepareInput_append _ solid]
      simp
    rw [refused (.inr rfl) (tokensFrom_semicolon before source.length _) (List.mem_cons_self) typed]
    exact ⟨rfl, rfl⟩
  · intro closing all
    unfold Query.read
    rw [prepareInput_closing source all]

theorem Query.read_single_unclosed :
    (Query.read "SELECT * FROM 'f1'; DROP 'f2").query? = none ∧
      (Query.read "SELECT * FROM 'f1'; DROP 'f2").diagnostics =
        [⟨.unsupported, "Only a single statement is supported", 18⟩] ∧
      Query.read "SELECT * FROM 'f1' ;\n;" = Query.read "SELECT * FROM 'f1'" := by
  have some_query : (Query.read "SELECT * FROM 'f1'").query?.isSome = true := by decide +kernel
  have prepared : prepareInput "SELECT * FROM 'f1'" = "SELECT * FROM 'f1'" := by decide +kernel
  obtain ⟨second, closed⟩ := Query.read_single "SELECT * FROM 'f1'"
  cases read : Query.read "SELECT * FROM 'f1'" with
  | accepted query =>
    obtain ⟨none, told⟩ := second query read prepared " DROP 'f2" ⟨'D', by decide⟩
    have all : (" ;\n;".toList.all closes) = true := by decide
    exact ⟨none, told, read ▸ closed " ;\n;" fun c member => (closes_iff c).mp (List.all_eq_true.mp all c member)⟩
  | refused | rejected =>
    rw [read] at some_query
    cases some_query

end FormQuery
