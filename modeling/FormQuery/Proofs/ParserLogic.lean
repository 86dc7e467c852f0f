import FormQuery.Query.Parser

/-! Rules for programs that read tokens. A rule says what a reading gives when every token has a known property, and
what is known of the error when it fails. The tokens themselves are arbitrary: whether they come from a text is settled
where the rules are used. -/

namespace FormQuery

variable {α β : Type}

/-- Every token that is not yet read has a property. -/
def Cursor.All (holds : Token → Prop) (cursor : Cursor) : Prop :=
  holds cursor.current ∧ ∀ token ∈ cursor.ahead, holds token

theorem Cursor.All.advance {holds : Token → Prop} {cursor : Cursor} (all : cursor.All holds) :
    cursor.advance.All holds := by
  obtain ⟨token, ahead⟩ := cursor
  unfold Cursor.advance
  split
  · exact all
  · cases ahead with
    | nil => exact all
    | cons next rest => exact ⟨all.2 next (by simp), fun token member => all.2 token (by simp [member])⟩

namespace Parser

theorem run_bind (parser : Parser α) (next : α → Parser β) (cursor : Cursor) :
    (parser >>= next).run cursor = match parser.run cursor with
      | .ok (value, rest) => (next value).run rest
      | .error error => .error error := by
  rw [StateT.run_bind]
  cases parser.run cursor <;> rfl

theorem run_current (cursor : Cursor) : current.run cursor = .ok (cursor.current, cursor) := rfl

theorem run_next (cursor : Cursor) : next.run cursor = .ok (cursor.next, cursor) := rfl

theorem run_advance (cursor : Cursor) : advance.run cursor = .ok (cursor.current, cursor.advance) := rfl

theorem run_atKind (kind : TokenKind) (cursor : Cursor) :
    (atKind kind).run cursor = .ok (decide (cursor.current.kind = kind), cursor) := rfl

theorem run_refuse (expected : String) (cursor : Cursor) :
    (refuse expected : Parser α).run cursor = .error (refusal cursor.current expected) := rfl

theorem run_expect (kind : TokenKind) (expected : String) (cursor : Cursor) :
    (expect kind expected).run cursor =
      if cursor.current.kind = kind then .ok (cursor.current, cursor.advance)
      else .error (refusal cursor.current expected) := by
  simp only [expect, run_bind, run_atKind, decide_eq_true_eq]
  split
  · exact run_advance cursor
  · exact run_refuse expected cursor

/-- What is known of every token and of every error. A token may be refused wherever it stands. -/
structure Terms where
  holds : Token → Prop
  told : SyntaxError → Prop
  refused : ∀ token expected, holds token → told (refusal token expected)

/-- A reading either fails with an error that is known, or gives a value with a property. -/
def Answers (terms : Terms) (post : α → Prop) : Except SyntaxError (α × Cursor) → Prop
  | .ok (value, rest) => post value ∧ rest.All terms.holds
  | .error error => terms.told error

def Ensures (terms : Terms) (parser : Parser α) (post : α → Prop) : Prop :=
  ∀ cursor, cursor.All terms.holds → Answers terms post (parser.run cursor)

variable {terms : Terms} {post : α → Prop}

theorem Answers.bind {parser : Parser α} {next : α → Parser β} {last : β → Prop} {cursor : Cursor}
    (first : Answers terms post (parser.run cursor)) (resume : ∀ value, post value → Ensures terms (next value) last) :
    Answers terms last ((parser >>= next).run cursor) := by
  rw [run_bind]
  cases ran : parser.run cursor with
  | error error =>
    rw [ran] at first
    exact first
  | ok result =>
    rw [ran] at first
    exact resume result.1 first.1 result.2 first.2

namespace Ensures

theorem pure {value : α} (known : post value) : Ensures terms (pure value) post := fun _ all => ⟨known, all⟩

theorem throw {error : SyntaxError} (told : terms.told error) : Ensures terms (throw error : Parser α) post :=
  fun _ _ => told

theorem bind {parser : Parser α} {next : α → Parser β} {last : β → Prop} (first : Ensures terms parser post)
    (resume : ∀ value, post value → Ensures terms (next value) last) : Ensures terms (parser >>= next) last :=
  fun cursor all => (first cursor all).bind resume

theorem current : Ensures terms current terms.holds := fun _ all => ⟨all.1, all⟩

theorem next : Ensures terms next terms.holds := by
  intro cursor all
  refine ⟨?_, all⟩
  obtain ⟨token, ahead⟩ := cursor
  cases ahead with
  | nil => exact all.1
  | cons following rest => exact all.2 following (by simp)

theorem advance : Ensures terms advance terms.holds := fun _ all => ⟨all.1, all.advance⟩

theorem atKind (kind : TokenKind) : Ensures terms (atKind kind) fun _ => True := fun _ all => ⟨trivial, all⟩

theorem refuse (expected : String) : Ensures terms (refuse expected : Parser α) post :=
  fun _ all => terms.refused _ expected all.1

theorem expect (kind : TokenKind) (expected : String) :
    Ensures terms (expect kind expected) fun token => token.kind = kind ∧ terms.holds token := by
  intro cursor all
  rw [run_expect]
  split
  next same => exact ⟨⟨same, all.1⟩, all.advance⟩
  next => exact terms.refused _ expected all.1

theorem ite {condition : Prop} [Decidable condition] {first second : Parser α}
    (left : condition → Ensures terms first post) (right : ¬condition → Ensures terms second post) :
    Ensures terms (if condition then first else second) post := by
  split
  next known => exact left known
  next known => exact right known

/-- Looks ahead for a kind of token and goes on by what stands there. -/
theorem atKind_ite {kind : TokenKind} {first second : Parser α} (left : Ensures terms first post)
    (right : Ensures terms second post) :
    Ensures terms (do if ← Parser.atKind kind then first else second) post :=
  bind (atKind kind) fun _ _ => ite (fun _ => left) (fun _ => right)

end Ensures

end Parser

end FormQuery
