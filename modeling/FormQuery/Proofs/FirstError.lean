import FormQuery.Proofs.PairedReaders

/-! The first error of a token list. It stands at a token of the list, and nothing behind the token after it has been
looked at: any list that agrees so far is refused with the same error. Only a wrong number of arguments is told later
than it is found, at the name of the function. -/

namespace FormQuery

/-- A list that ends in its only end of input, at growing positions. -/
structure Finished (tokens : List Token) : Prop where
  ends : ∃ front last, tokens = front ++ [last] ∧ Visible front ∧ last.kind = .endOfInput
  grows : tokens.Pairwise (·.position < ·.position)

namespace Finished

variable {token : Token} {rest : List Token}

theorem tail (finished : Finished (token :: rest)) : rest = [] ∨ Finished rest := by
  obtain ⟨⟨front, last, shape, visible, ends⟩, grows⟩ := finished
  cases front with
  | nil => exact .inl (List.cons.inj shape).2
  | cons first front =>
    refine .inr ⟨⟨front, last, (List.cons.inj shape).2, ?_, ends⟩, (List.pairwise_cons.mp grows).2⟩
    exact fun token member => visible token (List.mem_cons_of_mem first member)

theorem ends_iff (finished : Finished (token :: rest)) : token.kind = .endOfInput ↔ rest = [] := by
  obtain ⟨⟨front, last, shape, visible, ends⟩, -⟩ := finished
  cases front with
  | nil =>
    obtain ⟨rfl, rfl⟩ := List.cons.inj shape
    exact ⟨fun _ => rfl, fun _ => ends⟩
  | cons first front =>
    obtain ⟨rfl, rfl⟩ := List.cons.inj shape
    exact ⟨fun kind => absurd kind (visible token List.mem_cons_self), fun none => absurd none (by simp)⟩

theorem visible {front : List Token} {last : Token} (finished : Finished (front ++ [last])) : Visible front := by
  obtain ⟨others, _, shape, visible, -⟩ := finished.ends
  obtain ⟨rfl, -⟩ := List.append_inj' shape rfl
  exact visible

theorem ordered (finished : Finished (token :: rest)) : Cursor.Ordered ⟨token, rest⟩ := by
  induction rest generalizing token with
  | nil => exact .last (finished.ends_iff.mpr rfl)
  | cons next rest ih =>
    refine .more ((List.pairwise_cons.mp finished.grows).1 next List.mem_cons_self) (ih ?_)
    exact finished.tail.resolve_left nofun

theorem exists_cursor {tokens : List Token} (finished : Finished tokens) :
    ∃ cursor : Cursor, tokens = cursor.tokens ∧ cursor.Ordered := by
  cases tokens with
  | nil =>
    obtain ⟨_, _, shape, -⟩ := finished.ends
    exact absurd shape (by simp)
  | cons token rest => exact ⟨⟨token, rest⟩, rfl, finished.ordered⟩

end Finished

theorem Cursor.Ordered.grows {cursor : Cursor} (ordered : cursor.Ordered) :
    cursor.tokens.Pairwise (·.position < ·.position) := by
  induction ordered with
  | last => exact List.pairwise_singleton _ _
  | more grows _ ih =>
    refine .cons ?_ ih
    intro token member
    obtain rfl | later := List.mem_cons.mp member
    · exact grows
    · exact Nat.lt_trans grows ((List.pairwise_cons.mp ih).1 token later)

theorem Finished.tokenize (source : String) : Finished (tokenize source) := by
  obtain ⟨front, shape, cut⟩ := tokensFrom_cut [] 0 source.toList
  obtain ⟨token, ahead, same, -, ordered⟩ := tokensFrom_ordered [] 0 source.toList
  refine ⟨⟨front, _, shape, fun token member => (cut.spelled token member).1, rfl⟩, ?_⟩
  have grows := ordered.grows
  rwa [Cursor.tokens, ← same] at grows

namespace Parser.Pairing

/-- A single run through tokens with a property. Its errors stand at such tokens. -/
def through (holds : Token → Prop) : Pairing :=
  single (fun cursor => cursor.Ordered ∧ cursor.All holds) holds
    fun error => ∃ token, holds token ∧ error.position = token.position

theorem Lawful.through (holds : Token → Prop) : (through holds).Lawful := by
  have advance {cursor : Cursor} (stands : cursor.Ordered ∧ cursor.All holds) :
      cursor.advance.Ordered ∧ cursor.advance.All holds :=
    ⟨(Passes.advance stands.1).ordered, stands.2.advance⟩
  refine .single (fun stands => stands.1) (fun stands => stands.2.1) ?_ ?_ ?_
  · exact fun _ known => ⟨_, known, rfl⟩
  · exact fun stands _ _ => advance stands
  · exact fun stands _ _ => advance (advance stands)

end Parser.Pairing

/-- Whatever a reading gives is taken from the tokens: the columns of a query are read from some of them, and an error
stands at one of them. -/
theorem Query.ofTokens_through {holds : Token → Prop} {cursor : Cursor} (ordered : cursor.Ordered)
    (all : cursor.All holds) :
    match Query.ofTokens cursor.tokens with
    | .ok query => ∀ ref ∈ query.columnRefs, ref.ReadFrom holds
    | .error error => ∃ token, holds token ∧ error.position = token.position := by
  have ends := Query.ofTokens_ends (.through holds) ⟨⟨ordered, all⟩, rfl⟩
  unfold Parser.Pairing.Ends at ends
  cases read : Query.ofTokens cursor.tokens with
  | ok query =>
    rw [read] at ends
    intro ref member
    exact (ends.1 ref member).imp fun _ ⟨_, known, _⟩ => known
  | error error =>
    rw [read] at ends
    obtain ⟨failure, told, same⟩ := ends
    cases failure with
    | none => exact told rfl
    | some failed => exact absurd (same failed rfl) nofun

/-- Two lists that agree up to the first token behind a position, if there is one. -/
inductive AgreeUpTo (limit : Nat) : List Token → List Token → Prop
  | ends (token : Token) : AgreeUpTo limit [token] [token]
  | behind {token : Token} {rest others : List Token} (beyond : limit < token.position) :
      AgreeUpTo limit (token :: rest) (token :: others)
  | more {token : Token} {rest others : List Token} (agree : AgreeUpTo limit rest others) :
      AgreeUpTo limit (token :: rest) (token :: others)

def SyntaxCause.isArgumentCount : SyntaxCause → Bool
  | argumentCount .. => true
  | _ => false

namespace Parser.Pairing

/-- Two runs through lists that agree up to a token behind a position. The second one is left behind where they pass
that token, and whatever the first one tells from there on is behind the position as well. -/
def upTo (limit : Nat) : Pairing where
  stands cursor other := cursor.Ordered ∧ match other with
    | some begun => begun.Ordered ∧ AgreeUpTo limit cursor.tokens begun.tokens
    | none => limit < cursor.current.position
  alone token := limit < token.position
  same token other := other = token
  told error other := match other with
    | some failed => failed = error
    | none => limit < error.position ∨ error.cause.isArgumentCount = true

variable {limit : Nat} {cursor : Cursor} {other : Option Cursor}

theorem current_upTo {begun : Cursor} (stands : (upTo limit).stands cursor (some begun)) :
    begun.current = cursor.current := by
  obtain ⟨token, rest⟩ := cursor
  obtain ⟨token, others⟩ := begun
  cases stands.2.2 <;> rfl

theorem exists_moves_upTo (stands : (upTo limit).stands cursor other) (visible : cursor.current.kind ≠ .endOfInput) :
    ∃ after, (upTo limit).Moves cursor other after := by
  obtain ⟨token, rest⟩ := cursor
  obtain ⟨ordered, place⟩ := stands
  cases ordered with
  | last ends => exact absurd ends visible
  | @more token next ahead grows ordered =>
    have leaves (beyond : limit < token.position) : (upTo limit).Moves ⟨token, next :: ahead⟩ other none := by
      refine ⟨?_, fun _ => beyond, nofun⟩
      rw [advance_cons visible]
      exact ⟨ordered, Nat.lt_trans beyond grows⟩
    cases other with
    | none => exact ⟨none, leaves place⟩
    | some begun =>
      obtain ⟨first, others⟩ := begun
      obtain ⟨second, agree⟩ := place
      cases agree with
      | behind beyond => exact ⟨none, leaves beyond⟩
      | more agree =>
        cases second with
        | last => cases agree
        | @more _ follow others _ second =>
          refine ⟨some ⟨follow, others⟩, ?_, nofun, ?_⟩
          · rw [advance_cons visible]
            exact ⟨ordered, second, agree⟩
          · rintro _ ⟨⟩
            exact ⟨_, rfl, (advance_cons visible).symm⟩

theorem Lawful.upTo (limit : Nat) : (upTo limit).Lawful where
  ordered := by
    rintro cursor other stands
    refine ⟨stands.1, ?_⟩
    rintro begun rfl
    exact stands.2.1
  same_self _ := rfl
  alone_current stands := stands.2
  same_current := current_upTo
  matching same := same ▸ .refl _
  told_alone _ beyond := .inl beyond
  told_refusal _ same := same ▸ rfl
  told_both _ := rfl
  told_count _ _ _ _ _ := .inr rfl
  peeks := by
    rintro ⟨token, rest⟩ ⟨_, others⟩ ⟨-, -, agree⟩ -
    cases agree with
    | ends => exact .inl .rfl
    | behind beyond => exact .inr beyond
    | more agree => cases agree <;> exact .inl .rfl
  passes stands visible _ := exists_moves_upTo stands visible
  aliases stands _ moves word _ := by
    refine ⟨?_, exists_moves_upTo moves.stands (by simp [word])⟩
    rintro left rfl
    rw [current_upTo moves.stands]

end Parser.Pairing

private theorem exists_cons {others : List Token} {first : Token} {rest : List Token}
    (same : others[0]? = (first :: rest)[0]?) : ∃ left, others = first :: left := by
  cases others with
  | nil => cases same
  | cons other left => exact ⟨left, by rw [Option.some.inj same]⟩

theorem AgreeUpTo.of_getElem? {tokens others : List Token} (finished : Finished tokens) (also : Finished others)
    {index : Nat} {token : Token} (here : tokens[index]? = some token)
    (same : ∀ place ≤ index + 1, place < tokens.length → others[place]? = tokens[place]?) :
    AgreeUpTo token.position tokens others := by
  induction tokens generalizing others index with
  | nil => cases here
  | cons first rest ih =>
    obtain ⟨left, rfl⟩ := exists_cons (same 0 (Nat.zero_le _) (Nat.succ_pos _))
    cases rest with
    | nil =>
      obtain rfl := also.ends_iff.mp (finished.ends_iff.mpr rfl)
      exact .ends first
    | cons next rest =>
      cases index with
      | zero =>
        obtain rfl : first = token := Option.some.inj here
        have following : left[0]? = (next :: rest)[0]? := same 1 (Nat.le_refl _) (by simp)
        obtain ⟨others, rfl⟩ := exists_cons following
        exact .more (.behind ((List.pairwise_cons.mp finished.grows).1 next List.mem_cons_self))
      | succ index =>
        have visible : first.kind ≠ .endOfInput := fun ends => absurd (finished.ends_iff.mp ends) (by simp)
        have left_over : left ≠ [] := fun none => visible (also.ends_iff.mpr none)
        refine .more (ih (finished.tail.resolve_left nofun) (also.tail.resolve_left left_over) here ?_)
        intro place near inside
        exact same (place + 1) (Nat.succ_le_succ near) (Nat.succ_lt_succ inside)

/-- An error stands at a token of the list. Unless it tells a wrong number of arguments, every list that agrees with
this one up to the token behind the error is refused with the same error, message and kind included. -/
theorem Query.ofTokens_error {tokens : List Token} (finished : Finished tokens) {error : SyntaxError}
    (failed : Query.ofTokens tokens = .error error) :
    (∃ token ∈ tokens, error.position = token.position) ∧
      (error.cause.isArgumentCount = false → ∀ (index : Nat) (token : Token), tokens[index]? = some token →
        token.position = error.position → ∀ others, Finished others →
          (∀ place ≤ index + 1, place < tokens.length → others[place]? = tokens[place]?) →
            Query.ofTokens others = .error error) := by
  obtain ⟨cursor, rfl, ordered⟩ := finished.exists_cursor
  refine ⟨?_, ?_⟩
  · have all : cursor.All (· ∈ cursor.tokens) :=
      ⟨List.mem_cons_self, fun token member => List.mem_cons_of_mem _ member⟩
    have known := Query.ofTokens_through ordered all
    rw [failed] at known
    exact known
  · intro cause index token here position others also same
    have agree := AgreeUpTo.of_getElem? finished also here same
    obtain ⟨begun, rfl, second⟩ := also.exists_cursor
    have stands : (Parser.Pairing.upTo token.position).stands cursor (some begun) := ⟨ordered, second, agree⟩
    have ends := Query.ofTokens_ends (.upTo token.position) stands
    rw [failed] at ends
    obtain ⟨failure, told, known⟩ := ends
    cases failure with
    | some other =>
      obtain rfl : other = error := told
      exact Option.some.inj (known other rfl)
    | none =>
      obtain beyond | counted := told
      · exact absurd beyond (by omega)
      · rw [cause] at counted
        cases counted

theorem Query.ofTokens_error_table :
    Query.ofTokens (tokenize "select * from 5 where FIELD('c1') = 1; drop") =
      .error ⟨.unexpected ⟨.number, "5", 14, "5"⟩ "quoted form id", 14⟩ := by
  have failed : Query.ofTokens (tokenize "select * from 5 where") =
      .error ⟨.unexpected ⟨.number, "5", 14, "5"⟩ "quoted form id", 14⟩ := by
    have tokens : tokenize "select * from 5 where" = [⟨.selectWord, "select", 0, "SELECT"⟩, ⟨.star, "*", 7, "*"⟩,
        ⟨.fromWord, "from", 9, "FROM"⟩, ⟨.number, "5", 14, "5"⟩, ⟨.whereWord, "where", 16, "WHERE"⟩, .endAt 21] := by
      decide +kernel
    rw [tokens]
    rfl
  obtain ⟨-, same⟩ := Query.ofTokens_error (.tokenize "select * from 5 where") failed
  refine same rfl 3 ⟨.number, "5", 14, "5"⟩ ?_ rfl _ (.tokenize _) ?_
  · decide +kernel
  · decide +kernel

end FormQuery
