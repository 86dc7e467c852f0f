import FormQuery.Proofs.ParserLogic
import FormQuery.Proofs.TokenCover

/-! Reading on where a statement could end. Two runs see the same tokens up to a place. There one of them is at the end
of input, and the other one at a token that continues no phrase. Whatever the first run reads up to there, the second
one reads as well: it stops at the same place, and the token is refused in it. -/

namespace FormQuery

variable {α β : Type}

def Cursor.preceded (rest : Cursor) : List Token → Cursor
  | [] => rest
  | token :: tokens => ⟨token, tokens ++ rest.current :: rest.ahead⟩

theorem Cursor.advance_preceded {rest : Cursor} {token : Token} {tokens : List Token}
    (visible : token.kind ≠ .endOfInput) : (rest.preceded (token :: tokens)).advance = rest.preceded tokens := by
  rw [preceded, advance, if_neg visible]
  cases tokens <;> rfl

/-- The end of input stands nowhere among some tokens. -/
def Visible (tokens : List Token) : Prop := ∀ token ∈ tokens, token.kind ≠ .endOfInput

/-- Tokens of these kinds continue no phrase that could end before them. -/
def strangeKinds : List TokenKind := [.semicolon, .function, .unrecognized]

/-- A place where one text ends and another one goes on. -/
structure Junction where
  stop : Nat
  rest : Cursor
  strange : rest.current.kind ∈ strangeKinds

namespace Junction

variable (join : Junction)

def short (tokens : List Token) : Cursor := Cursor.preceded ⟨.endAt join.stop, []⟩ tokens

def long (tokens : List Token) : Cursor := join.rest.preceded tokens

@[simp] theorem current_short_nil : (join.short []).current = .endAt join.stop := rfl

@[simp] theorem current_short_cons (token : Token) (tokens : List Token) :
    (join.short (token :: tokens)).current = token := rfl

@[simp] theorem current_long_nil : (join.long []).current = join.rest.current := rfl

@[simp] theorem current_long_cons (token : Token) (tokens : List Token) :
    (join.long (token :: tokens)).current = token := rfl

theorem stop_kind_ne {kind : TokenKind} (own : kind ≠ .endOfInput) : (Token.endAt join.stop).kind ≠ kind := own.symm

theorem kind_ne {kind : TokenKind} (other : kind ∉ strangeKinds) : join.rest.current.kind ≠ kind := by
  rintro rfl
  exact other join.strange

end Junction

/-- The last token is recognized. -/
def Recognized (tokens : List Token) : Prop := ∃ last ∈ tokens.getLast?, last.kind ≠ .unrecognized

theorem Recognized.behind {more : List Token} (recognized : Recognized more) (tokens : List Token) :
    Recognized (tokens ++ more) := by
  obtain ⟨last, ends, kind⟩ := recognized
  refine ⟨last, ?_, kind⟩
  rw [List.getLast?_append, Option.mem_def.mp ends]
  rfl

/-- Whether the last token passed is recognized after some tokens, if it is known before them. -/
def Closes (before after : Prop) (taken : List Token) : Prop := after → before ∧ taken = [] ∨ Recognized taken

theorem Closes.append {before middle after : Prop} {taken more : List Token} (first : Closes before middle taken)
    (second : Closes middle after more) : Closes before after (taken ++ more) := by
  intro known
  obtain ⟨between, rfl⟩ | recognized := second known
  · rw [List.append_nil]
    exact first between
  · exact .inr (recognized.behind taken)

namespace Parser

/-- What the first reader takes off the text that ends, the second one takes off the text that goes on, with the same
value. `before` and `after` say whether the last token passed is known to be recognized. -/
def Follows (join : Junction) (tokens : List Token) (before : Prop) (first second : Parser α) (after : Prop) : Prop :=
  Visible tokens → ∀ value rest, first.run (join.short tokens) = .ok (value, rest) → ∃ taken left,
    tokens = taken ++ left ∧ rest = join.short left ∧ second.run (join.long tokens) = .ok (value, join.long left) ∧
      Closes before after taken

/-- A reader that needs no bound on its steps follows itself, whatever the tokens are. -/
def Steady (join : Junction) (before : Prop) (reader : Parser α) (after : Prop) : Prop :=
  ∀ tokens, Follows join tokens before reader reader after

variable {join : Junction} {token : Token} {tokens : List Token} {before middle after : Prop}

namespace Follows

variable {first second : Parser α} {next resume : α → Parser β} {after_token other_token : Token → Parser α}

theorem pure {value : α} (closes : after → before) : Follows join tokens before (pure value) (pure value) after := by
  rintro - _ _ ⟨⟩
  exact ⟨[], tokens, rfl, rfl, rfl, fun known => .inl ⟨closes known, rfl⟩⟩

theorem fails {error : SyntaxError} (ran : first.run (join.short tokens) = .error error) :
    Follows join tokens before first second after := by
  intro _ value rest succeeded
  rw [ran] at succeeded
  cases succeeded

theorem throw {error : SyntaxError} : Follows join tokens before (throw error) second after := fails rfl

theorem refuse {expected : String} : Follows join tokens before (refuse expected) second after := fails rfl

theorem bind (start : Follows join tokens before first second middle)
    (further : ∀ value left, left <:+ tokens → Follows join left middle (next value) (resume value) after) :
    Follows join tokens before (first >>= next) (second >>= resume) after := by
  intro visible result rest ran
  rw [run_bind] at ran
  split at ran
  next value halfway stepped =>
    obtain ⟨taken, left, rfl, rfl, same, closes⟩ := start visible value halfway stepped
    have unseen : Visible left := fun token member => visible token (List.mem_append_right taken member)
    obtain ⟨more, last, rfl, rfl, others, closed⟩ := further value left (List.suffix_append _ _) unseen result rest ran
    refine ⟨taken ++ more, last, (List.append_assoc _ _ _).symm, rfl, ?_, closes.append closed⟩
    rw [run_bind, same]
    exact others
  next => cases ran

theorem nothing {value : α} (closes : after → before)
    (short : first.run (join.short []) = .ok (value, join.short []))
    (long : second.run (join.long []) = .ok (value, join.long [])) : Follows join [] before first second after := by
  intro _ result rest ran
  rw [short] at ran
  cases ran
  exact ⟨[], [], rfl, rfl, long, fun known => .inl ⟨closes known, rfl⟩⟩

theorem ite {condition : Prop} [Decidable condition] {third fourth : Parser α}
    (left : condition → Follows join tokens before first second after)
    (right : ¬condition → Follows join tokens before third fourth after) :
    Follows join tokens before (if condition then first else third) (if condition then second else fourth) after := by
  split
  next known => exact left known
  next known => exact right known

theorem current (inside : Follows join (token :: tokens) before (after_token token) (other_token token) after) :
    Follows join (token :: tokens) before (current >>= after_token) (current >>= other_token) after := by
  intro visible value rest ran
  rw [run_bind, run_current] at ran ⊢
  exact inside visible value rest ran

theorem advance
    (further : Follows join tokens (token.kind ≠ .unrecognized) (after_token token) (other_token token) after) :
    Follows join (token :: tokens) before (advance >>= after_token) (advance >>= other_token) after := by
  intro visible value rest ran
  obtain ⟨moves, others⟩ := List.forall_mem_cons.mp visible
  rw [run_bind, run_advance, Junction.short, Cursor.advance_preceded moves] at ran
  rw [run_bind, run_advance, Junction.long, Cursor.advance_preceded moves]
  obtain ⟨taken, left, rfl, ends, same, closes⟩ := further others value rest ran
  refine ⟨token :: taken, left, rfl, ends, same, fun known => .inr ?_⟩
  obtain ⟨kind, rfl⟩ | recognized := closes known
  · exact ⟨token, rfl, kind⟩
  · exact recognized.behind [token]

theorem expect {kind : TokenKind} {expected : String} (own : kind ≠ .endOfInput)
    (further : ∀ token left, tokens = token :: left → token.kind = kind →
      Follows join left (token.kind ≠ .unrecognized) (after_token token) (other_token token) after) :
    Follows join tokens before (expect kind expected >>= after_token) (expect kind expected >>= other_token) after := by
  intro visible value rest ran
  rw [run_bind, run_expect] at ran ⊢
  cases tokens with
  | nil =>
    rw [Junction.current_short_nil, if_neg (join.stop_kind_ne own)] at ran
    cases ran
  | cons token left =>
    rw [Junction.current_short_cons] at ran
    rw [Junction.current_long_cons]
    by_cases same : token.kind = kind
    · rw [if_pos same] at ran ⊢
      exact advance (further token left rfl same) visible value rest ran
    · rw [if_neg same] at ran
      cases ran

theorem atKind {kind : TokenKind} {next resume : Bool → Parser α} (own : kind ≠ .endOfInput)
    (other : kind ∉ strangeKinds)
    (here : ∀ token left, tokens = token :: left → token.kind = kind →
      Follows join tokens before (next true) (resume true) after)
    (elsewhere : Follows join tokens before (next false) (resume false) after) :
    Follows join tokens before (atKind kind >>= next) (atKind kind >>= resume) after := by
  intro visible value rest ran
  rw [run_bind, run_atKind] at ran ⊢
  cases tokens with
  | nil =>
    -- Neither the end of input nor the token that stands there instead is of the kind.
    rw [Junction.current_short_nil, decide_eq_false (join.stop_kind_ne own)] at ran
    rw [Junction.current_long_nil, decide_eq_false (join.kind_ne other)]
    exact elsewhere visible value rest ran
  | cons token left =>
    rw [Junction.current_short_cons] at ran
    rw [Junction.current_long_cons]
    by_cases same : token.kind = kind
    · rw [decide_eq_true same] at ran ⊢
      exact here token left rfl same visible value rest ran
    · rw [decide_eq_false same] at ran ⊢
      exact elsewhere visible value rest ran

/-- Looks ahead for a kind of token and goes on by what stands there. -/
theorem atKind_ite {kind : TokenKind} {third fourth : Parser α} (own : kind ≠ .endOfInput) (other : kind ∉ strangeKinds)
    (here : ∀ token left, tokens = token :: left → token.kind = kind →
      Follows join tokens before first second after)
    (elsewhere : Follows join tokens before third fourth after) :
    Follows join tokens before (do if ← Parser.atKind kind then first else third)
      (do if ← Parser.atKind kind then second else fourth) after :=
  atKind own other here elsewhere

/-- A reader with a bound on its steps goes alike with any two bounds that are enough, if each of its rounds takes a token
before the next one. -/
theorem repeated {more : Nat → Parser α}
    (ends : ∀ fuel bound, Follows join [] before (more fuel) (more bound) after)
    (round : ∀ fuel bound tokens,
      (∀ left, left.length < tokens.length → Follows join left before (more fuel) (more bound) after) →
        Follows join tokens before (more (fuel + 1)) (more (bound + 1)) after)
    {fuel bound : Nat} (enough : tokens.length ≤ fuel) (also : tokens.length ≤ bound) :
    Follows join tokens before (more fuel) (more bound) after := by
  induction fuel generalizing bound tokens with
  | zero =>
    obtain rfl := List.length_eq_zero_iff.mp (Nat.le_zero.mp enough)
    exact ends 0 bound
  | succ fuel ih =>
    cases bound with
    | zero =>
      obtain rfl := List.length_eq_zero_iff.mp (Nat.le_zero.mp also)
      exact ends (fuel + 1) 0
    | succ bound => exact round fuel bound tokens fun left shorter => ih (by omega) (by omega)

end Follows

theorem column_steady : Steady join before column False := by
  intro tokens
  cases tokens with
  | nil => exact .fails rfl
  | cons token others =>
    apply Follows.current
    split
    · apply Follows.advance
      apply Follows.expect (by decide)
      intro _ _ _ _
      apply Follows.expect (by decide)
      intro _ _ _ _
      apply Follows.expect (by decide)
      intro _ _ _ _
      exact .pure nofun
    · exact .advance (.pure nofun)
    · refine .ite (fun _ => ?_) fun _ => .refuse
      exact .ite (fun _ => .refuse) fun _ => .advance (.pure nofun)
    · exact .refuse

theorem table_steady : Steady join before table True := by
  intro tokens
  apply Follows.expect (by decide)
  intro token _ _ kind
  exact .pure fun _ => by simp [kind]

theorem literal_steady : Steady join before literal True := by
  intro tokens
  cases tokens with
  | nil => exact .fails rfl
  | cons token others =>
    have quoted (kind : token.kind ≠ .unrecognized) :
        let reader : Parser Literal := if token.isQuoted then do
            let _ ← advance
            return ⟨.text token.value, token.position, none⟩
          else refuse "string or number literal"
        Follows join (token :: others) before reader reader True :=
      .ite (fun _ => .advance (.pure fun _ => kind)) fun _ => .refuse
    apply Follows.current
    split
    next kind =>
      split
      · exact .advance (.pure fun _ => by simp [kind])
      · exact .throw
    next kind => exact quoted (by simp [kind])
    next kind => exact quoted (by simp [kind])
    next kind => exact quoted (by simp [kind])
    next => exact .refuse

theorem argumentOf_steady (function : Token) : Steady join before (aggregateCall.argumentOf function) False := by
  intro tokens
  apply Follows.atKind_ite (by decide) (by decide)
  · rintro star others rfl _
    apply Follows.advance
    exact .ite (fun _ => .pure nofun) fun _ => .throw
  · exact .bind (column_steady tokens) fun _ _ _ => .pure nofun

theorem aggregateCall_steady : Steady join before aggregateCall False := by
  intro tokens
  apply Follows.expect (by decide)
  intro function _ _ _
  apply Follows.expect (by decide)
  intro _ _ _ _
  apply Follows.bind (argumentOf_steady function _)
  intro argument left _
  apply Follows.expect (by decide)
  intro _ _ _ _
  exact .pure nofun

theorem aliasName_steady : Steady join before aliasName False := by
  intro tokens
  cases tokens with
  | nil => exact .fails rfl
  | cons token others =>
    apply Follows.current
    exact .ite (fun _ => .advance (.pure nofun)) fun _ => .refuse

theorem selectItem_steady : Steady join before selectItem False := by
  have named (expr : SelectExpr) (tokens : List Token) :
      let reader : Parser SelectItem := do
        if ← atKind .asWord then
          let _ ← advance
          return ⟨expr, some (← aliasName)⟩
        else return ⟨expr, none⟩
      Follows join tokens False reader reader False := by
    apply Follows.atKind_ite (by decide) (by decide)
    · rintro token others rfl _
      apply Follows.advance
      exact .bind (aliasName_steady others) fun _ _ _ => .pure nofun
    · exact .pure nofun
  intro tokens
  apply Follows.atKind_ite (by decide) (by decide)
  · intro _ _ _ _
    apply Follows.bind (aggregateCall_steady tokens)
    intro call left _
    exact named (.aggregate call) left
  · apply Follows.bind (column_steady tokens)
    intro ref left _
    exact named (.column ref) left

theorem moreItems_nothing (fuel : Nat) {cursor : Cursor} (other : cursor.current.kind ≠ .comma) :
    (moreItems fuel).run cursor = .ok ([], cursor) := by
  cases fuel with
  | zero => rfl
  | succ fuel =>
    rw [moreItems, run_bind, run_atKind, decide_eq_false other]
    rfl

theorem moreItems_follows {fuel bound : Nat} (enough : tokens.length ≤ fuel) (also : tokens.length ≤ bound) :
    Follows join tokens False (moreItems fuel) (moreItems bound) False := by
  refine .repeated (fun fuel bound => ?_) (fun fuel bound tokens ih => ?_) enough also
  · exact .nothing id (moreItems_nothing fuel nofun) (moreItems_nothing bound (join.kind_ne (by decide)))
  · apply Follows.atKind_ite (by decide) (by decide)
    · rintro comma others rfl _
      apply Follows.advance
      apply Follows.bind (selectItem_steady others)
      intro item left inside
      exact .bind (ih left (Nat.lt_succ_of_le inside.length_le)) fun _ _ _ => .pure id
    · exact .pure id

theorem condition_steady : Steady join before condition True := by
  intro tokens
  apply Follows.bind (column_steady tokens)
  intro column left _
  apply Follows.expect (by decide)
  intro operator left _ _
  apply Follows.bind (literal_steady left)
  intro value _ _
  exact .ite (fun _ => .throw) fun _ => .pure id

theorem moreConditions_nothing (fuel : Nat) {cursor : Cursor} (noAnd : cursor.current.kind ≠ .andWord)
    (noOr : cursor.current.kind ≠ .orWord) : (moreConditions fuel).run cursor = .ok ([], cursor) := by
  cases fuel with
  | zero => rfl
  | succ fuel =>
    rw [moreConditions, run_bind, run_current]
    simp only [noAnd, noOr, decide_false, Bool.or_self, Bool.false_eq_true, if_false]
    rfl

theorem moreConditions_follows {fuel bound : Nat} (enough : tokens.length ≤ fuel) (also : tokens.length ≤ bound) :
    Follows join tokens True (moreConditions fuel) (moreConditions bound) True := by
  have ends (fuel bound : Nat) : Follows join [] True (moreConditions fuel) (moreConditions bound) True :=
    .nothing id (moreConditions_nothing fuel nofun nofun)
      (moreConditions_nothing bound (join.kind_ne (by decide)) (join.kind_ne (by decide)))
  refine .repeated ends (fun fuel bound tokens ih => ?_) enough also
  cases tokens with
  | nil => exact ends (fuel + 1) (bound + 1)
  | cons token others =>
    apply Follows.current
    refine .ite (fun _ => ?_) fun _ => .pure id
    apply Follows.advance
    apply Follows.bind (condition_steady others)
    intro condition left inside
    exact .bind (ih left (Nat.lt_succ_of_le inside.length_le)) fun _ _ _ => .pure id

theorem filter_follows {fuel bound : Nat} (enough : tokens.length ≤ fuel) (also : tokens.length ≤ bound) :
    Follows join tokens True (filter fuel) (filter bound) True := by
  apply Follows.atKind_ite (by decide) (by decide)
  · rintro word others rfl _
    rw [List.length_cons] at enough also
    apply Follows.advance
    apply Follows.bind (condition_steady others)
    intro first left inside
    have shorter := inside.length_le
    exact .bind (moreConditions_follows (by omega) (by omega)) fun _ _ _ => .pure id
  · exact .pure id

/-- A `SELECT` ends in its table or in a literal, and they are recognized. -/
theorem select_follows {fuel bound : Nat} (enough : tokens.length ≤ fuel) (also : tokens.length ≤ bound) :
    Follows join tokens before (select fuel) (select bound) True := by
  have rest (star : Bool) (items : List SelectItem) {before : Prop} {left : List Token}
      (shorter : left.length ≤ tokens.length) :
      let reader (fuel : Nat) : Parser Select := do
        let _ ← expect .fromWord "FROM"
        let table ← table
        return ⟨star, items, table, ← filter fuel⟩
      Follows join left before (reader fuel) (reader bound) True := by
    apply Follows.expect (by decide)
    rintro word others rfl _
    apply Follows.bind (table_steady others)
    intro table further inside
    have less := inside.length_le
    rw [List.length_cons] at shorter
    exact .bind (filter_follows (by omega) (by omega)) fun _ _ _ => .pure id
  apply Follows.expect (by decide)
  rintro word others rfl _
  rw [List.length_cons] at enough also rest
  apply Follows.atKind (by decide) (by decide)
  · rintro star further rfl _
    rw [List.length_cons] at rest
    exact .advance (rest true [] (by omega))
  · apply Follows.bind (selectItem_steady others)
    intro first left inside
    have shorter := inside.length_le
    apply Follows.bind (moreItems_follows (by omega) (by omega))
    intro items further within
    have less := within.length_le
    exact rest false (first :: items) (by omega)

/-- A value that starts with some token other than a bare word. Such a token is enough to know what follows. -/
def valueAt (left : Nat) (token : Token) : Parser ValueExpr :=
  if token.kind = .fieldWord then do return .field (← column)
  else if token.kind = .function then functionCall left
  else if token.kind = .aggregate then throw ⟨.aggregateInValue token.value, token.position⟩
  else do return .literal (← literal)

theorem run_value (left : Nat) {cursor : Cursor} (kind : cursor.current.kind ≠ .unrecognized) :
    (value (left + 1)).run cursor = (valueAt left cursor.current).run cursor := by
  rw [value, run_bind, run_current]
  simp only
  rw [run_bind, run_next, valueAt]
  simp only
  split
  next known => simp [known]
  next known => simp [known]
  next known => exact absurd known kind
  next known => simp [known]
  next field function _ aggregate => rw [if_neg field, if_neg function, if_neg aggregate]

/-- Neither a bare word nor the end of input starts a value. -/
theorem run_value_error (left : Nat) {cursor : Cursor}
    (kind : cursor.current.kind = .unrecognized ∨ cursor.current.kind = .endOfInput) :
    ∃ error, (value left).run cursor = .error error := by
  have refused : (literal >>= fun constant => pure (ValueExpr.literal constant)).run cursor =
      .error (refusal cursor.current "string or number literal") := by
    rw [run_bind, literal, run_bind, run_current]
    rcases kind with kind | kind <;> simp only [kind] <;> rw [run_refuse]
  cases left with
  | zero => exact ⟨_, by rw [value]; exact run_refuse _ _⟩
  | succ left =>
    rcases kind with kind | kind
    · rw [value, run_bind, run_current]
      simp only
      rw [run_bind, run_next]
      simp only [kind]
      split
      · exact ⟨_, rfl⟩
      · exact ⟨_, refused⟩
    · rw [run_value left (by simp [kind]), valueAt]
      simp only [kind, reduceCtorEq, if_false]
      exact ⟨_, refused⟩

theorem moreArguments_nothing (fuel : Nat) {cursor : Cursor} (other : cursor.current.kind ≠ .comma) :
    (moreArguments fuel).run cursor = .ok ([], cursor) := by
  cases fuel with
  | zero =>
    rw [moreArguments]
    rfl
  | succ fuel =>
    rw [moreArguments, run_bind, run_atKind, decide_eq_false other]
    rfl

private theorem value_step_follows {fuel bound : Nat}
    (call : Follows join (token :: tokens) before (functionCall fuel) (functionCall bound) False) :
    Follows join (token :: tokens) before (value (fuel + 1)) (value (bound + 1)) False := by
  -- Only for a bare word the token behind it counts, which may be the one at the join. Such a word is no value anyway.
  by_cases kind : token.kind = .unrecognized
  · have word : (join.short (token :: tokens)).current.kind = .unrecognized ∨
        (join.short (token :: tokens)).current.kind = .endOfInput := .inl kind
    obtain ⟨error, ran⟩ := run_value_error (fuel + 1) word
    exact .fails ran
  · have settled : Follows join (token :: tokens) before (valueAt fuel token) (valueAt bound token) False := by
      refine .ite (fun _ => ?_) fun _ => .ite (fun _ => call) fun _ => .ite (fun _ => .throw) fun _ => ?_
      · exact .bind (column_steady _) fun _ _ _ => .pure nofun
      · exact .bind (literal_steady _) fun _ _ _ => .pure nofun
    intro visible expr rest ran
    rw [run_value fuel kind] at ran
    rw [run_value bound kind]
    exact settled visible expr rest ran

private theorem functionCall_step_follows {fuel bound : Nat}
    (argument : ∀ left before, left.length < tokens.length →
      Follows join left before (value fuel) (value bound) False)
    (more : ∀ left before, left.length < tokens.length →
      Follows join left before (moreArguments fuel) (moreArguments bound) False) :
    Follows join tokens before (functionCall (fuel + 1)) (functionCall (bound + 1)) False := by
  rw [functionCall, functionCall]
  apply Follows.expect (by decide)
  rintro name others rfl _
  apply Follows.expect (by decide)
  rintro bracket others rfl _
  simp only [List.length_cons] at argument more
  apply Follows.bind (argument others _ (by omega))
  intro first left inside
  have shorter := inside.length_le
  apply Follows.bind (more left _ (by omega))
  intro others left _
  apply Follows.expect (by decide)
  rintro close left rfl _
  split
  · exact .ite (fun _ => .pure nofun) fun _ => .throw
  · exact .throw

private theorem moreArguments_step_follows {fuel bound : Nat}
    (argument : ∀ left before, left.length < tokens.length →
      Follows join left before (value fuel) (value bound) False)
    (more : ∀ left before, left.length < tokens.length →
      Follows join left before (moreArguments fuel) (moreArguments bound) False) :
    Follows join tokens before (moreArguments (fuel + 1)) (moreArguments (bound + 1)) False := by
  rw [moreArguments, moreArguments]
  apply Follows.atKind_ite (by decide) (by decide)
  · rintro comma others rfl _
    rw [List.length_cons] at argument more
    apply Follows.advance
    apply Follows.bind (argument others _ (by omega))
    intro first left inside
    have shorter := inside.length_le
    exact .bind (more left _ (by omega)) fun _ _ _ => .pure nofun
  · exact .pure nofun

private theorem value_follows_nil (join : Junction) (before : Prop) (fuel bound : Nat) :
    Follows join [] before (value fuel) (value bound) False ∧
      Follows join [] before (functionCall fuel) (functionCall bound) False ∧
      Follows join [] before (moreArguments fuel) (moreArguments bound) False := by
  refine ⟨?_, ?_, .nothing nofun (moreArguments_nothing fuel nofun)
    (moreArguments_nothing bound (join.kind_ne (by decide)))⟩
  · have ends : (join.short []).current.kind = .unrecognized ∨ (join.short []).current.kind = .endOfInput := .inr rfl
    obtain ⟨error, ran⟩ := run_value_error fuel ends
    exact .fails ran
  · apply Follows.fails
    cases fuel with
    | zero =>
      rw [functionCall]
      exact run_refuse _ _
    | succ fuel =>
      rw [functionCall, run_bind, run_expect, if_neg nofun]

/-- The three readers call each other with less fuel, for fewer tokens or for the same ones where a call starts. So
their rules go by one induction on the number of tokens. -/
theorem value_follows (join : Junction) (before : Prop) (tokens : List Token) (fuel bound : Nat) :
    (2 * tokens.length ≤ fuel → 2 * tokens.length ≤ bound →
      Follows join tokens before (value fuel) (value bound) False) ∧
    (2 * tokens.length ≤ fuel + 1 → 2 * tokens.length ≤ bound + 1 →
      Follows join tokens before (functionCall fuel) (functionCall bound) False) ∧
    (2 * tokens.length ≤ fuel → 2 * tokens.length ≤ bound →
      Follows join tokens before (moreArguments fuel) (moreArguments bound) False) := by
  induction long : tokens.length using Nat.strongRecOn generalizing before tokens fuel bound with
  | ind size ih =>
  cases tokens with
  | nil =>
    obtain ⟨none, call, more⟩ := value_follows_nil join before fuel bound
    exact ⟨fun _ _ => none, fun _ _ => call, fun _ _ => more⟩
  | cons token others =>
    have argument {fuel bound : Nat} (enough : 2 * size ≤ fuel + 2) (also : 2 * size ≤ bound + 2) (left : List Token)
        (before : Prop) (less : left.length < (token :: others).length) :
        Follows join left before (value fuel) (value bound) False :=
      (ih left.length (long ▸ less) before left fuel bound rfl).1 (by omega) (by omega)
    have more {fuel bound : Nat} (enough : 2 * size ≤ fuel + 2) (also : 2 * size ≤ bound + 2) (left : List Token)
        (before : Prop) (less : left.length < (token :: others).length) :
        Follows join left before (moreArguments fuel) (moreArguments bound) False :=
      (ih left.length (long ▸ less) before left fuel bound rfl).2.2 (by omega) (by omega)
    have call {fuel bound : Nat} (enough : 2 * size ≤ fuel + 1) (also : 2 * size ≤ bound + 1) :
        Follows join (token :: others) before (functionCall fuel) (functionCall bound) False := by
      rw [List.length_cons] at long
      obtain ⟨fuel, rfl⟩ := Nat.exists_eq_succ_of_ne_zero (by omega : fuel ≠ 0)
      obtain ⟨bound, rfl⟩ := Nat.exists_eq_succ_of_ne_zero (by omega : bound ≠ 0)
      exact functionCall_step_follows (argument (by omega) (by omega)) (more (by omega) (by omega))
    refine ⟨fun enough also => ?_, call, fun enough also => ?_⟩
    all_goals
      rw [List.length_cons] at long
      obtain ⟨fuel, rfl⟩ := Nat.exists_eq_succ_of_ne_zero (by omega : fuel ≠ 0)
      obtain ⟨bound, rfl⟩ := Nat.exists_eq_succ_of_ne_zero (by omega : bound ≠ 0)
    · exact value_step_follows (call enough also)
    · exact moreArguments_step_follows (argument (by omega) (by omega)) (more (by omega) (by omega))

theorem equals_steady : Steady join before equals False := by
  intro tokens
  apply Follows.expect (by decide)
  rintro operator others rfl kind
  exact .ite (fun _ => .pure nofun) fun _ => .throw

/-- An `UPDATE` ends in a literal, and it is recognized. -/
theorem update_follows {fuel bound : Nat} (enough : 2 * tokens.length ≤ fuel) (also : 2 * tokens.length ≤ bound) :
    Follows join tokens before (update fuel) (update bound) True := by
  have rest (table : TableRef) (target : ColumnRef) {left : List Token} (shorter : left.length ≤ tokens.length) :
      let reader (fuel : Nat) : Parser Update := do
        equals
        let value ← value fuel
        let _ ← expect .whereWord "WHERE submission_id = '<id>'"
        let rowColumn ← current
        if rowColumn.kind = .unrecognized && smallLetters rowColumn.value = rowIdColumn then
          let _ ← advance
          equals
          return ⟨table, target, value, ← literal⟩
        else refuse "submission_id"
      Follows join left False (reader fuel) (reader bound) True := by
    apply Follows.bind (equals_steady left)
    intro _ left inside
    have less := inside.length_le
    apply Follows.bind ((value_follows join False left fuel bound).1 (by omega) (by omega))
    intro value left _
    apply Follows.expect (by decide)
    rintro _ left rfl _
    cases left with
    | nil => exact .fails rfl
    | cons rowColumn left =>
      apply Follows.current
      refine .ite (fun _ => ?_) fun _ => .refuse
      apply Follows.advance
      apply Follows.bind (equals_steady left)
      intro _ left _
      exact .bind (literal_steady left) fun _ _ _ => .pure id
  apply Follows.expect (by decide)
  rintro _ others rfl _
  apply Follows.expect (by decide)
  rintro _ others rfl _
  apply Follows.bind (table_steady others)
  intro table left inside
  apply Follows.expect (by decide)
  rintro _ others rfl _
  have less := inside.length_le
  apply Follows.atKind_ite (by decide) (by decide)
  · rintro field others rfl _
    apply Follows.bind (column_steady _)
    intro target left within
    have few := within.length_le
    simp only [List.length_cons] at less few rest
    exact rest table target (by omega)
  · exact .refuse

private theorem refused_behind {first second : Parser α} {query : α → Query}
    (follows : Follows join tokens False first second True) (visible : Visible tokens) {result : Query × Cursor} :
    let ending (reader : Parser α) : Parser Query := do
      let found ← reader
      if ← atKind .endOfInput then return query found else refuse "end of input"
    (ending first).run (join.short tokens) = .ok result →
      (ending second).run (join.long tokens) = .error (refusal join.rest.current "end of input") ∧
        Recognized tokens := by
  intro ending ran
  simp only [ending, run_bind] at ran ⊢
  split at ran
  next found rest stepped =>
    obtain ⟨taken, left, rfl, rfl, same, closes⟩ := follows visible found rest stepped
    rw [run_atKind] at ran
    cases left with
    | cons token left =>
      have moves : token.kind ≠ .endOfInput := visible token (by simp)
      rw [Junction.current_short_cons, decide_eq_false moves] at ran
      cases ran
    | nil =>
      have goes : join.rest.current.kind ≠ .endOfInput := join.kind_ne (by decide)
      rw [same]
      dsimp only
      rw [run_atKind, Junction.current_long_nil, decide_eq_false goes]
      refine ⟨rfl, ?_⟩
      obtain ⟨none, -⟩ | recognized := closes trivial
      · cases none
      · rwa [List.append_nil]
  next => cases ran

theorem statement_refused {fuel bound : Nat} (enough : 2 * tokens.length ≤ fuel) (also : 2 * tokens.length ≤ bound)
    (visible : Visible tokens) {result : Query × Cursor}
    (ran : (statement fuel).run (join.short tokens) = .ok result) :
    (statement bound).run (join.long tokens) = .error (refusal join.rest.current "end of input") ∧
      Recognized tokens := by
  cases tokens with
  | nil => cases ran
  | cons token others =>
    rw [statement, run_bind, run_current] at ran ⊢
    simp only [Junction.current_short_cons, Junction.current_long_cons] at ran ⊢
    split at ran
    next kind =>
      exact refused_behind (select_follows (by omega) (by omega)) visible ran
    next kind =>
      exact refused_behind (update_follows enough also) visible ran
    next => cases ran

end Parser

/-- Tokens that are a query, and behind them a token that continues no phrase: it is refused, whatever follows it. -/
theorem Query.ofTokens_refused {tokens : List Token} (visible : Visible tokens) {stop : Nat} {query : Query}
    (read : Query.ofTokens (tokens ++ [.endAt stop]) = .ok query) {next : Token} (strange : next.kind ∈ strangeKinds)
    (ahead : List Token) :
    Query.ofTokens (tokens ++ next :: ahead) = .error (refusal next "end of input") ∧ Recognized tokens := by
  cases tokens with
  | nil => cases read
  | cons token others =>
    let join : Junction := ⟨stop, ⟨next, ahead⟩, strange⟩
    have fuel (rest : List Token) : 2 * (token :: others).length ≤ 2 * (token :: (others ++ rest)).length := by
      simp only [List.length_cons, List.length_append]
      omega
    rw [List.cons_append, Query.ofTokens] at read ⊢
    cases ran : (Parser.statement (2 * (token :: (others ++ [.endAt stop])).length)).run
        (join.short (token :: others)) with
    | error error =>
      have failed := congrArg (Except.map Prod.fst) ran
      exact absurd (read.symm.trans failed) nofun
    | ok result =>
      obtain ⟨refused, recognized⟩ := Parser.statement_refused (fuel _) (fuel (next :: ahead)) visible ran
      exact ⟨congrArg (Except.map Prod.fst) refused, recognized⟩

end FormQuery
