import FormQuery.Proofs.GeneratedSql
import FormQuery.Proofs.TokenCover

/-! The numbers of a source. A reader passes every number of a text once, in the order of the text, and keeps each as
a literal with its place and its spelling. So the numbers of a query are the number tokens of its text. -/

namespace FormQuery

variable {α β : Type}

/-- Where a number stands and how it is spelled there. -/
structure TypedNumber where
  position : Nat
  text : String
  deriving DecidableEq

def Token.typedNumber? (token : Token) : Option TypedNumber :=
  if token.kind = .number then some ⟨token.position, token.value⟩ else none

def Literal.typedNumber? (literal : Literal) : Option TypedNumber :=
  if literal.isNumber then some ⟨literal.position, literal.text⟩ else none

/-- Every literal of a query, in the order of its text. -/
def Query.allLiterals : Query → List Literal
  | .select wanted => wanted.filter.conditions.map (·.value)
  | .update change => change.value.literals ++ [change.rowId]

namespace Cursor

/-- The numbers that are not yet read. -/
def numbers (cursor : Cursor) : List TypedNumber := (cursor.current :: cursor.ahead).filterMap Token.typedNumber?

/-- The tokens that are left are as in a text: the end of input is the last one and no other, and no number stands
between quotes. -/
inductive Typed : Cursor → Prop
  | last {token : Token} (ends : token.kind = .endOfInput) : Typed ⟨token, []⟩
  | more {token next : Token} {ahead : List Token} (visible : token.kind ≠ .endOfInput)
      (bare : token.kind = .number → token.isQuoted = false) (rest : Typed ⟨next, ahead⟩) :
      Typed ⟨token, next :: ahead⟩

variable {cursor : Cursor} (typed : cursor.Typed)

include typed

theorem Typed.advance : cursor.advance.Typed := by
  unfold Cursor.advance
  split
  · exact typed
  · cases typed with
    | last ends => contradiction
    | more visible bare rest => exact rest

theorem Typed.isQuoted (number : cursor.current.kind = .number) : cursor.current.isQuoted = false := by
  cases typed with
  | last ends => exact absurd (number.symm.trans ends) (by decide)
  | more visible bare rest => exact bare number

theorem numbers_advance (other : cursor.current.kind ≠ .number) : cursor.advance.numbers = cursor.numbers := by
  unfold advance
  split
  · rfl
  · obtain ⟨token, ahead⟩ := cursor
    have unread : token.typedNumber? = none := if_neg other
    cases typed with
    | last ends => contradiction
    | more visible bare rest => simp [numbers, unread]

theorem numbers_of_number (number : cursor.current.kind = .number) :
    cursor.numbers = ⟨cursor.current.position, cursor.current.value⟩ :: cursor.advance.numbers := by
  unfold advance
  rw [if_neg (by simp [number])]
  obtain ⟨token, ahead⟩ := cursor
  have read : token.typedNumber? = some ⟨token.position, token.value⟩ := if_pos number
  cases typed with
  | last ends => exact absurd (number.symm.trans ends) (by decide)
  | more visible bare rest => simp [numbers, read]

theorem numbers_of_ends (ends : cursor.current.kind = .endOfInput) : cursor.numbers = [] := by
  obtain ⟨token, ahead⟩ := cursor
  have unread : token.typedNumber? = none := if_neg fun number => absurd (number.symm.trans ends) (by decide)
  cases typed with
  | last _ => simp [numbers, unread]
  | more visible bare rest => exact absurd ends visible

end Cursor

theorem isQuote_of_lexeme {before : List TokenKind} {c : Char} {rest : List Char}
    (number : (lexeme before c rest).kind = .number) : isQuote c = false := by
  rw [← Bool.not_eq_true]
  intro quote
  simp only [lexeme, quote, if_true, quotedLexeme] at number
  split at number
  · rcases quotedKind_cases before ‹_› with kind | kind | kind <;> simp [kind] at number
  · cases number

theorem tokensFrom_typed (before : List TokenKind) (position : Nat) (text : List Char) :
    ∃ token ahead, tokensFrom before position text = token :: ahead ∧ Cursor.Typed ⟨token, ahead⟩ := by
  fun_induction tokensFrom before position text with
  | case1 before position => exact ⟨_, _, rfl, .last rfl⟩
  | case2 before position c rest blank ih => exact ih
  | case3 before position c rest visible found text ih =>
    obtain ⟨token, ahead, shape, typed⟩ := ih
    refine ⟨_, _, rfl, ?_⟩
    rw [shape]
    refine .more (lexeme_starts before c rest).visible ?_ typed
    intro number
    simpa [Token.isQuoted, text] using isQuote_of_lexeme number

namespace Parser

/-- When a reader succeeds, the numbers that it has passed are told by its value. -/
def Spends (cursor : Cursor) (parser : Parser α) (spent : List TypedNumber → α → Prop) : Prop :=
  ∀ value rest, parser.run cursor = .ok (value, rest) →
    rest.Typed ∧ ∃ numbers, cursor.numbers = numbers ++ rest.numbers ∧ spent numbers value

def Quiet (parser : Parser α) : Prop := ∀ cursor, cursor.Typed → Spends cursor parser fun numbers _ => numbers = []

namespace Spends

variable {cursor : Cursor} {spent : List TypedNumber → α → Prop} {last : List TypedNumber → β → Prop}

theorem pure {value : α} (typed : cursor.Typed) (known : spent [] value) : Spends cursor (pure value) spent := by
  rintro _ _ ⟨⟩
  exact ⟨typed, [], rfl, known⟩

theorem throw {error : SyntaxError} : Spends cursor (throw error : Parser α) spent := by
  rintro value rest ⟨⟩

theorem refuse {expected : String} : Spends cursor (refuse expected : Parser α) spent := by
  rintro value rest ⟨⟩

theorem refuse_bind {expected : String} {next : α → Parser β} :
    Spends cursor (Parser.refuse expected >>= next) last := by
  rintro value rest ⟨⟩

theorem bind {parser : Parser α} {next : α → Parser β} (first : Spends cursor parser spent)
    (resume : ∀ value rest numbers, rest.Typed → spent numbers value →
      Spends rest (next value) fun more result => last (numbers ++ more) result) :
    Spends cursor (parser >>= next) last := by
  intro result rest ran
  rw [run_bind] at ran
  split at ran
  next value middle stepped =>
    obtain ⟨typed, numbers, passed, known⟩ := first value middle stepped
    obtain ⟨ended, more, others, told⟩ := resume value middle numbers typed known result rest ran
    exact ⟨ended, numbers ++ more, by rw [passed, others, List.append_assoc], told⟩
  next => cases ran

theorem quiet_bind {parser : Parser α} {next : α → Parser β} (quiet : Quiet parser) (typed : cursor.Typed)
    (resume : ∀ value rest, rest.Typed → Spends rest (next value) last) : Spends cursor (parser >>= next) last := by
  apply bind (quiet cursor typed)
  rintro value rest _ typed rfl
  exact resume value rest typed

theorem current_bind {next : Token → Parser β} (resume : Spends cursor (next cursor.current) last) :
    Spends cursor (current >>= next) last := resume

theorem next_bind {next : Token → Parser β} (resume : Spends cursor (next cursor.next) last) :
    Spends cursor (Parser.next >>= next) last := resume

theorem atKind_bind {kind : TokenKind} {next : Bool → Parser β}
    (resume : Spends cursor (next (decide (cursor.current.kind = kind))) last) :
    Spends cursor (atKind kind >>= next) last := resume

theorem advance_bind {next : Token → Parser β} (typed : cursor.Typed) (other : cursor.current.kind ≠ .number)
    (resume : cursor.advance.Typed → Spends cursor.advance (next cursor.current) last) :
    Spends cursor (advance >>= next) last := by
  intro value rest ran
  obtain ⟨ended, numbers, passed, known⟩ := resume typed.advance value rest ran
  exact ⟨ended, numbers, by rw [← Cursor.numbers_advance typed other, passed], known⟩

theorem ite {condition : Prop} [Decidable condition] {first second : Parser α}
    (left : condition → Spends cursor first spent) (right : ¬condition → Spends cursor second spent) :
    Spends cursor (if condition then first else second) spent := by
  split
  next known => exact left known
  next known => exact right known

/-- Looks ahead for a kind of token and goes on by what stands there. -/
theorem atKind_ite {kind : TokenKind} {first second : Parser α}
    (left : cursor.current.kind = kind → Spends cursor first spent) (right : Spends cursor second spent) :
    Spends cursor (do if ← Parser.atKind kind then first else second) spent :=
  atKind_bind (ite (fun same => left (of_decide_eq_true same)) fun _ => right)

end Spends

theorem Quiet.expect {kind : TokenKind} (other : kind ≠ .number) (expected : String) : Quiet (expect kind expected) := by
  intro cursor typed
  apply Spends.atKind_ite
  · intro same value rest ran
    cases ran
    exact ⟨typed.advance, [], (Cursor.numbers_advance typed (same ▸ other)).symm, rfl⟩
  · exact .refuse

theorem column_quiet : Quiet column := by
  intro cursor typed
  apply Spends.current_bind
  split
  next kind =>
    apply Spends.advance_bind typed (by simp [kind])
    intro typed
    apply Spends.quiet_bind (.expect (by decide) _) typed
    intro _ _ typed
    apply Spends.quiet_bind (.expect (by decide) _) typed
    intro _ _ typed
    apply Spends.quiet_bind (.expect (by decide) _) typed
    intro _ _ typed
    exact .pure typed rfl
  next kind =>
    apply Spends.advance_bind typed (by simp [kind])
    intro typed
    exact .pure typed rfl
  next kind =>
    apply Spends.ite
    · intro _
      apply Spends.ite
      · exact fun _ => .refuse
      · intro _
        apply Spends.advance_bind typed (by simp [kind])
        intro typed
        exact .pure typed rfl
    · exact fun _ => .refuse
  next => exact .refuse

theorem table_quiet : Quiet table := fun _ typed =>
  .quiet_bind (.expect (by decide) _) typed fun _ _ typed => .pure typed rfl

/-- A literal passes the token that it stands for. -/
theorem literal_spends {cursor : Cursor} (typed : cursor.Typed) :
    Spends cursor literal fun numbers literal => numbers = literal.typedNumber?.toList := by
  apply Spends.current_bind
  have quoted (kind : cursor.current.kind ≠ .number) : Spends cursor (if cursor.current.isQuoted then do
        let _ ← advance
        return (⟨.text cursor.current.value, cursor.current.position, none⟩ : Literal)
      else refuse "string or number literal") fun numbers literal => numbers = literal.typedNumber?.toList := by
    apply Spends.ite
    · intro _
      apply Spends.advance_bind typed kind
      intro typed
      exact .pure typed rfl
    · exact fun _ => .refuse
  split
  next kind =>
    split
    next number _ =>
      intro value rest ran
      cases ran
      exact ⟨typed.advance, _, Cursor.numbers_of_number typed kind, rfl⟩
    next => exact .throw
  next kind => exact quoted (by simp [kind])
  next kind => exact quoted (by simp [kind])
  next kind => exact quoted (by simp [kind])
  next => exact .refuse

theorem argumentOf_quiet (function : Token) : Quiet (aggregateCall.argumentOf function) := by
  intro cursor typed
  apply Spends.atKind_ite
  · intro kind
    apply Spends.advance_bind typed (by simp [kind])
    intro typed
    exact .ite (fun _ => .pure typed rfl) fun _ => .throw
  · exact .quiet_bind column_quiet typed fun _ _ typed => .pure typed rfl

theorem aggregateCall_quiet : Quiet aggregateCall := by
  intro cursor typed
  apply Spends.quiet_bind (.expect (by decide) _) typed
  intro function _ typed
  apply Spends.quiet_bind (.expect (by decide) _) typed
  intro _ _ typed
  apply Spends.quiet_bind (argumentOf_quiet function) typed
  intro _ _ typed
  apply Spends.quiet_bind (.expect (by decide) _) typed
  intro _ _ typed
  exact .pure typed rfl

theorem aliasName_quiet : Quiet aliasName := by
  intro cursor typed
  apply Spends.current_bind
  apply Spends.ite
  · intro accepted
    have other : cursor.current.kind ≠ .number := by
      intro kind
      simp [kind, typed.isQuoted kind] at accepted
    exact .advance_bind typed other fun typed => .pure typed rfl
  · exact fun _ => .refuse

theorem selectItem_quiet : Quiet selectItem := by
  have named (expr : SelectExpr) : Quiet (do
      if ← atKind .asWord then
        let _ ← advance
        return (⟨expr, some (← aliasName)⟩ : SelectItem)
      else return ⟨expr, none⟩) := by
    intro cursor typed
    apply Spends.atKind_ite
    · intro kind
      apply Spends.advance_bind typed (by simp [kind])
      intro typed
      exact .quiet_bind aliasName_quiet typed fun _ _ typed => .pure typed rfl
    · exact .pure typed rfl
  intro cursor typed
  apply Spends.atKind_bind
  apply Spends.ite
  · intro _
    exact .quiet_bind aggregateCall_quiet typed fun call _ typed => named (.aggregate call) _ typed
  · intro _
    exact .quiet_bind column_quiet typed fun ref _ typed => named (.column ref) _ typed

theorem moreItems_quiet (fuel : Nat) : Quiet (moreItems fuel) := by
  induction fuel with
  | zero => exact fun _ typed => .pure typed rfl
  | succ left ih =>
    intro cursor typed
    apply Spends.atKind_ite
    · intro kind
      apply Spends.advance_bind typed (by simp [kind])
      intro typed
      apply Spends.quiet_bind selectItem_quiet typed
      intro _ _ typed
      exact .quiet_bind ih typed fun _ _ typed => .pure typed rfl
    · exact .pure typed rfl

theorem condition_spends {cursor : Cursor} (typed : cursor.Typed) :
    Spends cursor condition fun numbers condition => numbers = condition.value.typedNumber?.toList := by
  apply Spends.quiet_bind column_quiet typed
  intro _ _ typed
  apply Spends.quiet_bind (.expect (by decide) _) typed
  intro _ _ typed
  apply Spends.bind (literal_spends typed)
  rintro value _ _ typed rfl
  exact .ite (fun _ => .throw) fun _ => .pure typed (List.append_nil _)

theorem moreConditions_spends (fuel : Nat) {cursor : Cursor} (typed : cursor.Typed) :
    Spends cursor (moreConditions fuel) fun numbers links =>
      numbers = (links.map (·.2.value)).filterMap Literal.typedNumber? := by
  induction fuel generalizing cursor with
  | zero => exact .pure typed rfl
  | succ left ih =>
    apply Spends.current_bind
    apply Spends.ite
    · intro kind
      have other : cursor.current.kind ≠ .number := by
        intro number
        simp [number] at kind
      apply Spends.advance_bind typed other
      intro typed
      apply Spends.bind (condition_spends typed)
      rintro condition _ _ typed rfl
      apply Spends.bind (ih typed)
      rintro links _ _ typed rfl
      apply Spends.pure typed
      cases shown : condition.value.typedNumber? <;> simp [shown]
    · exact fun _ => .pure typed rfl

theorem filter_spends (fuel : Nat) {cursor : Cursor} (typed : cursor.Typed) :
    Spends cursor (filter fuel) fun numbers filter =>
      numbers = (filter.conditions.map (·.value)).filterMap Literal.typedNumber? := by
  apply Spends.atKind_ite
  · intro kind
    apply Spends.advance_bind typed (by simp [kind])
    intro typed
    apply Spends.bind (condition_spends typed)
    rintro first _ _ typed rfl
    apply Spends.bind (moreConditions_spends fuel typed)
    rintro rest _ _ typed rfl
    apply Spends.pure typed
    cases shown : first.value.typedNumber? <;> simp [shown, Filter.conditions, List.map_map, Function.comp_def]
  · exact .pure typed rfl

theorem select_spends (fuel : Nat) {cursor : Cursor} (typed : cursor.Typed) :
    Spends cursor (select fuel) fun numbers wanted =>
      numbers = (Query.select wanted).allLiterals.filterMap Literal.typedNumber? := by
  have rest (star : Bool) (items : List SelectItem) {cursor : Cursor} (typed : cursor.Typed) :
      Spends cursor (do
        let _ ← expect .fromWord "FROM"
        let table ← table
        return (⟨star, items, table, ← filter fuel⟩ : Select)) fun numbers wanted =>
          numbers = (Query.select wanted).allLiterals.filterMap Literal.typedNumber? := by
    apply Spends.quiet_bind (.expect (by decide) _) typed
    intro _ _ typed
    apply Spends.quiet_bind table_quiet typed
    intro _ _ typed
    apply Spends.bind (filter_spends fuel typed)
    rintro filter _ _ typed rfl
    exact .pure typed (List.append_nil _)
  apply Spends.quiet_bind (.expect (by decide) _) typed
  intro _ _ typed
  apply Spends.atKind_bind
  apply Spends.ite
  · intro kind
    apply Spends.advance_bind typed (by simp [of_decide_eq_true kind])
    intro typed
    exact rest _ [] typed
  · intro _
    apply Spends.quiet_bind selectItem_quiet typed
    intro first _ typed
    apply Spends.quiet_bind (moreItems_quiet fuel) typed
    intro others _ typed
    exact rest _ (first :: others) typed

private theorem constant_spends {cursor : Cursor} (typed : cursor.Typed) :
    Spends cursor (do return ValueExpr.literal (← literal)) fun numbers expr =>
      numbers = expr.literals.filterMap Literal.typedNumber? := by
  apply Spends.bind (literal_spends typed)
  rintro constant _ _ typed rfl
  apply Spends.pure typed
  cases shown : constant.typedNumber? <;> simp [ValueExpr.literals, shown]

/-- What the three readers of a value spend. -/
structure ValueSpends (fuel : Nat) : Prop where
  value : ∀ cursor, cursor.Typed → Spends cursor (value fuel) fun numbers expr =>
    numbers = expr.literals.filterMap Literal.typedNumber?
  call : ∀ cursor, cursor.Typed → Spends cursor (functionCall fuel) fun numbers expr =>
    numbers = expr.literals.filterMap Literal.typedNumber?
  more : ∀ cursor, cursor.Typed → Spends cursor (moreArguments fuel) fun numbers arguments =>
    numbers = (ValueExpr.literalsAll arguments).filterMap Literal.typedNumber?

namespace ValueSpends

variable {left : Nat} (spends : ValueSpends left) {cursor : Cursor} (typed : cursor.Typed)

include spends typed

theorem value_step : Spends cursor (Parser.value (left + 1)) fun numbers expr =>
    numbers = expr.literals.filterMap Literal.typedNumber? := by
  rw [Parser.value]
  apply Spends.current_bind
  apply Spends.next_bind
  split
  · apply Spends.quiet_bind column_quiet typed
    intro _ _ typed
    exact .pure typed (by simp [ValueExpr.literals])
  · exact spends.call cursor typed
  · exact .ite (fun _ => .throw) fun _ => constant_spends typed
  · exact .throw
  · exact constant_spends typed

theorem call_step : Spends cursor (functionCall (left + 1)) fun numbers expr =>
    numbers = expr.literals.filterMap Literal.typedNumber? := by
  rw [functionCall]
  apply Spends.quiet_bind (.expect (by decide) _) typed
  intro _ _ typed
  apply Spends.quiet_bind (.expect (by decide) _) typed
  intro _ _ typed
  apply Spends.bind (spends.value _ typed)
  rintro first _ _ typed rfl
  apply Spends.bind (spends.more _ typed)
  rintro others _ _ typed rfl
  apply Spends.quiet_bind (.expect (by decide) _) typed
  intro _ _ typed
  split
  · exact .ite (fun _ => .pure typed (by simp [ValueExpr.literals, ValueExpr.literalsAll])) fun _ => .throw
  · exact .throw

theorem more_step : Spends cursor (moreArguments (left + 1)) fun numbers arguments =>
    numbers = (ValueExpr.literalsAll arguments).filterMap Literal.typedNumber? := by
  rw [moreArguments]
  apply Spends.atKind_ite
  · intro kind
    apply Spends.advance_bind typed (by simp [kind])
    intro typed
    apply Spends.bind (spends.value _ typed)
    rintro first _ _ typed rfl
    apply Spends.bind (spends.more _ typed)
    rintro others _ _ typed rfl
    exact .pure typed (by simp [ValueExpr.literalsAll])
  · exact .pure typed (by simp [ValueExpr.literalsAll])

end ValueSpends

/-- The three readers call each other with less fuel, so their rules go by one induction. -/
theorem valueSpends (fuel : Nat) : ValueSpends fuel := by
  induction fuel with
  | zero =>
    refine ⟨fun _ _ => ?_, fun _ _ => ?_, fun _ typed => ?_⟩
    · rw [value]
      exact .refuse
    · rw [functionCall]
      exact .refuse
    · rw [moreArguments]
      exact .pure typed (by simp [ValueExpr.literalsAll])
  | succ left ih =>
    exact ⟨fun _ typed => ih.value_step typed, fun _ typed => ih.call_step typed,
      fun _ typed => ih.more_step typed⟩

theorem equals_quiet : Quiet equals := fun _ typed =>
  .quiet_bind (.expect (by decide) _) typed fun _ _ typed => .ite (fun _ => .pure typed rfl) fun _ => .throw

theorem update_spends (fuel : Nat) {cursor : Cursor} (typed : cursor.Typed) :
    Spends cursor (update fuel) fun numbers change =>
      numbers = (Query.update change).allLiterals.filterMap Literal.typedNumber? := by
  apply Spends.quiet_bind (.expect (by decide) _) typed
  intro _ _ typed
  apply Spends.quiet_bind (.expect (by decide) _) typed
  intro _ _ typed
  apply Spends.quiet_bind table_quiet typed
  intro table _ typed
  apply Spends.quiet_bind (.expect (by decide) _) typed
  intro _ cursor typed
  apply Spends.atKind_bind
  apply Spends.ite
  · intro _
    apply Spends.quiet_bind column_quiet typed
    intro target _ typed
    apply Spends.quiet_bind equals_quiet typed
    intro _ _ typed
    apply Spends.bind ((valueSpends fuel).value _ typed)
    rintro value _ _ typed rfl
    apply Spends.quiet_bind (.expect (by decide) _) typed
    intro _ cursor typed
    apply Spends.current_bind
    apply Spends.ite
    · intro named
      have other : cursor.current.kind ≠ .number := by
        intro number
        simp [number] at named
      apply Spends.advance_bind typed other
      intro typed
      apply Spends.quiet_bind equals_quiet typed
      intro _ _ typed
      apply Spends.bind (literal_spends typed)
      rintro rowId _ _ typed rfl
      apply Spends.pure typed
      cases shown : rowId.typedNumber? <;> simp [Query.allLiterals, shown]
    · exact fun _ => .refuse
  · exact fun _ => .refuse_bind

/-- When a reader succeeds, its value tells all numbers that were left. -/
def SpendsAll (cursor : Cursor) (parser : Parser α) (spent : List TypedNumber → α → Prop) : Prop :=
  ∀ value rest, parser.run cursor = .ok (value, rest) → spent cursor.numbers value

theorem Spends.bind_all {cursor : Cursor} {parser : Parser α} {next : α → Parser β}
    {spent : List TypedNumber → α → Prop} {last : List TypedNumber → β → Prop} (first : Spends cursor parser spent)
    (resume : ∀ value rest numbers, rest.Typed → spent numbers value →
      SpendsAll rest (next value) fun more result => last (numbers ++ more) result) :
    SpendsAll cursor (parser >>= next) last := by
  intro result rest ran
  rw [run_bind] at ran
  split at ran
  next value middle stepped =>
    obtain ⟨typed, numbers, passed, known⟩ := first value middle stepped
    rw [passed]
    exact resume value middle numbers typed known result rest ran
  next => cases ran

theorem SpendsAll.current_bind {cursor : Cursor} {next : Token → Parser β} {last : List TypedNumber → β → Prop}
    (resume : SpendsAll cursor (next cursor.current) last) : SpendsAll cursor (current >>= next) last := resume

theorem statement_spends (fuel : Nat) {cursor : Cursor} (typed : cursor.Typed) :
    SpendsAll cursor (statement fuel) fun numbers query =>
      numbers = query.allLiterals.filterMap Literal.typedNumber? := by
  have ends (query : Query) {cursor : Cursor} (typed : cursor.Typed) :
      SpendsAll cursor (do if ← atKind .endOfInput then return query else refuse "end of input")
        fun more result => query.allLiterals.filterMap Literal.typedNumber? ++ more =
          result.allLiterals.filterMap Literal.typedNumber? := by
    intro result rest ran
    rw [run_bind, run_atKind] at ran
    simp only [decide_eq_true_eq] at ran
    split at ran
    next last =>
      cases ran
      rw [Cursor.numbers_of_ends typed last, List.append_nil]
    next => cases ran
  apply SpendsAll.current_bind
  split
  · refine Spends.bind_all (select_spends fuel typed) ?_
    rintro wanted _ _ typed rfl
    exact ends (.select wanted) typed
  · refine Spends.bind_all (update_spends fuel typed) ?_
    rintro change _ _ typed rfl
    exact ends (.update change) typed
  · rintro _ _ ⟨⟩

end Parser

/-- The numbers of a query that is read from a text are the number tokens of the text, in the same order. -/
theorem Query.numbers_of_read {source : String} {query : Query} (read : Query.read source = .accepted query) :
    query.allLiterals.filterMap Literal.typedNumber? =
      (tokenize (prepareInput source)).filterMap Token.typedNumber? := by
  obtain ⟨token, ahead, shape, typed⟩ := tokensFrom_typed [] 0 (prepareInput source).toList
  rw [tokenize, shape]
  simp only [Query.read, tokenize, shape] at read
  split at read
  next => cases read
  next =>
    split at read
    next query ran =>
      cases read
      unfold Query.ofTokens at ran
      simp only at ran
      cases stated : (Parser.statement (2 * (token :: ahead).length)).run ⟨token, ahead⟩ with
      | error error =>
        rw [stated] at ran
        cases ran
      | ok result =>
        rw [stated] at ran
        cases ran
        exact (Parser.statement_spends _ typed result.1 result.2 stated).symm
    next => cases read

end FormQuery
