import FormQuery.Proofs.ParserLogic

/-! Source order. The tokens of a text stand at growing positions and a reader passes them in this order. So it meets
the columns of a query in the order of their positions, each at a position of its own. -/

namespace FormQuery

variable {α β : Type}

/-- The tokens that are left stand at growing positions, and the last one is the end of input. -/
inductive Cursor.Ordered : Cursor → Prop
  | last {token : Token} (ends : token.kind = .endOfInput) : Ordered ⟨token, []⟩
  | more {token next : Token} {ahead : List Token} (grows : token.position < next.position)
      (rest : Ordered ⟨next, ahead⟩) : Ordered ⟨token, next :: ahead⟩

theorem tokensFrom_ordered (before : List TokenKind) (position : Nat) (text : List Char) :
    ∃ token ahead, tokensFrom before position text = token :: ahead ∧ position ≤ token.position ∧
      Cursor.Ordered ⟨token, ahead⟩ := by
  fun_induction tokensFrom before position text with
  | case1 before position => exact ⟨_, _, rfl, Nat.le_refl _, .last rfl⟩
  | case2 before position c rest blank ih =>
    obtain ⟨token, ahead, shape, later, ordered⟩ := ih
    exact ⟨token, ahead, shape, Nat.le_of_succ_le later, ordered⟩
  | case3 before position c rest visible found text ih =>
    obtain ⟨token, ahead, shape, later, ordered⟩ := ih
    have long : 0 < text.length := by
      simp only [text, String.length_ofList, List.length_cons]
      omega
    refine ⟨_, _, rfl, Nat.le_refl _, ?_⟩
    rw [shape]
    apply Cursor.Ordered.more _ ordered
    show position < token.position
    omega

/-- From one cursor to another, some columns are met: at growing positions between the two. -/
structure Passes (cursor rest : Cursor) (refs : List ColumnRef) : Prop where
  ordered : rest.Ordered
  later : cursor.current.position ≤ rest.current.position
  grows : refs.Pairwise (·.position < ·.position)
  within : ∀ ref ∈ refs, cursor.current.position ≤ ref.position ∧ ref.position < rest.current.position

namespace Passes

variable {cursor middle rest : Cursor} {refs others : List ColumnRef}

theorem refl (ordered : cursor.Ordered) : Passes cursor cursor [] := ⟨ordered, Nat.le_refl _, .nil, by simp⟩

theorem trans (first : Passes cursor middle refs) (second : Passes middle rest others) :
    Passes cursor rest (refs ++ others) := by
  constructor
  · exact second.ordered
  · exact Nat.le_trans first.later second.later
  · apply List.pairwise_append.mpr ⟨first.grows, second.grows, _⟩
    intro ref member other inside
    exact Nat.lt_of_lt_of_le (first.within ref member).2 (second.within other inside).1
  · intro ref member
    obtain member | member := List.mem_append.mp member
    · have before := first.within ref member
      exact ⟨before.1, Nat.lt_of_lt_of_le before.2 second.later⟩
    · have behind := second.within ref member
      exact ⟨Nat.le_trans first.later behind.1, behind.2⟩

theorem advance (ordered : cursor.Ordered) : Passes cursor cursor.advance [] := by
  unfold Cursor.advance
  split
  · exact refl ordered
  · cases ordered with
    | last ends => contradiction
    | more grows rest => exact ⟨rest, Nat.le_of_lt grows, .nil, by simp⟩

/-- A column is met at the token that is passed. -/
theorem meets (ordered : cursor.Ordered) (visible : cursor.current.kind ≠ .endOfInput) {ref : ColumnRef}
    (here : ref.position = cursor.current.position) : Passes cursor cursor.advance [ref] := by
  unfold Cursor.advance
  rw [if_neg visible]
  cases ordered with
  | last ends => contradiction
  | more grows rest =>
    refine ⟨rest, Nat.le_of_lt grows, List.pairwise_singleton _ ref, ?_⟩
    intro other member
    obtain rfl := List.mem_singleton.mp member
    rw [here]
    exact ⟨Nat.le_refl _, grows⟩

end Passes

namespace Parser

/-- When a reader succeeds, the columns that it has met are told by its value. -/
def Meets (parser : Parser α) (met : List ColumnRef → α → Prop) : Prop :=
  ∀ cursor, cursor.Ordered → ∀ value rest, parser.run cursor = .ok (value, rest) →
    ∃ refs, Passes cursor rest refs ∧ met refs value

def Silent (parser : Parser α) : Prop := Meets parser fun refs _ => refs = []

namespace Meets

variable {met : List ColumnRef → α → Prop} {last : List ColumnRef → β → Prop}

theorem pure {value : α} (known : met [] value) : Meets (pure value) met := by
  rintro cursor ordered _ _ ⟨⟩
  exact ⟨[], .refl ordered, known⟩

theorem throw {error : SyntaxError} : Meets (throw error : Parser α) met := by
  rintro cursor ordered value rest ⟨⟩

theorem refuse (expected : String) : Meets (refuse expected : Parser α) met := by
  rintro cursor ordered value rest ⟨⟩

theorem refuse_bind {expected : String} {next : α → Parser β} : Meets (Parser.refuse expected >>= next) last := by
  rintro cursor ordered value rest ⟨⟩

theorem bind {parser : Parser α} {next : α → Parser β} (first : Meets parser met)
    (resume : ∀ value refs, met refs value → Meets (next value) fun more result => last (refs ++ more) result) :
    Meets (parser >>= next) last := by
  intro cursor ordered result rest ran
  rw [run_bind] at ran
  split at ran
  next value middle stepped =>
    obtain ⟨refs, passed, known⟩ := first cursor ordered value middle stepped
    obtain ⟨more, others, told⟩ := resume value refs known middle passed.ordered result rest ran
    exact ⟨refs ++ more, passed.trans others, told⟩
  next => cases ran

theorem silent_bind {parser : Parser α} {next : α → Parser β} (silent : Silent parser)
    (resume : ∀ value, Meets (next value) last) : Meets (parser >>= next) last := by
  apply bind silent
  rintro value _ rfl
  exact resume value

theorem pure_bind {value : α} {next : α → Parser β} (resume : Meets (next value) last) :
    Meets (Pure.pure value >>= next) last := resume

theorem ite {condition : Prop} [Decidable condition] {first second : Parser α} (left : Meets first met)
    (right : Meets second met) : Meets (if condition then first else second) met := by
  split
  · exact left
  · exact right

end Meets

namespace Silent

theorem current : Silent current := by
  rintro cursor ordered _ _ ⟨⟩
  exact ⟨[], .refl ordered, rfl⟩

theorem next : Silent next := by
  rintro cursor ordered _ _ ⟨⟩
  exact ⟨[], .refl ordered, rfl⟩

theorem atKind (kind : TokenKind) : Silent (atKind kind) := by
  rintro cursor ordered _ _ ⟨⟩
  exact ⟨[], .refl ordered, rfl⟩

theorem advance : Silent advance := by
  rintro cursor ordered _ _ ⟨⟩
  exact ⟨[], .advance ordered, rfl⟩

theorem expect (kind : TokenKind) (expected : String) : Silent (expect kind expected) :=
  Meets.silent_bind (atKind kind) fun _ => .ite advance (.refuse expected)

end Silent

/-- Looks ahead for a kind of token and goes on by what stands there. -/
theorem Meets.atKind_ite {met : List ColumnRef → α → Prop} {kind : TokenKind} {first second : Parser α}
    (left : Meets first met) (right : Meets second met) :
    Meets (do if ← Parser.atKind kind then first else second) met :=
  silent_bind (Silent.atKind kind) fun _ => ite left right

/-- A column stands where its first token does. -/
private theorem met_at_current {cursor rest : Cursor} (ordered : cursor.Ordered)
    (visible : cursor.current.kind ≠ .endOfInput) {tail : Token → Parser ColumnRef} {ref : ColumnRef}
    (silent : ∀ token, Meets (tail token) fun refs ref => refs = [] ∧ ref.position = cursor.current.position)
    (ran : (do tail (← advance)).run cursor = .ok (ref, rest)) : ∃ refs, Passes cursor rest refs ∧ refs = [ref] := by
  rw [run_bind, run_advance] at ran
  have passed := Passes.advance ordered
  obtain ⟨_, others, rfl, here⟩ := silent cursor.current cursor.advance passed.ordered ref rest ran
  exact ⟨[ref], (Passes.meets ordered visible here).trans others, rfl⟩

theorem bareColumn_position (token : Token) : (bareColumn token).position = token.position := by
  unfold bareColumn
  simp only
  split <;> rfl

theorem column_meets : Meets column fun refs ref => refs = [ref] := by
  intro cursor ordered ref rest ran
  rw [column, run_bind, run_current] at ran
  simp only at ran
  split at ran
  next kind =>
    apply met_at_current ordered (by simp [kind]) _ ran
    intro token
    apply Meets.silent_bind (.expect _ _)
    intro token
    apply Meets.silent_bind (.expect _ _)
    intro name
    apply Meets.silent_bind (.expect _ _)
    intro token
    exact .pure ⟨rfl, rfl⟩
  next kind =>
    apply met_at_current ordered (by simp [kind]) _ ran
    intro token
    exact .pure ⟨rfl, rfl⟩
  next kind =>
    split at ran
    · split at ran
      · cases ran
      · apply met_at_current ordered (by simp [kind]) _ ran
        intro token
        exact .pure ⟨rfl, bareColumn_position _⟩
    · cases ran
  next => cases ran

theorem table_silent : Silent table := Meets.silent_bind (.expect _ _) fun _ => .pure rfl

theorem literal_silent : Silent literal := by
  apply Meets.silent_bind .current
  intro token
  have quoted : Silent (if token.isQuoted then do
        let _ ← advance
        return (⟨.text token.value, token.position, none⟩ : Literal)
      else refuse "string or number literal") :=
    .ite (.silent_bind .advance fun _ => .pure rfl) (.refuse _)
  split
  · split
    · exact .silent_bind .advance fun _ => .pure rfl
    · exact .throw
  · exact quoted
  · exact quoted
  · exact quoted
  · exact .refuse _

theorem argumentOf_meets (function : Token) :
    Meets (aggregateCall.argumentOf function) fun refs argument => refs = argument.toList := by
  apply Meets.atKind_ite
  · exact .silent_bind .advance fun _ => .ite (.pure rfl) .throw
  · apply Meets.bind column_meets
    rintro ref _ rfl
    exact .pure rfl

theorem aggregateCall_meets : Meets aggregateCall fun refs call => refs = call.argument.toList := by
  apply Meets.silent_bind (.expect _ _)
  intro function
  apply Meets.silent_bind (.expect _ _)
  intro token
  apply Meets.bind (argumentOf_meets function)
  rintro argument _ rfl
  apply Meets.silent_bind (.expect _ _)
  intro token
  exact .pure (List.append_nil _)

theorem aliasName_silent : Silent aliasName :=
  Meets.silent_bind .current fun _ => .ite (.silent_bind .advance fun _ => .pure rfl) (.refuse _)

theorem selectItem_meets : Meets selectItem fun refs item => refs = item.expr.column?.toList := by
  have named (expr : SelectExpr) : Meets (do
      if ← atKind .asWord then
        let _ ← advance
        return (⟨expr, some (← aliasName)⟩ : SelectItem)
      else return ⟨expr, none⟩) fun more item => expr.column?.toList ++ more = item.expr.column?.toList := by
    apply Meets.atKind_ite
    · apply Meets.silent_bind .advance
      intro token
      exact .silent_bind aliasName_silent fun _ => .pure (List.append_nil _)
    · exact .pure (List.append_nil _)
  apply Meets.silent_bind (.atKind _)
  intro summary
  apply Meets.ite
  · apply Meets.bind aggregateCall_meets
    rintro call _ rfl
    exact .pure_bind (named (.aggregate call))
  · apply Meets.bind column_meets
    rintro ref _ rfl
    exact .pure_bind (named (.column ref))

theorem moreItems_meets (fuel : Nat) :
    Meets (moreItems fuel) fun refs items => refs = items.filterMap (·.expr.column?) := by
  induction fuel with
  | zero => exact .pure rfl
  | succ left ih =>
    apply Meets.atKind_ite
    · apply Meets.silent_bind .advance
      intro token
      apply Meets.bind selectItem_meets
      rintro item _ rfl
      apply Meets.bind ih
      rintro items _ rfl
      apply Meets.pure
      cases shown : item.expr.column? <;> simp [shown]
    · exact .pure rfl

theorem condition_meets : Meets condition fun refs condition => refs = [condition.column] := by
  apply Meets.bind column_meets
  rintro column _ rfl
  apply Meets.silent_bind (.expect _ _)
  intro operator
  apply Meets.silent_bind literal_silent
  intro value
  exact .ite .throw (.pure rfl)

theorem moreConditions_meets (fuel : Nat) :
    Meets (moreConditions fuel) fun refs links => refs = links.map (·.2.column) := by
  induction fuel with
  | zero => exact .pure rfl
  | succ left ih =>
    apply Meets.silent_bind .current
    intro token
    apply Meets.ite
    · apply Meets.silent_bind .advance
      intro word
      apply Meets.bind condition_meets
      rintro condition _ rfl
      apply Meets.bind ih
      rintro links _ rfl
      apply Meets.pure
      simp
    · exact .pure rfl

theorem filter_meets (fuel : Nat) :
    Meets (filter fuel) fun refs filter => refs = filter.conditions.map (·.column) := by
  apply Meets.atKind_ite
  · apply Meets.silent_bind .advance
    intro token
    apply Meets.bind condition_meets
    rintro first _ rfl
    apply Meets.bind (moreConditions_meets fuel)
    rintro rest _ rfl
    apply Meets.pure
    simp [Filter.conditions]
  · exact .pure rfl

theorem select_meets (fuel : Nat) : Meets (select fuel) fun refs wanted => refs = (Query.select wanted).columnRefs := by
  have rest (star : Bool) (items : List SelectItem) : Meets (do
      let _ ← expect .fromWord "FROM"
      let table ← table
      return (⟨star, items, table, ← filter fuel⟩ : Select))
      fun more wanted => items.filterMap (·.expr.column?) ++ more = (Query.select wanted).columnRefs := by
    apply Meets.silent_bind (.expect _ _)
    intro token
    apply Meets.silent_bind table_silent
    intro table
    apply Meets.bind (filter_meets fuel)
    rintro filter _ rfl
    apply Meets.pure
    rw [List.append_nil]
    rfl
  apply Meets.silent_bind (.expect _ _)
  intro token
  apply Meets.silent_bind (.atKind _)
  intro star
  apply Meets.ite
  · apply Meets.silent_bind .advance
    intro token
    exact .pure_bind (rest star [])
  · apply Meets.bind selectItem_meets
    rintro first _ rfl
    apply Meets.bind (moreItems_meets fuel)
    rintro others _ rfl
    have listed := rest star (first :: others)
    apply Meets.pure_bind
    cases shown : first.expr.column? with
    | none => simpa [shown] using listed
    | some ref => simpa [shown] using listed

private theorem constant_meets :
    Meets (do return ValueExpr.literal (← literal)) fun refs expr => refs = expr.columnRefs := by
  apply Meets.silent_bind literal_silent
  intro constant
  apply Meets.pure
  simp only [ValueExpr.columnRefs]

private theorem value_step_meets {left : Nat}
    (call : Meets (functionCall left) fun refs expr => refs = expr.columnRefs) :
    Meets (value (left + 1)) fun refs expr => refs = expr.columnRefs := by
  rw [value]
  apply Meets.silent_bind .current
  intro token
  apply Meets.silent_bind .next
  intro next
  split
  · apply Meets.bind column_meets
    rintro ref _ rfl
    apply Meets.pure
    simp only [ValueExpr.columnRefs, List.append_nil]
  · exact call
  · exact .ite .throw constant_meets
  · exact .throw
  · exact constant_meets

private theorem functionCall_step_meets {left : Nat}
    (argument : Meets (value left) fun refs expr => refs = expr.columnRefs)
    (more : Meets (moreArguments left) fun refs arguments => refs = ValueExpr.columnRefsAll arguments) :
    Meets (functionCall (left + 1)) fun refs expr => refs = expr.columnRefs := by
  rw [functionCall]
  apply Meets.silent_bind (.expect _ _)
  intro name
  apply Meets.silent_bind (.expect _ _)
  intro token
  apply Meets.bind argument
  rintro first _ rfl
  apply Meets.bind more
  rintro others _ rfl
  apply Meets.silent_bind (.expect _ _)
  intro token
  split
  · apply Meets.ite
    · apply Meets.pure
      simp only [ValueExpr.columnRefs, ValueExpr.columnRefsAll, List.append_nil]
    · exact .throw
  · exact .throw

private theorem moreArguments_step_meets {left : Nat}
    (argument : Meets (value left) fun refs expr => refs = expr.columnRefs)
    (more : Meets (moreArguments left) fun refs arguments => refs = ValueExpr.columnRefsAll arguments) :
    Meets (moreArguments (left + 1)) fun refs arguments => refs = ValueExpr.columnRefsAll arguments := by
  rw [moreArguments]
  apply Meets.atKind_ite
  · apply Meets.silent_bind .advance
    intro token
    apply Meets.bind argument
    rintro first _ rfl
    apply Meets.bind more
    rintro others _ rfl
    apply Meets.pure
    simp only [ValueExpr.columnRefsAll, List.append_nil]
  · apply Meets.pure
    simp only [ValueExpr.columnRefsAll]

/-- The three readers call each other with less fuel, so their rules go by one induction. -/
theorem value_meets (fuel : Nat) :
    (Meets (value fuel) fun refs expr => refs = expr.columnRefs) ∧
      (Meets (functionCall fuel) fun refs expr => refs = expr.columnRefs) ∧
      Meets (moreArguments fuel) fun refs arguments => refs = ValueExpr.columnRefsAll arguments := by
  induction fuel with
  | zero =>
    refine ⟨?_, ?_, ?_⟩
    · rw [value]
      exact .refuse _
    · rw [functionCall]
      exact .refuse _
    · rw [moreArguments]
      apply Meets.pure
      simp only [ValueExpr.columnRefsAll]
  | succ left ih =>
    obtain ⟨argument, call, more⟩ := ih
    exact ⟨value_step_meets call, functionCall_step_meets argument more, moreArguments_step_meets argument more⟩

theorem equals_silent : Silent equals := Meets.silent_bind (.expect _ _) fun _ => .ite (.pure rfl) .throw

theorem update_meets (fuel : Nat) : Meets (update fuel) fun refs change => refs = (Query.update change).columnRefs := by
  apply Meets.silent_bind (.expect _ _)
  intro token
  apply Meets.silent_bind (.expect _ _)
  intro token
  apply Meets.silent_bind table_silent
  intro table
  apply Meets.silent_bind (.expect _ _)
  intro token
  have rest (target : ColumnRef) : Meets (do
      equals
      let value ← value fuel
      let _ ← expect .whereWord "WHERE submission_id = '<id>'"
      let rowColumn ← current
      if rowColumn.kind = .unrecognized && smallLetters rowColumn.value = rowIdColumn then
        let _ ← advance
        equals
        return (⟨table, target, value, ← literal⟩ : Update)
      else refuse "submission_id") fun more change => target :: more = (Query.update change).columnRefs := by
    apply Meets.silent_bind equals_silent
    intro equal
    apply Meets.bind (value_meets fuel).1
    rintro value _ rfl
    apply Meets.silent_bind (.expect _ _)
    intro token
    apply Meets.silent_bind .current
    intro rowColumn
    apply Meets.ite
    · apply Meets.silent_bind .advance
      intro token
      apply Meets.silent_bind equals_silent
      intro equal
      apply Meets.silent_bind literal_silent
      intro rowId
      apply Meets.pure
      simp only [Query.columnRefs, List.append_nil]
    · exact .refuse _
  apply Meets.silent_bind (.atKind _)
  intro field
  apply Meets.ite
  · apply Meets.bind column_meets
    rintro target _ rfl
    exact rest target
  · exact .refuse_bind

theorem statement_meets (fuel : Nat) : Meets (statement fuel) fun refs query => refs = query.columnRefs := by
  have rest (query : Query) : Meets (do if ← atKind .endOfInput then return query else refuse "end of input")
      fun more result => query.columnRefs ++ more = result.columnRefs :=
    .atKind_ite (.pure (List.append_nil _)) (.refuse _)
  apply Meets.silent_bind .current
  intro token
  split
  · apply Meets.bind (select_meets fuel)
    rintro wanted _ rfl
    exact .pure_bind (rest (.select wanted))
  · apply Meets.bind (update_meets fuel)
    rintro change _ rfl
    exact .pure_bind (rest (.update change))
  · exact .refuse_bind

end Parser

theorem Query.columnRefs_ordered_of_tokens {token : Token} {ahead : List Token}
    (ordered : Cursor.Ordered ⟨token, ahead⟩) {query : Query} (ran : Query.ofTokens (token :: ahead) = .ok query) :
    query.columnRefs.Pairwise (·.position < ·.position) := by
  unfold ofTokens at ran
  simp only at ran
  cases stated : (Parser.statement (2 * (token :: ahead).length)).run ⟨token, ahead⟩ with
  | error error =>
    rw [stated] at ran
    cases ran
  | ok result =>
    rw [stated] at ran
    cases ran
    obtain ⟨_, passed, rfl⟩ := Parser.statement_meets _ _ ordered result.1 result.2 stated
    exact passed.grows

/-- The columns of a query that is read from a text stand there in the order in which the query is traversed, each at a
position of its own. -/
theorem Query.columnRefs_ordered {source : String} {query : Query} (read : Query.read source = .accepted query) :
    query.columnRefs.Pairwise (·.position < ·.position) := by
  obtain ⟨token, ahead, shape, -, ordered⟩ := tokensFrom_ordered [] 0 (prepareInput source).toList
  simp only [Query.read, tokenize, shape] at read
  split at read
  next => cases read
  next =>
    split at read
    next query ran =>
      cases read
      exact columnRefs_ordered_of_tokens ordered ran
    next => cases read

end FormQuery
