import FormQuery.Proofs.PairedRuns
import FormQuery.Proofs.ReadingOn

/-! The readers of the parser under a comparison of two runs. Every reader keeps the runs together as long as the
comparison does, and the columns that it gives are read from tokens that the first run has met. The readers that repeat
go with any bounds on their rounds, as long as the tokens that are left to each run do not exceed its own. -/

namespace FormQuery

variable {α β : Type}

/-- A column is read from some tokens: from `FIELD` and a quoted name, from a quoted name alone or from a bare word. -/
inductive ColumnRef.ReadFrom (seen : Token → Prop) : ColumnRef → Prop
  | field {word name : Token} (atWord : seen word) (field : word.kind = .fieldWord) (atName : seen name)
      (quoted : name.kind = .columnRef) : ReadFrom seen ⟨name.value, word.position, false⟩
  | quoted {name : Token} (atName : seen name) (kind : name.kind = .columnRef) :
      ReadFrom seen ⟨name.value, name.position, false⟩
  | bare {word : Token} (atWord : seen word) (kind : word.kind = .unrecognized)
      (starts : Parser.startsName word.value = true) : ReadFrom seen (Parser.bareColumn word)

theorem ColumnRef.ReadFrom.imp {seen known : Token → Prop} {ref : ColumnRef} (reads : ref.ReadFrom seen)
    (each : ∀ token, seen token → known token) : ref.ReadFrom known := by
  cases reads with
  | field atWord field atName quoted => exact .field (each _ atWord) field (each _ atName) quoted
  | quoted atName kind => exact .quoted (each _ atName) kind
  | bare atWord kind starts => exact .bare (each _ atWord) kind starts

namespace Parser

namespace Pairing

variable {pairing : Pairing} (lawful : pairing.Lawful)
variable {cursor : Cursor} {other : Option Cursor} {fuel bound left less : Nat}

/-- A token that the first run meets, alone or with the second one. -/
def Seen (pairing : Pairing) (token : Token) : Prop := ∃ other, pairing.same token other

def Reads (pairing : Pairing) (refs : List ColumnRef) : Prop := ∀ ref ∈ refs, ref.ReadFrom pairing.Seen

theorem Reads.nil : pairing.Reads [] := fun _ member => absurd member List.not_mem_nil

theorem Reads.append {refs others : List ColumnRef} (reads : pairing.Reads refs) (also : pairing.Reads others) :
    pairing.Reads (refs ++ others) := fun ref member => (List.mem_append.mp member).elim (reads ref) (also ref)

namespace Lawful

include lawful

theorem column_runs (stands : pairing.stands cursor other) :
    pairing.Runs column column (fun _ ref => pairing.Reads [ref]) cursor other := by
  apply lawful.current_bind stands
  intro second same _
  have alike := lawful.matching same
  rw [alike.kind]
  split
  next kind =>
    apply lawful.advance_bind stands (by simp [kind])
    intro _ after _ moves
    apply lawful.expect_bind moves.stands (by decide)
    intro _ _ after _ moves
    apply lawful.expect_bind moves.stands (by decide)
    intro quoted name after named moves
    apply lawful.expect_bind moves.stands (by decide)
    intro _ _ after _ moves
    rw [(lawful.matching named).value (by simp [quoted]), alike.position]
    exact .pure moves.stands (List.forall_mem_singleton.mpr (.field ⟨_, same⟩ kind ⟨_, named⟩ quoted))
  next kind =>
    apply lawful.advance_bind stands (by simp [kind])
    intro _ after _ moves
    rw [alike.value (by simp [kind]), alike.position]
    exact .pure moves.stands (List.forall_mem_singleton.mpr (.quoted ⟨_, same⟩ kind))
  next kind =>
    rw [alike.starts, alike.capital]
    refine .ite (fun starts => ?_) fun _ => lawful.refuse stands
    refine .ite (fun _ => lawful.refuse stands) fun known => ?_
    apply lawful.advance_bind stands fun _ => .inl starts
    intro _ after _ moves
    rw [alike.column known]
    exact .pure moves.stands (List.forall_mem_singleton.mpr (.bare ⟨_, same⟩ kind starts))
  next => exact lawful.refuse stands

theorem table_runs (stands : pairing.stands cursor other) :
    pairing.Runs table table (fun _ _ => True) cursor other := by
  apply lawful.expect_bind stands (by decide)
  intro kind second after same moves
  have alike := lawful.matching same
  rw [alike.value (by simp [kind]), alike.position]
  exact .pure moves.stands trivial

/-- Whatever is wrong with a literal may be told at its position, also when only the first run has passed it. -/
theorem literal_runs (stands : pairing.stands cursor other) :
    pairing.Runs literal literal (fun after value => after = none → ∀ cause, pairing.told ⟨cause, value.position⟩ none)
      cursor other := by
  apply lawful.current_bind stands
  intro second same _
  have alike := lawful.matching same
  have quoted (kind : cursor.current.kind ≠ .unrecognized) :
      let reader (token : Token) : Parser Literal := if token.isQuoted then do
          let _ ← advance
          return ⟨.text token.value, token.position, none⟩
        else Parser.refuse "string or number literal"
      pairing.Runs (reader cursor.current) (reader second)
        (fun after value => after = none → ∀ cause, pairing.told ⟨cause, value.position⟩ none) cursor other := by
    dsimp only
    rw [alike.quoted, alike.value kind, alike.position]
    refine .ite (fun _ => ?_) fun _ => lawful.refuse stands
    apply lawful.advance_bind stands fun word => absurd word kind
    intro _ after _ moves
    exact .pure moves.stands fun none cause => lawful.told_alone cause (moves.alone none)
  rw [alike.kind]
  split
  next kind =>
    rw [alike.value (by simp [kind]), alike.position]
    split
    next number found =>
      apply lawful.advance_bind stands (by simp [kind])
      intro _ after _ moves
      exact .pure moves.stands fun none cause => lawful.told_alone cause (moves.alone none)
    next =>
      apply Runs.throw _ lawful
      rintro rfl
      exact lawful.told_alone _ (lawful.alone_current stands)
  next kind => exact quoted (by simp [kind])
  next kind => exact quoted (by simp [kind])
  next kind => exact quoted (by simp [kind])
  next => exact lawful.refuse stands

theorem argumentOf_runs {function second : Token} (same : second.value = function.value)
    (stands : pairing.stands cursor other) :
    pairing.Runs (aggregateCall.argumentOf function) (aggregateCall.argumentOf second)
      (fun _ argument => pairing.Reads argument.toList) cursor other := by
  apply lawful.atKind_ite stands
  · intro kind
    apply lawful.advance_bind stands (by simp [kind])
    intro star after met moves
    rw [same, (lawful.matching met).position]
    refine .ite (fun _ => .pure moves.stands .nil) fun _ => .throw (fun none => ?_) lawful
    exact lawful.told_alone _ (moves.alone none)
  · intro _
    apply (lawful.column_runs stands).bind
    intro ref rest after stands reads
    exact .pure stands reads

theorem aggregateCall_runs (stands : pairing.stands cursor other) :
    pairing.Runs aggregateCall aggregateCall (fun _ call => pairing.Reads call.argument.toList) cursor other := by
  apply lawful.expect_bind stands (by decide)
  intro kind function after same moves
  have alike := lawful.matching same
  rw [alike.value (by simp [kind]), alike.position]
  apply lawful.expect_bind moves.stands (by decide)
  intro _ _ after _ moves
  apply (lawful.argumentOf_runs (alike.value (by simp [kind])) moves.stands).bind
  intro argument rest after stands reads
  apply lawful.expect_bind stands (by decide)
  intro _ _ after _ moves
  exact .pure moves.stands reads

/-- An alias, where the runs have come from `AS`. -/
theorem aliasName_runs {before : Option Cursor} (begun : pairing.stands cursor before)
    (as_word : cursor.current.kind = .asWord) (moves : pairing.Moves cursor before other) :
    pairing.Runs aliasName aliasName (fun _ _ => True) cursor.advance other := by
  apply lawful.current_bind moves.stands
  intro second same met
  have alike := lawful.matching same
  rw [alike.kind, alike.capital, alike.quoted]
  by_cases word : cursor.advance.current.kind = .unrecognized
  · simp only [word, if_true]
    refine .ite (fun known => ?_) fun _ => lawful.refuse moves.stands
    obtain ⟨shown, after, passes⟩ := lawful.aliases begun as_word moves word known
    have value : second.value = cursor.advance.current.value := by
      rw [met]
      cases other with
      | none => rfl
      | some left => exact shown left rfl
    apply lawful.moves_bind moves.stands passes
    intro _ _
    rw [value]
    exact .pure passes.stands trivial
  · simp only [word, if_false]
    rw [alike.value word]
    refine .ite (fun _ => ?_) fun _ => lawful.refuse moves.stands
    apply lawful.advance_bind moves.stands fun known => absurd known word
    intro _ after _ passes
    exact .pure passes.stands trivial

theorem selectItem_runs (stands : pairing.stands cursor other) :
    pairing.Runs selectItem selectItem (fun _ item => pairing.Reads item.expr.column?.toList) cursor other := by
  have named (expr : SelectExpr) {cursor : Cursor} {other : Option Cursor} (stands : pairing.stands cursor other)
      (reads : pairing.Reads expr.column?.toList) :
      let reader : Parser SelectItem := do
        if ← atKind .asWord then
          let _ ← advance
          return ⟨expr, some (← aliasName)⟩
        else return ⟨expr, none⟩
      pairing.Runs reader reader (fun _ item => pairing.Reads item.expr.column?.toList) cursor other := by
    apply lawful.atKind_ite stands
    · intro kind
      apply lawful.advance_bind stands (by simp [kind])
      intro _ after _ moves
      apply (lawful.aliasName_runs stands kind moves).bind
      intro name rest after stands _
      exact .pure stands reads
    · intro _
      exact .pure stands reads
  apply lawful.atKind_ite stands
  · intro _
    apply (lawful.aggregateCall_runs stands).bind
    intro call rest after stands reads
    exact named (.aggregate call) stands reads
  · intro _
    apply (lawful.column_runs stands).bind
    intro ref rest after stands reads
    exact named (.column ref) stands reads

theorem condition_runs (stands : pairing.stands cursor other) :
    pairing.Runs condition condition (fun _ condition => pairing.Reads [condition.column]) cursor other := by
  apply (lawful.column_runs stands).bind
  intro ref rest after stands reads
  apply lawful.expect_bind stands (by decide)
  intro kind operator after same moves
  apply (lawful.literal_runs moves.stands).bind
  intro value rest after stands told
  rw [(lawful.matching same).value (by simp [kind])]
  refine .ite (fun _ => .throw (fun none => told none _) lawful) fun _ => .pure stands reads

end Lawful

@[simp] theorem reads_within {fuel bound : Nat} {refs : List ColumnRef} :
    (pairing.within fuel bound).Reads refs ↔ pairing.Reads refs := Iff.rfl

theorem moreItems_runs (lawful : pairing.Lawful) (stands : (pairing.within fuel bound).stands cursor other) :
    pairing.Runs (moreItems fuel) (moreItems bound) (fun _ items => pairing.Reads (items.filterMap (·.expr.column?)))
      cursor other := by
  induction fuel using Nat.strongRecOn generalizing bound cursor other with
  | ind fuel ih =>
  by_cases comma : cursor.current.kind = .comma
  · obtain ⟨left, less, rfl, rounds, -, further⟩ := exists_rounds lawful stands (by simp [comma])
    refine Runs.rounds ?_ rounds
    apply lawful.atKind_ite stands.1 (fun _ => ?_) fun other => absurd comma other
    apply lawful.advance_bind stands.1 (by simp [comma])
    intro _ after _ moves
    apply ((lawful.within left less).selectItem_runs (further after moves)).bind_within
    intro item rest after stands reads
    apply (ih (left + 1) (by omega) (within_mono stands (by omega) (by omega))).bind
    intro items rest after stands others
    refine .pure stands ?_
    cases shown : item.expr.column? with
    | none => simpa [shown] using others
    | some ref =>
      rw [shown] at reads
      simpa [shown] using reads.append others
  · refine settled (pure []) lawful stands.1 (fun place same => ?_) (.pure stands.1 .nil)
    rw [← same] at comma
    exact ⟨moreItems_nothing fuel comma, moreItems_nothing bound comma⟩

theorem moreConditions_runs (lawful : pairing.Lawful) (stands : (pairing.within fuel bound).stands cursor other) :
    pairing.Runs (moreConditions fuel) (moreConditions bound) (fun _ links => pairing.Reads (links.map (·.2.column)))
      cursor other := by
  induction fuel using Nat.strongRecOn generalizing bound cursor other with
  | ind fuel ih =>
  by_cases connector : cursor.current.kind = .andWord ∨ cursor.current.kind = .orWord
  · have word : cursor.current.kind ≠ .unrecognized := by rcases connector with kind | kind <;> simp [kind]
    have visible : cursor.current.kind ≠ .endOfInput := by rcases connector with kind | kind <;> simp [kind]
    obtain ⟨left, less, rfl, rounds, -, further⟩ := exists_rounds lawful stands visible
    refine Runs.rounds ?_ rounds
    apply lawful.current_bind stands.1
    intro second same _
    have alike := lawful.matching same
    rw [alike.kind, alike.value word]
    refine .ite (fun _ => ?_) fun none => absurd connector (by simpa using none)
    apply lawful.advance_bind stands.1 fun known => absurd known word
    intro _ after _ moves
    apply ((lawful.within left less).condition_runs (further after moves)).bind_within
    intro condition rest after stands reads
    apply (ih (left + 1) (by omega) (within_mono stands (by omega) (by omega))).bind
    intro links rest after stands others
    exact .pure stands (reads.append others)
  · refine settled (pure []) lawful stands.1 (fun place same => ?_) (.pure stands.1 .nil)
    rw [← same, not_or] at connector
    exact ⟨moreConditions_nothing fuel connector.1 connector.2, moreConditions_nothing bound connector.1 connector.2⟩

theorem filter_runs (lawful : pairing.Lawful) (stands : (pairing.within fuel bound).stands cursor other) :
    pairing.Runs (filter fuel) (filter bound) (fun _ filter => pairing.Reads (filter.conditions.map (·.column)))
      cursor other := by
  have finer := lawful.within fuel bound
  apply lawful.atKind_ite stands.1
  · intro kind
    apply Runs.of_within fuel bound
    apply finer.advance_bind stands (by simp [kind])
    intro _ after _ moves
    apply (finer.condition_runs moves.stands).bind
    intro first rest after stands reads
    apply (moreConditions_runs finer (within_within stands)).bind
    intro links rest after stands others
    refine .pure stands ?_
    simpa [Filter.conditions, Function.comp_def] using reads.append others
  · intro _
    exact .pure stands.1 .nil

theorem select_runs (lawful : pairing.Lawful) (stands : (pairing.within fuel bound).stands cursor other) :
    pairing.Runs (select fuel) (select bound) (fun _ wanted => pairing.Reads (Query.select wanted).columnRefs)
      cursor other := by
  have finer := lawful.within fuel bound
  apply Runs.of_within fuel bound
  have rest (star : Bool) {items : List SelectItem} {cursor : Cursor} {other : Option Cursor}
      (stands : (pairing.within fuel bound).stands cursor other)
      (reads : pairing.Reads (items.filterMap (·.expr.column?))) :
      let reader (fuel : Nat) : Parser Select := do
        let _ ← expect .fromWord "FROM"
        let table ← table
        return ⟨star, items, table, ← filter fuel⟩
      (pairing.within fuel bound).Runs (reader fuel) (reader bound)
        (fun _ wanted => pairing.Reads (Query.select wanted).columnRefs) cursor other := by
    apply finer.expect_bind stands (by decide)
    intro _ _ after _ moves
    apply (finer.table_runs moves.stands).bind
    intro table rest after stands _
    apply (filter_runs finer (within_within stands)).bind
    intro filter rest after stands others
    exact .pure stands (reads.append others)
  apply finer.expect_bind stands (by decide)
  intro _ _ after _ moves
  apply finer.atKind_bind moves.stands
  refine .ite (fun star => ?_) fun _ => ?_
  · have kind := of_decide_eq_true star
    apply finer.advance_bind moves.stands (by simp [kind])
    intro _ after _ moves
    rw [star]
    exact rest true moves.stands .nil
  · apply (finer.selectItem_runs moves.stands).bind
    intro first place after stands reads
    apply (moreItems_runs finer (within_within stands)).bind
    intro items place after stands others
    refine rest _ stands ?_
    cases shown : first.expr.column? with
    | none => simpa [shown] using others
    | some ref =>
      rw [shown] at reads
      simpa [shown] using reads.append others

theorem run_value_end (fuel : Nat) {cursor : Cursor} (ends : cursor.current.kind = .endOfInput) :
    (value fuel).run cursor = (refuse "string or number literal" : Parser ValueExpr).run cursor := by
  cases fuel with
  | zero => rw [value]
  | succ fuel =>
    rw [run_value fuel (by simp [ends]), valueAt]
    simp only [ends, reduceCtorEq, if_false]
    rw [run_bind, literal, run_bind, run_current]
    simp only [ends]
    rfl

theorem run_functionCall_elsewhere (fuel : Nat) {cursor : Cursor} (elsewhere : cursor.current.kind ≠ .function) :
    (functionCall fuel).run cursor = (refuse "function" : Parser ValueExpr).run cursor := by
  cases fuel with
  | zero => rw [functionCall]
  | succ fuel =>
    rw [functionCall]
    exact run_expect_elsewhere elsewhere

/-- A bare word is no value. What follows it tells whether it is meant to be a function. -/
theorem run_value_word (left : Nat) {cursor : Cursor} (word : cursor.current.kind = .unrecognized) :
    (value (left + 1)).run cursor = .error (if cursor.next.kind = .leftParen then
      ⟨.unsupportedFunction (capitals cursor.current.value), cursor.current.position⟩
    else refusal cursor.current "string or number literal") := by
  rw [value, run_bind, run_current]
  simp only
  rw [run_bind, run_next]
  simp only [word]
  split
  · rfl
  · rw [run_bind, literal, run_bind, run_current]
    simp only [word]
    rfl

theorem word_runs (lawful : pairing.Lawful) (stands : pairing.stands cursor other)
    (word : cursor.current.kind = .unrecognized) (left less : Nat) {post : Option Cursor → ValueExpr → Prop} :
    pairing.Runs (value (left + 1)) (value (less + 1)) post cursor other := by
  have alone (known : pairing.alone cursor.current) :
      pairing.Gives post ((value (left + 1)).run cursor) (other.map (value (less + 1)).run) := by
    obtain ⟨cause, told⟩ : ∃ cause, (value (left + 1)).run cursor = .error ⟨cause, cursor.current.position⟩ := by
      obtain ⟨cause, refused⟩ := exists_refusal cursor.current "string or number literal"
      rw [run_value_word left word]
      split
      · exact ⟨_, rfl⟩
      · exact ⟨cause, by rw [refused]⟩
    rw [told]
    exact ⟨none, lawful.told_alone cause known, nofun⟩
  cases other with
  | none => exact alone (lawful.alone_current stands)
  | some begun =>
    obtain peeks | known := lawful.peeks stands word
    · have same := lawful.same_current stands
      have alike := lawful.matching same
      unfold Runs
      rw [Option.map_some, run_value_word left word, run_value_word less (alike.kind.trans word), alike.capital,
        alike.position]
      simp only [peeks]
      split
      · exact ⟨_, lawful.told_both _, by rintro _ ⟨⟩; rfl⟩
      · exact ⟨_, lawful.told_refusal _ same, by rintro _ ⟨⟩; rfl⟩
    · exact alone known

private theorem value_step_runs (lawful : pairing.Lawful) (stands : pairing.stands cursor other)
    (call : pairing.Runs (functionCall left) (functionCall less) (fun _ expr => pairing.Reads expr.columnRefs)
      cursor other) :
    pairing.Runs (value (left + 1)) (value (less + 1)) (fun _ expr => pairing.Reads expr.columnRefs) cursor other := by
  by_cases word : cursor.current.kind = .unrecognized
  · exact word_runs lawful stands word left less
  have constant : pairing.Runs (do return ValueExpr.literal (← literal)) (do return ValueExpr.literal (← literal))
      (fun _ expr => pairing.Reads expr.columnRefs) cursor other := by
    apply (lawful.literal_runs stands).bind
    intro value rest after stands _
    refine .pure stands ?_
    rw [ValueExpr.columnRefs]
    exact .nil
  suffices runs : pairing.Runs (valueAt left cursor.current) (valueAt less cursor.current)
      (fun _ expr => pairing.Reads expr.columnRefs) cursor other by
    refine runs.congr (run_value left word) ?_
    rintro begun rfl
    have alike := lawful.matching (lawful.same_current stands)
    rw [run_value less (alike.kind.symm ▸ word), valueAt, alike.kind, alike.value word, alike.position]
    rfl
  refine .ite (fun _ => ?_) fun _ => .ite (fun _ => call) fun _ => .ite (fun _ => ?_) fun _ => constant
  · apply (lawful.column_runs stands).bind
    intro ref rest after stands reads
    refine .pure stands ?_
    rw [ValueExpr.columnRefs]
    exact reads
  · apply Runs.throw _ lawful
    rintro rfl
    exact lawful.told_alone _ (lawful.alone_current stands)

private theorem functionCall_step_runs (lawful : pairing.Lawful) (stands : pairing.stands cursor other)
    (further : ∀ after, pairing.Moves cursor other after → (pairing.within left less).stands cursor.advance after)
    (argument : ∀ {pairing : Pairing} (_ : pairing.Lawful) {cursor : Cursor} {other : Option Cursor},
      (pairing.within left less).stands cursor other →
        pairing.Runs (value left) (value less) (fun _ expr => pairing.Reads expr.columnRefs) cursor other)
    (more : ∀ {pairing : Pairing} (_ : pairing.Lawful) {cursor : Cursor} {other : Option Cursor},
      (pairing.within left less).stands cursor other → pairing.Runs (moreArguments left) (moreArguments less)
        (fun _ arguments => pairing.Reads (ValueExpr.columnRefsAll arguments)) cursor other) :
    pairing.Runs (functionCall (left + 1)) (functionCall (less + 1)) (fun _ expr => pairing.Reads expr.columnRefs)
      cursor other := by
  have finer := lawful.within left less
  rw [functionCall, functionCall]
  apply lawful.expect_bind stands (by decide)
  intro kind second after same moves
  have alike := lawful.matching same
  rw [alike.value (by simp [kind]), alike.position]
  apply Runs.of_within left less
  apply finer.expect_bind (further after moves) (by decide)
  intro _ _ after _ moves
  apply (argument finer (within_within moves.stands)).bind
  intro first rest after stands reads
  apply (more finer (within_within stands)).bind
  intro others rest after stands also
  apply finer.expect_bind stands (by decide)
  intro _ _ after _ moves
  have miscounted (arity : String) (given : Nat) (behind : after = none) :
      pairing.told ⟨.argumentCount cursor.current.value arity given, cursor.current.position⟩ none :=
    lawful.told_count _ _ _ same (behind ▸ moves.stands.1)
  split
  · refine .ite (fun _ => .pure moves.stands ?_) fun _ => .throw (miscounted _ _) finer
    rw [ValueExpr.columnRefs, ValueExpr.columnRefsAll]
    exact reads.append also
  · exact .throw (miscounted _ _) finer

private theorem moreArguments_step_runs (lawful : pairing.Lawful) (stands : pairing.stands cursor other)
    (comma : cursor.current.kind = .comma)
    (further : ∀ after, pairing.Moves cursor other after → (pairing.within left less).stands cursor.advance after)
    (argument : ∀ {pairing : Pairing} (_ : pairing.Lawful) {cursor : Cursor} {other : Option Cursor},
      (pairing.within (left + 1) (less + 1)).stands cursor other →
        pairing.Runs (value (left + 1)) (value (less + 1)) (fun _ expr => pairing.Reads expr.columnRefs) cursor other)
    (more : ∀ {pairing : Pairing} (_ : pairing.Lawful) {cursor : Cursor} {other : Option Cursor},
      (pairing.within (left + 1) (less + 1)).stands cursor other →
        pairing.Runs (moreArguments (left + 1)) (moreArguments (less + 1))
          (fun _ arguments => pairing.Reads (ValueExpr.columnRefsAll arguments)) cursor other) :
    pairing.Runs (moreArguments (left + 2)) (moreArguments (less + 2))
      (fun _ arguments => pairing.Reads (ValueExpr.columnRefsAll arguments)) cursor other := by
  have finer := lawful.within (left + 1) (less + 1)
  rw [moreArguments, moreArguments]
  apply lawful.atKind_ite stands (fun _ => ?_) fun other => absurd comma other
  apply lawful.advance_bind stands (by simp [comma])
  intro _ after _ moves
  apply Runs.of_within (left + 1) (less + 1)
  have place := within_mono (further after moves) (Nat.le_succ left) (Nat.le_succ less)
  apply (argument finer (within_within place)).bind
  intro first rest after stands reads
  apply (more finer (within_within stands)).bind
  intro others rest after stands also
  refine .pure stands ?_
  rw [ValueExpr.columnRefsAll]
  exact reads.append also

/-- The three readers call each other with fewer rounds and with as many rounds less on both sides. -/
theorem value_runs (lawful : pairing.Lawful) (fuel bound : Nat) :
    ((pairing.within fuel bound).stands cursor other →
      pairing.Runs (value fuel) (value bound) (fun _ expr => pairing.Reads expr.columnRefs) cursor other) ∧
    ((pairing.within (fuel + 1) (bound + 1)).stands cursor other →
      pairing.Runs (functionCall fuel) (functionCall bound) (fun _ expr => pairing.Reads expr.columnRefs)
        cursor other) ∧
    ((pairing.within fuel bound).stands cursor other →
      pairing.Runs (moreArguments fuel) (moreArguments bound)
        (fun _ arguments => pairing.Reads (ValueExpr.columnRefsAll arguments)) cursor other) := by
  induction fuel using Nat.strongRecOn generalizing bound pairing cursor other with
  | ind fuel ih =>
  refine ⟨fun stands => ?_, fun stands => ?_, fun stands => ?_⟩
  · by_cases ends : cursor.current.kind = .endOfInput
    · refine settled (refuse "string or number literal") lawful stands.1 (fun place same => ?_) (lawful.refuse stands.1)
      rw [← same] at ends
      exact ⟨run_value_end fuel ends, run_value_end bound ends⟩
    · obtain ⟨left, less, rfl, rounds, place, -⟩ := exists_rounds lawful stands ends
      exact .rounds (value_step_runs lawful stands.1 ((ih (left + 1) (by omega) lawful (less + 1)).2.1 place)) rounds
  · by_cases function : cursor.current.kind = .function
    · obtain ⟨left, less, fuel, rounds, -, further⟩ := exists_rounds lawful stands (by simp [function])
      obtain rfl := Nat.succ.inj fuel
      refine (functionCall_step_runs lawful stands.1 further ?_ ?_).congr rfl fun begun member => ?_
      · exact fun lawful _ _ => (ih left (by omega) lawful less).1
      · exact fun lawful _ _ => (ih left (by omega) lawful less).2.2
      · rw [Nat.succ.inj (rounds begun member)]
    · refine settled (refuse "function") lawful stands.1 (fun place same => ?_) (lawful.refuse stands.1)
      rw [← same] at function
      exact ⟨run_functionCall_elsewhere fuel function, run_functionCall_elsewhere bound function⟩
  · by_cases comma : cursor.current.kind = .comma
    · obtain ⟨left, less, rfl, rounds, -, further⟩ := exists_rounds lawful stands (by simp [comma])
      refine .rounds (moreArguments_step_runs lawful stands.1 comma further ?_ ?_) rounds
      · exact fun lawful _ _ => (ih (left + 1) (by omega) lawful (less + 1)).1
      · exact fun lawful _ _ => (ih (left + 1) (by omega) lawful (less + 1)).2.2
    · have nothing : pairing.Reads (ValueExpr.columnRefsAll []) := by
        rw [ValueExpr.columnRefsAll]
        exact .nil
      refine settled (pure []) lawful stands.1 (fun place same => ?_) (.pure stands.1 nothing)
      rw [← same] at comma
      exact ⟨moreArguments_nothing fuel comma, moreArguments_nothing bound comma⟩

theorem equals_runs (lawful : pairing.Lawful) (stands : pairing.stands cursor other) :
    pairing.Runs equals equals (fun _ _ => True) cursor other := by
  apply lawful.expect_bind stands (by decide)
  intro kind operator after same moves
  rw [(lawful.matching same).value (by simp [kind])]
  refine .ite (fun _ => .pure moves.stands trivial) fun _ => ?_
  -- The operator is refused where it stands, but it is passed already.
  cases after with
  | none =>
    obtain ⟨cause, refused⟩ := exists_refusal cursor.current "'='"
    exact ⟨none, refused ▸ lawful.told_alone cause (moves.alone rfl), nofun⟩
  | some left =>
    refine ⟨_, lawful.told_refusal "'='" same, ?_⟩
    rintro _ ⟨⟩
    rfl

theorem update_runs (lawful : pairing.Lawful) (stands : (pairing.within fuel bound).stands cursor other) :
    pairing.Runs (update fuel) (update bound) (fun _ change => pairing.Reads (Query.update change).columnRefs)
      cursor other := by
  have finer := lawful.within fuel bound
  apply Runs.of_within fuel bound
  have rest (table : TableRef) {target : ColumnRef} {cursor : Cursor} {other : Option Cursor}
      (stands : (pairing.within fuel bound).stands cursor other) (reads : pairing.Reads [target]) :
      let reader (fuel : Nat) : Parser Update := do
        equals
        let value ← value fuel
        let _ ← expect .whereWord "WHERE submission_id = '<id>'"
        let rowColumn ← current
        if rowColumn.kind = .unrecognized && smallLetters rowColumn.value = rowIdColumn then
          let _ ← advance
          equals
          return ⟨table, target, value, ← literal⟩
        else refuse "submission_id"
      (pairing.within fuel bound).Runs (reader fuel) (reader bound)
        (fun _ change => pairing.Reads (Query.update change).columnRefs) cursor other := by
    apply (equals_runs finer stands).bind
    intro _ _ _ stands _
    apply ((value_runs finer fuel bound).1 (within_within stands)).bind
    intro expr rest after stands others
    apply finer.expect_bind stands (by decide)
    intro _ _ after _ moves
    apply finer.current_bind moves.stands
    intro second same _
    have alike := finer.matching same
    rw [alike.kind, alike.small]
    refine .ite (fun word => ?_) fun _ => finer.refuse moves.stands
    rw [Bool.and_eq_true, decide_eq_true_eq, decide_eq_true_eq] at word
    apply finer.advance_bind moves.stands fun _ => .inr word.2
    intro _ after _ moves
    apply (equals_runs finer moves.stands).bind
    intro _ _ _ stands _
    apply (finer.literal_runs stands).bind
    intro rowId rest after stands _
    exact .pure stands (reads.append others)
  apply finer.expect_bind stands (by decide)
  intro _ _ after _ moves
  apply finer.expect_bind moves.stands (by decide)
  intro _ _ after _ moves
  apply (finer.table_runs moves.stands).bind
  intro table _ _ stands _
  apply finer.expect_bind stands (by decide)
  intro _ _ after _ moves
  apply finer.atKind_bind moves.stands
  refine .ite (fun _ => ?_) fun _ => ?_
  · apply (finer.column_runs moves.stands).bind
    intro target _ _ stands reads
    exact rest table stands reads
  · exact finer.refuse_bind moves.stands

theorem statement_runs (lawful : pairing.Lawful) (stands : (pairing.within fuel bound).stands cursor other) :
    pairing.Runs (statement fuel) (statement bound) (fun _ query => pairing.Reads query.columnRefs) cursor other := by
  have ending (query : Query) {cursor : Cursor} {other : Option Cursor} (stands : pairing.stands cursor other)
      (reads : pairing.Reads query.columnRefs) :
      let reader : Parser Query := do if ← atKind .endOfInput then return query else refuse "end of input"
      pairing.Runs reader reader (fun _ query => pairing.Reads query.columnRefs) cursor other :=
    lawful.atKind_ite stands (fun _ => .pure stands reads) fun _ => lawful.refuse stands
  apply lawful.current_bind stands.1
  intro second same _
  rw [(lawful.matching same).kind]
  split
  · apply (select_runs lawful stands).bind
    intro wanted _ _ stands reads
    exact ending (.select wanted) stands reads
  · apply (update_runs lawful stands).bind
    intro change _ _ stands reads
    exact ending (.update change) stands reads
  · exact lawful.refuse_bind stands.1

end Pairing

end Parser

def Cursor.tokens (cursor : Cursor) : List Token := cursor.current :: cursor.ahead

/-- How the readings of two token lists end. A query is the same in both, if the second run has come along. -/
def Parser.Pairing.Ends (pairing : Pairing) (first : Except SyntaxError Query)
    (second : Option (Except SyntaxError Query)) : Prop :=
  match first with
  | .ok query => pairing.Reads query.columnRefs ∧ ((∃ rest, pairing.stands rest none) ∨ second = some (.ok query))
  | .error error => ∃ failure, pairing.told error failure ∧ ∀ failed ∈ failure, second = some (.error failed)

/-- Two lists are read alike if their beginnings stand together. Each list bounds the rounds of its own run. -/
theorem Query.ofTokens_ends {pairing : Parser.Pairing} (lawful : pairing.Lawful) {cursor : Cursor}
    {other : Option Cursor} (stands : pairing.stands cursor other) :
    pairing.Ends (Query.ofTokens cursor.tokens) (other.map fun begun => Query.ofTokens begun.tokens) := by
  let fuel := 2 * cursor.tokens.length
  let bound := other.elim 0 fun begun => 2 * begun.tokens.length
  have room : (pairing.within fuel bound).stands cursor other := by
    refine ⟨stands, ?_, ?_⟩
    · simp only [fuel, Cursor.tokens, List.length_cons]
      omega
    · rintro begun rfl
      simp only [bound, Option.elim, Cursor.tokens, List.length_cons]
      omega
  have runs := Parser.Pairing.statement_runs lawful room
  have second : (other.map fun begun => Query.ofTokens begun.tokens) =
      (other.map (Parser.statement bound).run).map (Except.map Prod.fst) := by
    cases other <;> rfl
  have first : Query.ofTokens cursor.tokens = ((Parser.statement fuel).run cursor).map Prod.fst := rfl
  unfold Parser.Pairing.Runs at runs
  rw [first, second]
  cases ran : (Parser.statement fuel).run cursor with
  | error error =>
    rw [ran] at runs
    obtain ⟨failure, told, same⟩ := runs
    refine ⟨failure, told, fun failed member => ?_⟩
    rw [same failed member]
    rfl
  | ok result =>
    rw [ran] at runs
    obtain ⟨after, place, reads, same⟩ := runs
    refine ⟨reads, ?_⟩
    cases after with
    | none => exact .inl ⟨_, place⟩
    | some left =>
      rw [same left rfl]
      exact .inr rfl

end FormQuery
