import FormQuery.Engine.Course
import FormQuery.Proofs.BackendCalls
import FormQuery.Proofs.CompilationOutcome
import FormQuery.Storage.Access

/-! Faults that leave an execution. Over a connection, the execution of a text gives an outcome whatever fails, but for
an UPDATE whose count of changed rows is an infinite number. -/

namespace FormQuery

/-- Numbers that no integer stands for although they are numbers. -/
def Value.isInfinite : Value → Bool
  | float value => !value.isNaN && value.isInf
  | decimal (.infinite _) => true
  | _ => false

def Fault.OfInfinity (fault : Fault) : Prop := fault = .countInfinite ∨ fault = .limitInfinite

theorem Value.infinite_of_toInteger {cell : Value} {fault : Fault} (read : cell.toInteger = .error fault)
    (infinity : fault.OfInfinity) : cell.isInfinite = true := by
  cases cell with
  | float value =>
    simp only [toInteger] at read
    split at read
    · cases read
      obtain impossible | impossible := infinity <;> cases impossible
    · split at read
      next number endless =>
        rw [isInfinite, eq_false_of_ne_true number, endless]
        rfl
      next => cases read
  | decimal value =>
    cases value with
    | finite negative coefficient exponent => cases read
    | infinite negative => rfl
    | missing negative signaling payload =>
      cases read
      obtain impossible | impossible := infinity <;> cases impossible
  | bool value | int value => cases read
  | null | list items | record fields =>
    cases read
    obtain impossible | impossible := infinity <;> cases impossible
  | text value | bytes value =>
    simp only [toInteger] at read
    split at read
    · cases read
    · cases read
      obtain impossible | impossible := infinity <;> cases impossible

namespace RawTable

theorem countOf_finite {cell : Value} (finite : cell.isInfinite = false) : ∃ count, countOf cell = .ok count := by
  have shown (fault : Fault) (read : cell.toInteger = .error fault) : ¬fault.OfInfinity := by
    intro infinity
    simp [cell.infinite_of_toInteger read infinity] at finite
  unfold countOf
  split
  next count read => exact ⟨count, rfl⟩
  next read => exact absurd (.inl rfl) (shown _ read)
  next read => exact absurd (.inr rfl) (shown _ read)
  next => exact ⟨0, rfl⟩

theorem countOf_infinite {cell : Value} (infinite : cell.isInfinite = true) :
    ∃ fault, countOf cell = .error fault ∧ fault.OfInfinity := by
  cases cell with
  | float value =>
    obtain ⟨number, endless⟩ : value.isNaN = false ∧ value.isInf = true := by simpa [Value.isInfinite] using infinite
    have read : (Value.float value).toInteger = .error .countInfinite := by
      rw [Value.toInteger, number, endless]
      rfl
    exact ⟨.countInfinite, by rw [countOf, read], .inl rfl⟩
  | decimal value =>
    cases value with
    | infinite negative => exact ⟨.limitInfinite, rfl, .inr rfl⟩
    | _ => cases infinite
  | _ => cases infinite

def Proper (table : RawTable) : Prop :=
  ∃ (columns : List String) (rows : List (List Value)),
    table = ⟨.list (columns.map .text), .list (rows.map .list)⟩

/-- The count of changed rows is an infinite number. -/
def Overflows (table : RawTable) : Prop :=
  ∃ columns cell cells rows, table = ⟨columns, .list (.list (cell :: cells) :: rows)⟩ ∧ cell.isInfinite = true

theorem Proper.changedRows_cases {table : RawTable} (proper : table.Proper) :
    (¬table.Overflows ∧ ∃ count, table.changedRows = .ok count) ∨
      table.Overflows ∧ ∃ fault, table.changedRows = .error fault ∧ fault.OfInfinity := by
  obtain ⟨columns, rows, rfl⟩ := proper
  have empty (rest : List (List Value)) : ¬Overflows ⟨.list (columns.map .text), .list (([] :: rest).map .list)⟩ := by
    intro ⟨_, _, _, _, same, _⟩
    cases same
  match rows with
  | [] =>
    refine .inl ⟨?_, 0, rfl⟩
    intro ⟨_, _, _, _, same, _⟩
    cases same
  | [] :: rest => exact .inl ⟨empty rest, 0, rfl⟩
  | (cell :: cells) :: rest =>
    cases infinite : cell.isInfinite with
    | true => exact .inr ⟨⟨_, _, _, _, rfl, infinite⟩, countOf_infinite infinite⟩
    | false =>
      refine .inl ⟨?_, countOf_finite infinite⟩
      rintro ⟨_, _, _, _, same, overflows⟩
      cases same
      rw [infinite] at overflows
      cases overflows

end RawTable

theorem Conversion.items_good {α : Type} (convert : Value → Checked α) (shape : α → Value)
    (each : ∀ item, convert (shape item) = .good item) (index : Nat) (items : List α) :
    Checked.items convert index (items.map shape) = .good items := by
  induction items generalizing index with
  | nil => rfl
  | cons item items ih => simp [Checked.items, each, ih, Checked.under, Checked.pair, Checked.map]

theorem RawTable.Proper.ofRaw_succeeds {table : RawTable} (proper : table.Proper) (sql : String) :
    ∃ outcome, Outcome.ofRaw table.columns table.rows sql = .ok outcome := by
  obtain ⟨columns, rows, rfl⟩ := proper
  have named : Outcome.checkColumns (.list (columns.map .text)) = .good columns :=
    Conversion.items_good Conversion.text .text (fun _ => rfl) 0 columns
  have cells (row : List Value) : Outcome.checkRow (.list row) = .good row := by
    have known := Conversion.items_good .good id (fun _ => rfl) 0 row
    rwa [List.map_id] at known
  have celled : Outcome.checkRows (.list (rows.map .list)) = .good rows :=
    Conversion.items_good Outcome.checkRow .list cells 0 rows
  unfold Outcome.ofRaw
  rw [named, celled]
  exact ⟨_, rfl⟩

theorem Access.runSql_proper (access : Access) (sql : String) :
    (access.runSql sql).Ensures fun _ result => ∀ table, result = .ok table → table.Proper := by
  unfold runSql
  split
  · exact nofun
  apply Program.Ensures.ask_bind
  · intro fault
    exact nofun
  intro result
  split
  next =>
    apply Program.Ensures.ask_bind
    · intro fault
      exact nofun
    · rintro - _ ⟨⟩
      exact ⟨["updated_rows"], [[.int result.rowCount]], rfl⟩
  next columns shown =>
    rintro _ ⟨⟩
    exact ⟨columns, result.rows, rfl⟩

theorem Access.handler_proper {σ : Type} (access : Access) (connected : Handler connection σ) (sql : String) (state : σ)
    {table : RawTable} (answered : (access.handler connected (.runSql sql) state).result = .ok table) : table.Proper :=
  (access.runSql_proper sql).run connected state table answered

theorem QuerySource.compile_succeeds (source : String) (schema : Snapshot) {layout : Layout}
    (complete : layout.Complete) : ∃ compilation, (QuerySource.text source).compile schema layout = .ok compilation := by
  cases found : Query.read source with
  | refused reason => exact ⟨.unread reason, by simp [compile, read, found]⟩
  | rejected error => exact ⟨.rejected error, by simp [compile, read, found]⟩
  | accepted query =>
    simp only [compile, read, found, Compilation.ofQuery]
    split
    · exact ⟨_, rfl⟩
    · obtain ⟨sql, written⟩ := Sql.ofQuery_succeeds complete (Query.wellFormed_of_read found)
      rw [written]
      exact ⟨.compiled query sql, rfl⟩

namespace Engine

open Program

def Returns (overflow : Prop) (result : Except Fault Outcome) : Prop :=
  (¬overflow ∧ ∃ outcome, result = .ok outcome) ∨ overflow ∧ ∃ fault, result = .error fault ∧ fault.OfInfinity

/-- All that is said is that an UPDATE ran and changed an infinite number of rows. -/
def Overflow (query : Query) (sql : String) (exchanges : List (Exchange collaborators)) : Prop :=
  ∃ change table, query = .update change ∧ exchanges = [⟨.backend (.runSql sql), .ok table⟩] ∧ table.Overflows

def ProperAnswers (exchanges : List (Exchange collaborators)) : Prop :=
  ∀ sql table, ⟨.backend (.runSql sql), .ok table⟩ ∈ exchanges → table.Proper

theorem databaseOutcome_returns {table : RawTable} (proper : table.Proper) (query : Query) (sql : String) :
    Returns (Overflow query sql [⟨.backend (.runSql sql), .ok table⟩]) (databaseOutcome query table sql) := by
  cases query with
  | select wanted =>
    obtain ⟨outcome, read⟩ := proper.ofRaw_succeeds sql
    refine .inl ⟨?_, outcome, by simp [databaseOutcome, read, Except.mapError]⟩
    rintro ⟨change, _, ⟨⟩, -⟩
  | update change =>
    obtain ⟨finite, count, counted⟩ | ⟨overflows, fault, counted, infinity⟩ := proper.changedRows_cases
    · refine .inl ⟨?_, _, bind_ok counted _⟩
      rintro ⟨_, _, -, same, overflows⟩
      cases same
      exact finite overflows
    · refine .inr ⟨⟨change, table, rfl, rfl, overflows⟩, fault, ?_, infinity⟩
      rw [databaseOutcome, counted]
      rfl

theorem overRows_returns (engine : Engine) (query : Query) (sql : String) :
    (engine.overRows query sql).Ensures fun _ result => ∃ outcome, result = .ok outcome := by
  apply Ensures.attempt_bind (Ensures.of_forall (fun _ _ => trivial) _)
  intro moves result known
  cases result with
  | ok outcome => exact ⟨outcome, rfl⟩
  | error fault => exact ⟨_, rfl⟩

theorem perform_returns (engine : Engine) (query : Query) (sql : String) :
    (engine.perform query sql).Ensures fun moves result =>
      ProperAnswers (exchanges moves) → Returns (Overflow query sql (exchanges moves)) result := by
  apply Ensures.attempt_ask_bind
  intro answer
  split
  next table =>
    intro proper
    exact databaseOutcome_returns (proper sql table (.head _)) query sql
  next reason =>
    by_cases allowed : engine.fallbackEnabled = true
    · rw [if_pos allowed]
      apply Ensures.tell_bind
      apply (engine.overRows_returns query sql).mono
      intro moves result returns proper
      refine .inl ⟨?_, returns⟩
      intro ⟨_, _, _, same, _⟩
      cases same
    · rw [if_neg allowed]
      refine fun _ => .inl ⟨?_, _, rfl⟩
      intro ⟨_, _, _, same, _⟩
      cases same
  next fault other =>
    refine fun _ => .inl ⟨?_, _, rfl⟩
    intro ⟨_, _, _, same, _⟩
    cases same

theorem finish_returns (engine : Engine) (query : Query) (sql : String) (schema : Snapshot) :
    (engine.finish query sql schema).Ensures fun moves result =>
      ProperAnswers (exchanges moves) → Returns (Overflow query sql (exchanges moves)) result := by
  apply Ensures.tell_bind
  apply Ensures.tell_bind
  apply Ensures.bind (engine.perform_returns query sql)
  · intro moves fault returns
    exact returns
  intro moves outcome returns
  -- Only reports follow, so nothing more is said.
  have last (record : LogRecord) (shown : Outcome) : ProperAnswers (exchanges (moves ++ [.report record])) →
      Returns (Overflow query sql (exchanges (moves ++ [.report record]))) (.ok shown) := by
    have same : exchanges (moves ++ [.report record]) = exchanges moves := by
      rw [exchanges_append]
      exact List.append_nil _
    rw [same]
    intro proper
    obtain ⟨finite, -⟩ | ⟨-, fault, impossible, -⟩ := returns proper
    · exact .inl ⟨finite, shown, rfl⟩
    · cases impossible
  split
  · exact last _ _
  · exact last _ _

/-- What is said in the execution of a source is that an UPDATE ran and changed an infinite number of rows. -/
def Overflows (engine : Engine) (source : QuerySource) (exchanges : List (Exchange collaborators)) : Prop :=
  ∃ schema query sql said, exchanges = ⟨.schema, .ok schema⟩ :: said ∧
    source.compile schema engine.layout = .ok (.compiled query sql) ∧ Overflow query sql.text said

-- The source stays abstract here: the compilation of a text would be unfolded otherwise.
theorem execute_returns (engine : Engine) {source : QuerySource}
    (ends : ∀ schema, ∃ compilation, source.compile schema engine.layout = .ok compilation) :
    (engine.execute source).Ensures fun moves result =>
      ProperAnswers (exchanges moves) → Returns (engine.Overflows source (exchanges moves)) result := by
  apply Ensures.tell_bind
  apply Ensures.attempt_ask_bind
  intro answer
  cases answer with
  | error fault =>
    apply Ensures.tell_bind
    refine fun _ => .inl ⟨?_, _, rfl⟩
    intro ⟨schema, _, _, _, same, _⟩
    cases same
  | ok schema =>
    apply Ensures.tell_bind
    apply Ensures.done_bind
    · intro fault failed
      obtain ⟨compilation, compiles⟩ := ends schema
      rw [compiles] at failed
      cases failed
    intro compilation compiles
    apply Ensures.tells_bind
    -- Without SQL nothing more is said.
    have turned (unfinished : compilation.sql? = none) (rest : List (Exchange collaborators)) :
        ¬engine.Overflows source (⟨.schema, .ok schema⟩ :: rest) := by
      intro ⟨_, query, sql, said, same, known, _⟩
      cases same
      rw [compiles] at known
      cases known
      cases unfinished
    cases compilation with
    | unread reason =>
      apply Ensures.tell_bind
      exact fun _ => .inl ⟨turned rfl _, _, rfl⟩
    | rejected error =>
      apply Ensures.tell_bind
      exact fun _ => .inl ⟨turned rfl _, _, rfl⟩
    | invalid query first rest =>
      apply Ensures.tell_bind
      apply Ensures.tell_bind
      exact fun _ => .inl ⟨turned rfl _, _, rfl⟩
    | compiled query sql =>
      apply Ensures.tell_bind
      apply (engine.finish_returns query sql.text schema).mono
      intro moves result returns proper
      have told : ProperAnswers (exchanges moves) := fun sql table member => proper sql table (.tail _ member)
      obtain ⟨finite, outcome, rfl⟩ | ⟨overflow, fault, rfl, infinity⟩ := returns told
      · refine .inl ⟨?_, outcome, rfl⟩
        rintro ⟨_, query, sql, said, same, known, overflow⟩
        cases same
        rw [compiles] at known
        cases known
        exact finite overflow
      · exact .inr ⟨⟨schema, query, sql, _, rfl, compiles, overflow⟩, fault, rfl, infinity⟩

/-- Over a connection, the execution of a text gives an outcome unless an infinite number of rows is told to have
changed. -/
theorem execute_over_connection {σ : Type} (engine : Engine) (source : String) (complete : engine.layout.Complete)
    (access : Access) (schema : σ → Handled σ Snapshot) (connected : Handler connection σ) (state : σ) :
    let program := engine.execute (.text source)
    let handler := handler schema (access.handler connected)
    ((∃ outcome, (program.run handler state).result = .ok outcome) ↔
        ¬engine.Overflows (.text source) (exchanges (program.moves handler state))) ∧
      ∀ fault, (program.run handler state).result = .error fault → fault.OfInfinity := by
  intro program handler
  have proper : ProperAnswers (exchanges (program.moves handler state)) := by
    intro sql table member
    obtain ⟨before, answer⟩ := program.answered handler state _ member
    exact access.handler_proper connected sql before answer.symm
  have returns := (engine.execute_returns fun schema => QuerySource.compile_succeeds source schema complete).run
    handler state proper
  obtain ⟨finite, outcome, ended⟩ | ⟨overflows, fault, ended, infinity⟩ := returns
  · refine ⟨⟨fun _ => finite, fun _ => ⟨outcome, ended⟩⟩, fun fault failed => ?_⟩
    rw [ended] at failed
    cases failed
  · refine ⟨⟨?_, fun finite => absurd overflows finite⟩, fun other failed => ?_⟩
    · intro ⟨outcome, impossible⟩
      rw [ended] at impossible
      cases impossible
    · rw [ended] at failed
      cases failed
      exact infinity

theorem execute_over_connection_missing :
    let program := ({} : Engine).execute (.text "UPDATE FORM 'f' SET FIELD('a') = 'x' WHERE submission_id = 'r'")
    let handler := handler (fun script => ⟨.ok ⟨[.ofColumns "f" ["a"]]⟩, script, []⟩) (({} : Access).handler Script.handler)
    let script : Script := { answers := [.ok ⟨some ["n"], [[.decimal (.missing false false 0)]], 1⟩] }
    ({} : Layout).Complete ∧ (∃ outcome, (program.run handler script).result = .ok outcome) ∧
      ((∃ outcome, (program.run handler script).result = .ok outcome) ↔
        ¬({} : Engine).Overflows (.text "UPDATE FORM 'f' SET FIELD('a') = 'x' WHERE submission_id = 'r'")
          (exchanges (program.moves handler script))) ∧
      ∀ fault, (program.run handler script).result = .error fault → fault.OfInfinity := by
  intro program handler script
  have complete : ({} : Layout).Complete := by decide
  have shown : passes (fun _ => true) (program.run handler script).result = true := by decide +kernel
  obtain ⟨outcome, ended, -⟩ := ok_of_passes shown
  exact ⟨complete, ⟨outcome, ended⟩, execute_over_connection {} _ complete {} _ Script.handler script⟩

/-- An infinite number of changed rows leaves an execution as a fault. -/
theorem execute_over_connection_infinite :
    let program := ({} : Engine).execute (.text "UPDATE FORM 'f' SET FIELD('a') = 'x' WHERE submission_id = 'r'")
    let handler := handler (fun script => ⟨.ok ⟨[.ofColumns "f" ["a"]]⟩, script, []⟩) (({} : Access).handler Script.handler)
    let script : Script := { answers := [.ok ⟨some ["n"], [[.decimal (.infinite false)]], 1⟩] }
    ({} : Layout).Complete ∧ ¬∃ outcome, (program.run handler script).result = .ok outcome := by
  intro program handler script
  have shown : (program.run handler script).result.isOk = false := by decide +kernel
  refine ⟨by decide, ?_⟩
  intro ⟨outcome, ended⟩
  rw [ended] at shown
  cases shown

end Engine

end FormQuery
