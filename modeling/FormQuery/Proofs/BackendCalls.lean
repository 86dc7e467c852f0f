import FormQuery.Engine.Course
import FormQuery.Proofs.ProgramLogic

/-! The calls that an engine makes to its backend. Each part of an execution keeps to the part of `Engine.Dialogue` that
is about it, whatever the schema and the backend answer. -/

namespace FormQuery.Engine

open Program

/-- The exchanges are with the backend alone, and what is said there has a property. -/
def ToBackend (kept : List (Exchange backend) → Prop) (exchanges : List (Exchange collaborators)) : Prop :=
  ∃ said : List (Exchange backend), exchanges = said.map ofBackend ∧ kept said

variable {kept : List (Exchange backend) → Prop}

theorem ToBackend.none (silent : kept []) : ToBackend kept [] := ⟨[], rfl, silent⟩

theorem ToBackend.one {request : BackendCall} {answer : Except Fault request.Answer}
    (last : kept [⟨request, answer⟩]) : ToBackend kept [⟨.backend request, answer⟩] :=
  ⟨[⟨request, answer⟩], rfl, last⟩

theorem ToBackend.cons {request : BackendCall} {answer : Except Fault request.Answer}
    {exchanges : List (Exchange collaborators)}
    (rest : ToBackend (fun said => kept (⟨request, answer⟩ :: said)) exchanges) :
    ToBackend kept (⟨.backend request, answer⟩ :: exchanges) := by
  obtain ⟨said, rfl, known⟩ := rest
  exact ⟨⟨request, answer⟩ :: said, rfl, known⟩

theorem ToBackend.mono {other : List (Exchange backend) → Prop} {exchanges : List (Exchange collaborators)}
    (speaks : ToBackend kept exchanges) (implies : ∀ said, kept said → other said) : ToBackend other exchanges := by
  obtain ⟨said, only, known⟩ := speaks
  exact ⟨said, only, implies said known⟩

/-- The rule for a call: a fault of the backend ends what is said. -/
theorem keeps_call_bind {α : Type} {request : BackendCall} {next : request.Answer → Work α}
    (fails : ∀ fault, kept [⟨request, .error fault⟩])
    (rest : ∀ value, (next value).Says (ToBackend fun said => kept (⟨request, .ok value⟩ :: said))) :
    (call request >>= next).Says (ToBackend kept) := by
  apply Says.ask_bind
  · intro fault
    exact ToBackend.one (fails fault)
  · intro value
    apply (rest value).mono
    intro exchanges known
    exact known.cons

theorem quiet_lift {α : Type} (result : Except Fault α) : Quiet (lift result) := Quiet.done result

theorem quiet_pure {α : Type} (value : α) : Quiet (pure value : Work α) := Quiet.done (.ok value)

variable (engine : Engine)

theorem selectOverRows_keeps (wanted : Select) (sql : String) :
    (engine.selectOverRows wanted sql).Says (ToBackend (engine.Evaluation (.select wanted))) := by
  apply keeps_call_bind
  · intro fault
    exact .sample (.error fault)
  · intro rows
    apply Says.of_quiet
    · exact Quiet.bind (quiet_lift _) fun table => quiet_pure _
    · exact .none (.sample (.ok rows))

theorem patch_eq (change : Update) (row : FetchedRow) (layout : Layout) :
    change.patch row layout = (change.newValue row layout).map fun value => [(change.target.name, value)] := by
  unfold Update.patch
  cases change.newValue row layout <;> rfl

theorem updateOverRow_keeps (change : Update) (sql : String) :
    (engine.updateOverRow change sql).Says (ToBackend (engine.Evaluation (.update change))) := by
  apply keeps_call_bind
  · intro fault
    apply Evaluation.unwritten
    intro row found
    cases found
  intro found
  cases found with
  | none =>
    apply Says.of_quiet (quiet_pure _)
    apply ToBackend.none
    apply Evaluation.unwritten
    intro row missing
    cases missing
  | some row =>
    simp only [patch_eq]
    cases evaluated : change.newValue row engine.layout with
    | error fault =>
      apply Says.of_quiet (quiet_lift (.error fault))
      apply ToBackend.none
      apply Evaluation.unwritten
      rintro _ ⟨⟩ value succeeds
      rw [evaluated] at succeeds
      cases succeeds
    | ok value =>
      apply keeps_call_bind
      · intro fault
        exact .written evaluated (.error fault)
      · intro changed
        apply Says.of_quiet (quiet_pure _)
        exact .none (.written evaluated (.ok changed))

theorem overRows_keeps (query : Query) (sql : String) :
    (engine.overRows query sql).Says (ToBackend (engine.Evaluation query)) := by
  apply Says.bind_quiet
  · apply Says.attempt
    cases query with
    | select wanted => exact engine.selectOverRows_keeps wanted sql
    | update change => exact engine.updateOverRow_keeps change sql
  · intro result
    cases result with
    | ok outcome => exact quiet_pure outcome
    | error fault => exact Quiet.bind (Quiet.tell _) fun _ => quiet_pure _

theorem perform_keeps (query : Query) (sql : String) :
    (engine.perform query sql).Says (ToBackend (engine.Execution query sql)) := by
  apply Says.attempt_ask_bind
  intro answer
  split
  next table =>
    apply Says.of_quiet (quiet_lift _)
    apply ToBackend.one
    apply Execution.settled
    intro allowed reason unavailable
    cases unavailable
  next reason =>
    by_cases allowed : engine.fallbackEnabled = true
    · rw [if_pos allowed]
      apply Says.tell_bind
      apply (engine.overRows_keeps query sql).mono
      intro exchanges known
      apply ToBackend.cons
      exact known.mono fun said evaluation => .evaluated allowed evaluation
    · rw [if_neg allowed]
      apply Says.of_quiet (quiet_pure _)
      apply ToBackend.one
      apply Execution.settled
      intro enabled
      contradiction
  next fault other =>
    apply Says.of_quiet (Quiet.bind (Quiet.tell _) fun _ => quiet_pure _)
    apply ToBackend.one
    apply Execution.settled
    rintro allowed reason ⟨⟩
    exact other reason rfl

theorem finish_keeps (query : Query) (sql : String) (schema : Snapshot) :
    (engine.finish query sql schema).Says (ToBackend (engine.Execution query sql)) := by
  apply Says.tell_bind
  apply Says.tell_bind
  apply Says.bind_quiet (engine.perform_keeps query sql)
  intro outcome
  split
  · exact Quiet.bind (Quiet.tell _) fun _ => quiet_pure _
  · exact Quiet.bind (Quiet.tell _) fun _ => quiet_pure _

/-- What is said to the schema and then to the backend in an execution. -/
def Conversation (engine : Engine) (source : QuerySource) (exchanges : List (Exchange collaborators)) : Prop :=
  ∃ answer said, exchanges = ⟨.schema, answer⟩ :: said.map ofBackend ∧ engine.Dialogue source answer said

theorem execute_keeps (source : QuerySource) : (engine.execute source).Says (engine.Conversation source) := by
  apply Says.tell_bind
  apply Says.attempt_ask_bind
  intro answer
  -- It is enough to look at what is said after the schema was asked for.
  suffices follows : Says _ (ToBackend (engine.Dialogue source answer)) by
    apply follows.mono
    rintro _ ⟨said, rfl, dialogue⟩
    exact ⟨answer, said, rfl, dialogue⟩
  cases answer with
  | error fault =>
    apply Says.of_quiet
    · exact Quiet.bind (Quiet.tell _) fun _ => quiet_pure _
    · exact .none (.unknown fault)
  | ok schema =>
    apply Says.tell_bind
    cases compiles : source.compile schema engine.layout with
    | error fault =>
      apply Says.of_quiet (quiet_lift (.error fault))
      apply ToBackend.none
      apply Dialogue.uncompiled
      intro compilation given
      rw [compiles] at given
      cases given
    | ok compilation =>
      have uncompiled (lacking : compilation.sql? = none) : engine.Dialogue source (.ok schema) [] := by
        apply Dialogue.uncompiled
        intro given found
        rw [compiles] at found
        cases found
        exact lacking
      apply Says.tells_bind
      cases compilation with
      | unread reason =>
        apply Says.of_quiet (Quiet.bind (Quiet.tell _) fun _ => quiet_pure _)
        exact .none (uncompiled rfl)
      | rejected error =>
        apply Says.of_quiet (Quiet.bind (Quiet.tell _) fun _ => quiet_pure _)
        exact .none (uncompiled rfl)
      | invalid query first rest =>
        apply Says.of_quiet
        · exact Quiet.bind (Quiet.tell _) fun _ => Quiet.bind (Quiet.tell _) fun _ => quiet_pure _
        · exact .none (uncompiled rfl)
      | compiled query sql =>
        apply Says.tell_bind
        apply (engine.finish_keeps query sql.text schema).mono
        intro exchanges known
        exact known.mono fun said execution => .compiled compiles rfl rfl execution

variable {engine} {query : Query} {sql : String} {source : QuerySource} {answer : Except Fault Snapshot}
  {said : List (Exchange backend)}

theorem Evaluation.calls_cases (evaluation : engine.Evaluation query said) :
    (∃ wanted, query = .select wanted ∧ calls said = [.fetchSubmissions wanted.table.name engine.rowLimit]) ∨
    ∃ change, query = .update change ∧
      (calls said = [.fetchSubmission change.table.name change.rowId.text] ∨
        ∃ patch, calls said = [.fetchSubmission change.table.name change.rowId.text,
          .merge change.table.name change.rowId.text patch]) := by
  cases evaluation with
  | sample rows => exact .inl ⟨_, rfl, rfl⟩
  | unwritten lacking => exact .inr ⟨_, rfl, .inl rfl⟩
  | written evaluated changed => exact .inr ⟨_, rfl, .inr ⟨_, rfl⟩⟩

theorem Execution.calls_cases (execution : engine.Execution query sql said) :
    calls said = [.runSql sql] ∨
      ∃ rest, calls said = .runSql sql :: calls rest ∧ engine.Evaluation query rest := by
  cases execution with
  | settled final => exact .inl rfl
  | evaluated allowed evaluation => exact .inr ⟨_, rfl, evaluation⟩

theorem Execution.nodup (execution : engine.Execution query sql said) : (calls said).Nodup := by
  obtain alone | ⟨rest, followed, evaluation⟩ := execution.calls_cases
  · simp [alone]
  · obtain ⟨wanted, -, sampled⟩ | ⟨change, -, fetched | ⟨patch, merged⟩⟩ := evaluation.calls_cases
    · simp [followed, sampled]
    · simp [followed, fetched]
    · simp [followed, merged]

theorem Execution.of_merge (execution : engine.Execution query sql said) {form rowId : String} {patch : Fields}
    (writes : .merge form rowId patch ∈ calls said) : ∃ change, query = .update change := by
  obtain alone | ⟨rest, followed, evaluation⟩ := execution.calls_cases
  · simp [alone] at writes
  · obtain ⟨wanted, -, sampled⟩ | ⟨change, updates, -⟩ := evaluation.calls_cases
    · simp [followed, sampled] at writes
    · exact ⟨change, updates⟩

theorem Dialogue.calls_cases (dialogue : engine.Dialogue source answer said) :
    calls said = [] ∨ ∃ schema compilation query sql, answer = .ok schema ∧
      source.compile schema engine.layout = .ok compilation ∧ compilation.query? = some query ∧
      compilation.sql? = some sql ∧ engine.Execution query sql said := by
  cases dialogue with
  | unknown fault => exact .inl rfl
  | uncompiled lacking => exact .inl rfl
  | compiled compiles query? sql? execution => exact .inr ⟨_, _, _, _, rfl, compiles, query?, sql?, execution⟩

theorem requests_ofBackend (said : List (Exchange backend)) :
    (said.map ofBackend).map Exchange.request = (calls said).map EngineCall.backend := by
  induction said with
  | nil => rfl
  | cons made said ih => exact congrArg (EngineCall.backend made.request :: ·) ih

/-- An execution asks for the schema once, keeps to the dialogue with the backend, makes no call again and writes only
for an UPDATE. -/
theorem calls_of_execute {σ : Type} (engine : Engine) (source : QuerySource) (handler : Handler collaborators σ)
    (state : σ) :
    ∃ answer said,
      exchanges ((engine.execute source).moves handler state) = ⟨.schema, answer⟩ :: said.map ofBackend ∧
      ((engine.execute source).run handler state).requests = .schema :: (calls said).map .backend ∧
      engine.Dialogue source answer said ∧
      (calls said).Nodup ∧
      ∀ form rowId patch, .merge form rowId patch ∈ calls said →
        ∃ schema compilation change, answer = .ok schema ∧ source.compile schema engine.layout = .ok compilation ∧
          compilation.query? = some (.update change) := by
  obtain ⟨answer, said, only, dialogue⟩ := (engine.execute_keeps source).run handler state
  refine ⟨answer, said, only, ?_, dialogue, ?_, ?_⟩
  · rw [requests_run, only]
    exact congrArg (EngineCall.schema :: ·) (requests_ofBackend said)
  · obtain silent | ⟨schema, compilation, query, sql, -, -, -, -, execution⟩ := dialogue.calls_cases
    · simp [silent]
    · exact execution.nodup
  · intro form rowId patch writes
    obtain silent | ⟨schema, compilation, query, sql, known, compiles, query?, -, execution⟩ := dialogue.calls_cases
    · simp [silent] at writes
    · obtain ⟨change, rfl⟩ := execution.of_merge writes
      exact ⟨schema, compilation, change, known, compiles, query?⟩

end FormQuery.Engine
