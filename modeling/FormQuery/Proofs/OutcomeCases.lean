import FormQuery.Proofs.ReportedOutcome

/-! Where an outcome comes from. Every execution that returns is one of a few cases, told by what was compiled and by
the answers of the backend; each case says what the outcome is. -/

namespace FormQuery.Engine

open Program

def isWrite : Exchange backend → Bool
  | ⟨.merge .., .ok _⟩ => true
  | _ => false

def Unwritten (said : List (Exchange backend)) : Prop := ∀ exchange ∈ said, isWrite exchange = false

/-- The outcome of an evaluation over fetched rows. -/
inductive EvaluationGives (engine : Engine) (sql : String) : Query → List (Exchange backend) → Outcome → Prop
  | sampled {wanted : Select} {rows : List FetchedRow} {table : ResultTable} {notes : List String}
      (evaluated : wanted.evaluate rows engine.layout = .ok table) :
      EvaluationGives engine sql (.select wanted)
        [⟨.fetchSubmissions wanted.table.name engine.rowLimit, .ok rows⟩]
        { columns := table.columns, rows := table.rows, notes := notes, fallback := true, sql := some sql }
  | written {change : Update} {row : FetchedRow} {patch : Fields} {changed : Int} :
      EvaluationGives engine sql (.update change)
        [⟨.fetchSubmission change.table.name change.rowId.text, .ok (some row)⟩,
          ⟨.merge change.table.name change.rowId.text patch, .ok changed⟩]
        { updateOutcome changed sql with
          fallback := true, notes := (updateOutcome changed sql).notes ++ [appliedNote] }
  | failed {query : Query} {said : List (Exchange backend)} (unwritten : Unwritten said) (message : String) :
      EvaluationGives engine sql query said (.failure message (some sql))

/-- The outcome of the execution of a compiled query. -/
inductive ExecutionGives (engine : Engine) (sql : String) : Query → List (Exchange backend) → Outcome → Prop
  | selected {wanted : Select} {table : RawTable} {outcome : Outcome}
      (read : Outcome.ofRaw table.columns table.rows sql = .ok outcome) :
      ExecutionGives engine sql (.select wanted) [⟨.runSql sql, .ok table⟩] outcome
  | updated {change : Update} {table : RawTable} (changed : Int) :
      ExecutionGives engine sql (.update change) [⟨.runSql sql, .ok table⟩] (updateOutcome changed sql)
  | refused {query : Query} {table : Except Fault RawTable} (message : String) :
      ExecutionGives engine sql query [⟨.runSql sql, table⟩] (.failure message (some sql))
  | evaluated {query : Query} {reason : String} {said : List (Exchange backend)} {outcome : Outcome}
      (gives : EvaluationGives engine sql query said outcome) :
      ExecutionGives engine sql query (⟨.runSql sql, .error (.unavailable reason)⟩ :: said) outcome

/-- The outcome of an execution, by the answer to the question for a schema. -/
inductive Gives (engine : Engine) (source : QuerySource) :
    Except Fault Snapshot → Option Compilation → List (Exchange backend) → Outcome → Prop
  | unknown (fault : Fault) (message : String) : Gives engine source (.error fault) none [] (.failure message none)
  | diagnosed {schema : Snapshot} {compilation : Compilation}
      (compiles : source.compile schema engine.layout = .ok compilation) (unfinished : compilation.sql? = none) :
      Gives engine source (.ok schema) (some compilation) [] (.ofDiagnostics compilation.diagnostics)
  | executed {schema : Snapshot} {query : Query} {sql : Sql} {said : List (Exchange backend)} {outcome : Outcome}
      (compiles : source.compile schema engine.layout = .ok (.compiled query sql))
      (gives : ExecutionGives engine sql.text query said outcome) :
      Gives engine source (.ok schema) (some (.compiled query sql)) said
        (if outcome.ok then engine.labelled query schema outcome else outcome)

theorem Gives.compiles {engine : Engine} {source : QuerySource} {answer : Except Fault Snapshot}
    {compiled : Option Compilation} {said : List (Exchange backend)} {outcome : Outcome}
    (gives : engine.Gives source answer compiled said outcome) : engine.Compiles source answer compiled := by
  cases gives with
  | unknown fault message => exact .unknown fault
  | diagnosed compiles unfinished => exact .known compiles
  | executed compiles gives => exact .known compiles

theorem Unwritten.nil : Unwritten [] := nofun

theorem Unwritten.cons {exchange : Exchange backend} {said : List (Exchange backend)} (first : isWrite exchange = false)
    (rest : Unwritten said) : Unwritten (exchange :: said) := List.forall_mem_cons.mpr ⟨first, rest⟩

/-- A part of an evaluation gives an outcome, or a fault and no answer to a write. -/
def Leads (engine : Engine) (sql : String) (query : Query) (moves : List (Move collaborators))
    (result : Except Fault Outcome) : Prop :=
  ToBackend (fun said => match result with
    | .ok outcome => engine.EvaluationGives sql query said outcome
    | .error _ => Unwritten said) (exchanges moves)

theorem selectOverRows_leads (engine : Engine) (wanted : Select) (sql : String) :
    (engine.selectOverRows wanted sql).Ensures (engine.Leads sql (.select wanted)) := by
  apply Ensures.ask_bind
  · intro fault
    exact .one (.cons rfl .nil)
  · intro rows
    apply Ensures.done_bind
    · intro fault failed
      exact .one (.cons rfl .nil)
    · intro table evaluated
      exact .one (.sampled evaluated)

theorem updateOverRow_leads (engine : Engine) (change : Update) (sql : String) :
    (engine.updateOverRow change sql).Ensures (engine.Leads sql (.update change)) := by
  apply Ensures.ask_bind
  · intro fault
    exact .one (.cons rfl .nil)
  intro found
  cases found with
  | none => exact .one (.failed (.cons rfl .nil) notFound)
  | some row =>
    apply Ensures.done_bind
    · intro fault failed
      exact .one (.cons rfl .nil)
    intro patch evaluated
    apply Ensures.ask_bind
    · intro fault
      exact .cons (.one (.cons rfl (.cons rfl .nil)))
    · intro changed
      exact .cons (.one .written)

theorem overRows_gives (engine : Engine) (query : Query) (sql : String) :
    (engine.overRows query sql).Ensures fun moves result => ∀ outcome, result = .ok outcome →
      ToBackend (fun said => engine.EvaluationGives sql query said outcome) (exchanges moves) := by
  apply Ensures.attempt_bind
  · show Ensures _ (engine.Leads sql query)
    cases query with
    | select wanted => exact engine.selectOverRows_leads wanted sql
    | update change => exact engine.updateOverRow_leads change sql
  · intro moves result ⟨said, only, leads⟩
    cases result with
    | ok outcome =>
      rintro _ ⟨⟩
      refine ⟨said, ?_, leads⟩
      rw [List.append_nil, only]
    | error fault =>
      -- A write is the last that an evaluation asks for, so none was answered before a fault.
      rintro _ ⟨⟩
      refine ⟨said, ?_, .failed leads fault.message⟩
      rw [exchanges_append, only]
      exact List.append_nil _

theorem perform_gives (engine : Engine) (query : Query) (sql : String) :
    (engine.perform query sql).Ensures fun moves result => ∀ outcome, result = .ok outcome →
      ToBackend (fun said => engine.ExecutionGives sql query said outcome) (exchanges moves) := by
  apply Ensures.attempt_ask_bind
  intro answer
  split
  next table =>
    intro outcome read
    refine .one ?_
    cases query with
    | select wanted =>
      cases shown : Outcome.ofRaw table.columns table.rows sql with
      | error report => simp [databaseOutcome, shown, Except.mapError] at read
      | ok given =>
        obtain rfl : given = outcome := by simpa [databaseOutcome, shown, Except.mapError] using read
        exact .selected shown
    | update change =>
      obtain ⟨changed, counted, read⟩ := ok_of_bind read
      cases read
      exact .updated changed
  next reason =>
    by_cases allowed : engine.fallbackEnabled = true
    · rw [if_pos allowed]
      apply (engine.overRows_gives query sql).mono
      intro moves result gives outcome ended
      exact .cons ((gives outcome ended).mono fun said => .evaluated)
    · rw [if_neg allowed]
      rintro _ ⟨⟩
      exact .one (.refused reason)
  next fault other =>
    rintro _ ⟨⟩
    exact .one (.refused fault.message)

theorem finish_gives (engine : Engine) (query : Query) (sql : String) (schema : Snapshot) :
    (engine.finish query sql schema).Ensures fun moves result => ∀ outcome, result = .ok outcome →
      ToBackend (fun said => ∃ given, engine.ExecutionGives sql query said given ∧
        outcome = if given.ok then engine.labelled query schema given else given) (exchanges moves) := by
  apply Ensures.tell_bind
  apply Ensures.tell_bind
  apply Ensures.bind (engine.perform_gives query sql)
  · rintro moves fault - _ ⟨⟩
  intro moves given gives
  obtain ⟨said, only, gives⟩ := gives given rfl
  have whole (more : List (Move collaborators)) (silent : exchanges more = []) :
      exchanges (moves ++ more) = said.map ofBackend := by rw [exchanges_append, silent, List.append_nil, only]
  split
  next ok =>
    rintro _ ⟨⟩
    exact ⟨said, whole _ rfl, given, gives, (if_pos ok).symm⟩
  next failed =>
    rintro _ ⟨⟩
    exact ⟨said, whole _ rfl, given, gives, (if_neg failed).symm⟩

theorem execute_gives (engine : Engine) (source : QuerySource) :
    (engine.execute source).Ensures fun moves result => ∀ outcome, result = .ok outcome → ∃ answer compiled said,
      exchanges moves = ⟨.schema, answer⟩ :: said.map ofBackend ∧ engine.Gives source answer compiled said outcome := by
  apply Ensures.tell_bind
  apply Ensures.attempt_ask_bind
  intro answer
  cases answer with
  | error fault =>
    apply Ensures.tell_bind
    rintro _ ⟨⟩
    exact ⟨.error fault, none, [], rfl, .unknown fault _⟩
  | ok schema =>
    apply Ensures.tell_bind
    apply Ensures.done_bind
    · rintro fault - _ ⟨⟩
    intro compilation compiles
    apply Ensures.tells_bind
    cases compilation with
    | unread reason =>
      apply Ensures.tell_bind
      rintro _ ⟨⟩
      exact ⟨.ok schema, _, [], rfl, .diagnosed compiles rfl⟩
    | rejected error =>
      apply Ensures.tell_bind
      rintro _ ⟨⟩
      exact ⟨.ok schema, _, [], rfl, .diagnosed compiles rfl⟩
    | invalid query first rest =>
      apply Ensures.tell_bind
      apply Ensures.tell_bind
      rintro _ ⟨⟩
      exact ⟨.ok schema, _, [], rfl, .diagnosed compiles rfl⟩
    | compiled query sql =>
      apply Ensures.tell_bind
      apply (engine.finish_gives query sql.text schema).mono
      rintro moves result gives outcome rfl
      obtain ⟨said, only, given, known, rfl⟩ := gives outcome rfl
      exact ⟨.ok schema, _, said, congrArg (_ :: ·) only, .executed compiles known⟩

theorem cases_of_execute {σ : Type} (engine : Engine) (source : QuerySource) (handler : Handler collaborators σ)
    (state : σ) {outcome : Outcome} (returned : ((engine.execute source).run handler state).result = .ok outcome) :
    ∃ answer compiled said,
      exchanges ((engine.execute source).moves handler state) = ⟨.schema, answer⟩ :: said.map ofBackend ∧
      engine.Gives source answer compiled said outcome :=
  (engine.execute_gives source).run handler state outcome returned

end FormQuery.Engine
