import FormQuery.Engine.Course
import FormQuery.Proofs.BackendCalls
import FormQuery.Proofs.Runs
import FormQuery.Storage.Memory
import Mathlib.Data.List.Chain

/-! Outcomes keep to what was answered. An outcome is free of errors exactly when one of the two ways of execution came
to a result, and the reported states are those of the course that the query took. -/

namespace FormQuery

theorem QueryState.course_chain (compiled : Option Compilation) (succeeded : Bool) :
    (course compiled succeeded).IsChain Next := by
  cases compiled with
  | none => simp [course]
  | some compilation =>
    cases compilation with
    | unread reason => simp [course, Next.lexing, Next.rejected]
    | rejected error => simp [course, Next.lexing, Next.rejected]
    | invalid query first rest => simp [course, Next.lexing, Next.parsed, Next.invalid]
    | compiled query sql =>
      cases succeeded <;> simp [course, Next.lexing, Next.parsed, Next.validated, Next.generated, Next.executed, Next.failed]

theorem reportedStates_append {service : Service} (moves more : List (Move service)) :
    reportedStates (moves ++ more) = reportedStates moves ++ reportedStates more := List.filterMap_append

namespace Engine

open Program

/-- An outcome with errors shows no rows, and all of its errors are of one kind. -/
def Bare (outcome : Outcome) : Prop :=
  outcome.columns = [] ∧ outcome.rows = [] ∧ outcome.errors.map (·.kind) = [.execution]

/-- An outcome over a sample of rows says so, and says whether the sample was cut. -/
def Noted (engine : Engine) (said : List (Exchange backend)) (outcome : Outcome) : Prop :=
  ∀ form rows, ⟨.fetchSubmissions form engine.rowLimit, .ok rows⟩ ∈ said → outcome.fallback = true ∧
    (truncationNote engine.rowLimit ∈ outcome.notes ↔ engine.rowLimit ≤ rows.length)

/-- What an outcome of an execution has to say, when it is known whether the execution succeeded. -/
structure Judged (engine : Engine) (succeeded : Prop) (said : List (Exchange backend)) (outcome : Outcome) : Prop where
  ok_iff : outcome.ok = true ↔ succeeded
  bare : outcome.ok = false → Bare outcome
  noted : outcome.ok = true → engine.Noted said outcome

variable {engine : Engine} {succeeded : Prop} {said : List (Exchange backend)}

theorem Judged.failure (unsuccessful : ¬succeeded) (message : String) (sql : Option String) :
    engine.Judged succeeded said (.failure message sql) where
  ok_iff := by simp [Outcome.ok, Outcome.failure, unsuccessful]
  bare := fun _ => ⟨rfl, rfl, rfl⟩
  noted := fun ok => by simp [Outcome.ok, Outcome.failure] at ok

theorem Judged.clean {outcome : Outcome} (errors : outcome.errors = []) (holds : succeeded)
    (noted : engine.Noted said outcome) : engine.Judged succeeded said outcome where
  ok_iff := by simp [Outcome.ok, errors, holds]
  bare := fun failed => by simp [Outcome.ok, errors] at failed
  noted := fun _ => noted

theorem truncationNote_ne_sampleNote (limit other : Int) : truncationNote limit ≠ sampleNote other := by
  intro same
  -- The two notes begin with different letters.
  have cut : (truncationNote limit).toList.head? = some 'S' := by
    unfold truncationNote
    rw [String.toList_append, String.toList_append, List.head?_append, List.head?_append]
    rfl
  have whole : (sampleNote other).toList.head? = some 'R' := by
    unfold sampleNote
    rw [String.toList_append, String.toList_append, List.head?_append, List.head?_append]
    rfl
  rw [same, whole] at cut
  exact absurd cut (by decide)

theorem truncated_iff (limit : Int) (rows : List FetchedRow) :
    truncationNote limit ∈ sampleNote limit :: (if limit ≤ rows.length then [truncationNote limit] else []) ↔
      limit ≤ rows.length := by
  by_cases cut : limit ≤ rows.length
  · simp [cut]
  · simp [cut, truncationNote_ne_sampleNote]

/-- A part of an execution reports no states, and its outcome is judged by what was said. -/
def Tells (engine : Engine) (success : List (Exchange backend) → Prop) (moves : List (Move collaborators))
    (result : Except Fault Outcome) : Prop :=
  reportedStates moves = [] ∧ ToBackend (fun said => match result with
    | .ok outcome => engine.Judged (success said) said outcome
    | .error _ => ¬success said) (exchanges moves)

theorem selectOverRows_tells (engine : Engine) (wanted : Select) (sql : String) :
    (engine.selectOverRows wanted sql).Ensures (engine.Tells (engine.Evaluated (.select wanted))) := by
  apply Ensures.ask_bind
  · intro fault
    refine ⟨rfl, .one ?_⟩
    intro evaluated
    cases evaluated
  · intro rows
    apply Ensures.done_bind
    · intro fault failed
      refine ⟨rfl, .one ?_⟩
      rintro ⟨succeeds⟩
      rw [failed] at succeeds
      cases succeeds
    · intro table evaluated
      refine ⟨rfl, .one ?_⟩
      apply Judged.clean rfl (.sample evaluated)
      intro form others fetched
      obtain ⟨⟩ := List.mem_singleton.mp fetched
      exact ⟨rfl, truncated_iff engine.rowLimit _⟩

def Unsampled (said : List (Exchange backend)) : Prop :=
  ∀ exchange ∈ said, ∀ form limit, exchange.request ≠ .fetchSubmissions form limit

theorem Noted.of_unsampled (unsampled : Unsampled said) (outcome : Outcome) : engine.Noted said outcome := by
  intro form rows fetched
  exact absurd rfl (unsampled _ fetched _ _)

theorem updateOutcome_judged {changed : Int} (sql : String) (counted : succeeded ↔ 0 < changed)
    (unsampled : Unsampled said) : engine.Judged succeeded said (updateOutcome changed sql) := by
  unfold updateOutcome
  split
  · apply Judged.failure
    rw [counted]
    omega
  · apply Judged.clean rfl
    · rw [counted]
      omega
    · exact .of_unsampled unsampled _

theorem Judged.applied {outcome : Outcome} (judged : engine.Judged succeeded said outcome) (notes : List String)
    (unsampled : Unsampled said) : engine.Judged succeeded said { outcome with fallback := true, notes := notes } :=
  ⟨judged.ok_iff, judged.bare, fun _ => .of_unsampled unsampled _⟩

theorem updateOverRow_tells (engine : Engine) (change : Update) (sql : String) :
    (engine.updateOverRow change sql).Ensures (engine.Tells (engine.Evaluated (.update change))) := by
  apply Ensures.ask_bind
  · intro fault
    refine ⟨rfl, .one ?_⟩
    intro evaluated
    cases evaluated
  intro found
  cases found with
  | none =>
    refine ⟨rfl, .one ?_⟩
    apply Judged.failure
    intro evaluated
    cases evaluated
  | some row =>
    apply Ensures.done_bind
    · intro fault failed
      refine ⟨rfl, .one ?_⟩
      intro evaluated
      cases evaluated
    intro patch evaluated
    apply Ensures.ask_bind
    · intro fault
      refine ⟨rfl, .cons (.one ?_)⟩
      intro evaluated
      cases evaluated
    · intro changed
      refine ⟨rfl, .cons (.one ?_)⟩
      have unsampled : Unsampled [⟨.fetchSubmission change.table.name change.rowId.text, .ok (some row)⟩,
          ⟨.merge change.table.name change.rowId.text patch, .ok changed⟩] := by
        simp only [Unsampled, List.forall_mem_cons]
        exact ⟨nofun, nofun, nofun⟩
      apply Judged.applied (updateOutcome_judged sql ?_ unsampled) _ unsampled
      constructor
      · intro evaluated
        cases evaluated
        assumption
      · intro positive
        exact .written evaluated positive

theorem overRows_tells (engine : Engine) (query : Query) (sql : String) :
    (engine.overRows query sql).Ensures (engine.Tells (engine.Evaluated query)) := by
  apply Ensures.attempt_bind
  · show Ensures _ (engine.Tells (engine.Evaluated query))
    cases query with
    | select wanted => exact engine.selectOverRows_tells wanted sql
    | update change => exact engine.updateOverRow_tells change sql
  · intro moves result ⟨silent, said, only, judged⟩
    cases result with
    | ok outcome =>
      refine ⟨?_, said, ?_, judged⟩
      · rw [List.append_nil, silent]
      · rw [List.append_nil, only]
    | error fault =>
      refine ⟨?_, said, ?_, Judged.failure judged _ _⟩
      · rw [reportedStates_append, silent]
        rfl
      · rw [exchanges_append, only]
        exact List.append_nil _

/-- An execution that ends reports no states, and its outcome is judged by what was said. -/
def Ends (engine : Engine) (success : List (Exchange backend) → Prop) (moves : List (Move collaborators))
    (result : Except Fault Outcome) : Prop :=
  reportedStates moves = [] ∧ ∀ outcome, result = .ok outcome →
    ToBackend (fun said => engine.Judged (success said) said outcome) (exchanges moves)

theorem errors_ofRaw {columns rows : Value} {sql : String} {outcome : Outcome}
    (read : Outcome.ofRaw columns rows sql = .ok outcome) : outcome.errors = [] := by
  unfold Outcome.ofRaw at read
  generalize (Outcome.checkColumns columns).under (.field "columns") = named at read
  generalize (Outcome.checkRows rows).under (.field "rows") = celled at read
  cases named with
  | bad problems => cases celled <;> cases read
  | good names =>
    cases celled with
    | bad problems => cases read
    | good cells =>
      cases read
      rfl

theorem databaseOutcome_judged {query : Query} {table : RawTable} {sql : String} {outcome : Outcome}
    (read : databaseOutcome query table sql = .ok outcome) :
    engine.Judged (engine.Succeeded sql query [⟨.runSql sql, .ok table⟩]) [⟨.runSql sql, .ok table⟩] outcome := by
  have unsampled : Unsampled [⟨.runSql sql, .ok table⟩] := by
    simp only [Unsampled, List.forall_mem_singleton]
    exact nofun
  cases query with
  | select wanted =>
    cases shown : Outcome.ofRaw table.columns table.rows sql with
    | error report => simp [databaseOutcome, shown, Except.mapError] at read
    | ok given =>
      obtain rfl : given = outcome := by simpa [databaseOutcome, shown, Except.mapError] using read
      exact Judged.clean (errors_ofRaw shown) (.selected table) (.of_unsampled unsampled _)
  | update change =>
    obtain ⟨changed, counted, read⟩ := ok_of_bind read
    cases read
    apply updateOutcome_judged sql _ unsampled
    constructor
    · intro succeeded
      cases succeeded with
      | updated known positive =>
        rw [counted] at known
        cases known
        exact positive
    · intro positive
      exact .updated counted positive

theorem Judged.evaluated {query : Query} {sql reason : String} {outcome : Outcome}
    (allowed : engine.fallbackEnabled = true) (judged : engine.Judged (engine.Evaluated query said) said outcome) :
    engine.Judged (engine.Succeeded sql query (⟨.runSql sql, .error (.unavailable reason)⟩ :: said))
      (⟨.runSql sql, .error (.unavailable reason)⟩ :: said) outcome where
  ok_iff := by
    rw [judged.ok_iff]
    constructor
    · exact .evaluated allowed
    · intro succeeded
      cases succeeded
      assumption
  bare := judged.bare
  noted := by
    intro ok form rows fetched
    obtain same | earlier := List.mem_cons.mp fetched
    · cases same
    · exact judged.noted ok form rows earlier

theorem perform_ends (engine : Engine) (query : Query) (sql : String) :
    (engine.perform query sql).Ensures (engine.Ends (engine.Succeeded sql query)) := by
  apply Ensures.attempt_ask_bind
  intro answer
  split
  next table =>
    refine ⟨rfl, fun outcome read => .one ?_⟩
    exact databaseOutcome_judged read
  next reason =>
    by_cases allowed : engine.fallbackEnabled = true
    · rw [if_pos allowed]
      apply (engine.overRows_tells query sql).mono
      intro moves result ⟨silent, tells⟩
      refine ⟨silent, ?_⟩
      rintro outcome rfl
      exact .cons (tells.mono fun said judged => judged.evaluated allowed)
    · rw [if_neg allowed]
      refine ⟨rfl, ?_⟩
      rintro _ ⟨⟩
      refine .one (Judged.failure ?_ _ _)
      intro succeeded
      cases succeeded
      contradiction
  next fault other =>
    refine ⟨rfl, ?_⟩
    rintro _ ⟨⟩
    refine .one (Judged.failure ?_ _ _)
    intro succeeded
    cases succeeded
    exact other _ rfl

theorem labelled_eq (engine : Engine) (query : Query) (schema : Snapshot) (outcome : Outcome) :
    ∃ columns, engine.labelled query schema outcome = { outcome with columns := columns } := by
  unfold labelled
  split
  · split
    · exact ⟨_, rfl⟩
    · exact ⟨outcome.columns, rfl⟩
  · exact ⟨outcome.columns, rfl⟩

theorem Judged.renamed {outcome : Outcome} (judged : engine.Judged succeeded said outcome) (ok : outcome.ok = true)
    (columns : List String) : engine.Judged succeeded said { outcome with columns := columns } where
  ok_iff := judged.ok_iff
  bare := fun failed => absurd (ok.symm.trans failed) (by decide)
  noted := judged.noted

theorem reportedStates_stateLog (state : QueryState) (detail : String) (sql : Option String)
    (moves : List (Move collaborators)) :
    reportedStates (.report (stateLog state detail sql) :: moves) = state.label :: reportedStates moves := rfl

theorem exchanges_report (record : LogRecord) (moves : List (Move collaborators)) :
    exchanges (.report record :: moves) = exchanges moves := rfl

/-- The end of a compiled query is reported by a state of its own. -/
def Finishes (engine : Engine) (success : List (Exchange backend) → Prop) (moves : List (Move collaborators))
    (result : Except Fault Outcome) : Prop :=
  ∀ outcome, result = .ok outcome →
    reportedStates moves =
      [QueryState.validated, .generated, if outcome.ok then .executed else .failed].map QueryState.label ∧
    ToBackend (fun said => engine.Judged (success said) said outcome) (exchanges moves)

theorem finish_finishes (engine : Engine) (query : Query) (sql : String) (schema : Snapshot) :
    (engine.finish query sql schema).Ensures (engine.Finishes (engine.Succeeded sql query)) := by
  apply Ensures.tell_bind
  apply Ensures.tell_bind
  apply Ensures.bind (engine.perform_ends query sql)
  · rintro moves fault - _ ⟨⟩
  intro moves outcome ⟨silent, ends⟩
  obtain ⟨said, only, judged⟩ := ends outcome rfl
  split
  next ok =>
    rintro _ ⟨⟩
    -- Labels change the columns of an outcome and nothing else.
    obtain ⟨columns, renamed⟩ := engine.labelled_eq query schema outcome
    have kept : (engine.labelled query schema outcome).ok = true := by rw [renamed]; exact ok
    refine ⟨?_, said, ?_, renamed ▸ judged.renamed ok columns⟩
    · simp [reportedStates_stateLog, reportedStates_append, silent, kept]
      rfl
    · rw [exchanges_report, exchanges_report, exchanges_append, only]
      exact List.append_nil _
  next failed =>
    rintro _ ⟨⟩
    refine ⟨?_, said, ?_, judged⟩
    · simp [reportedStates_stateLog, reportedStates_append, silent, failed]
      rfl
    · rw [exchanges_report, exchanges_report, exchanges_append, only]
      exact List.append_nil _

/-- An outcome tells the truth about what was answered. Its errors are those of the compilation, or one error of the
execution. -/
structure Truthful (engine : Engine) (compiled : Option Compilation) (said : List (Exchange backend))
    (outcome : Outcome) : Prop where
  ok_iff : outcome.ok = true ↔
    ∃ query sql, compiled = some (.compiled query sql) ∧ engine.Succeeded sql.text query said
  bare : outcome.ok = false → outcome.columns = [] ∧ outcome.rows = []
  kinds : outcome.ok = false → outcome.errors.map (·.kind) = match compiled with
    | none | some (.compiled ..) => [.execution]
    | some compilation => compilation.diagnostics.map (·.kind)
  noted : outcome.ok = true → engine.Noted said outcome

theorem Truthful.of_schemaFault (message : String) : engine.Truthful none [] (.failure message none) where
  ok_iff := by simp [Outcome.ok, Outcome.failure]
  bare := fun _ => ⟨rfl, rfl⟩
  kinds := fun _ => rfl
  noted := by simp [Outcome.ok, Outcome.failure]

theorem Truthful.of_diagnostics {compilation : Compilation} (unfinished : compilation.sql? = none) :
    engine.Truthful (some compilation) [] (.ofDiagnostics compilation.diagnostics) := by
  have turned : (Outcome.ofDiagnostics compilation.diagnostics).ok = false := by
    cases compilation with
    | compiled query sql => cases unfinished
    | _ => rfl
  refine ⟨?_, fun _ => ⟨rfl, rfl⟩, ?_, ?_⟩
  · rw [turned]
    refine ⟨nofun, ?_⟩
    rintro ⟨query, sql, ⟨⟩, -⟩
    cases unfinished
  · intro _
    cases compilation with
    | compiled query sql => cases unfinished
    | _ => simp [Outcome.ofDiagnostics, OutcomeError.ofDiagnostic, Function.comp_def]
  · intro ok
    rw [turned] at ok
    cases ok

theorem Truthful.of_judged {query : Query} {sql : Sql} {outcome : Outcome}
    (judged : engine.Judged (engine.Succeeded sql.text query said) said outcome) :
    engine.Truthful (some (.compiled query sql)) said outcome where
  ok_iff := by
    rw [judged.ok_iff]
    constructor
    · intro succeeded
      exact ⟨query, sql, rfl, succeeded⟩
    · rintro ⟨_, _, ⟨⟩, succeeded⟩
      exact succeeded
  bare := fun failed => ⟨(judged.bare failed).1, (judged.bare failed).2.1⟩
  kinds := fun failed => (judged.bare failed).2.2
  noted := judged.noted

/-- The outcome and the states of a whole execution. -/
def Completes (engine : Engine) (source : QuerySource) (moves : List (Move collaborators))
    (result : Except Fault Outcome) : Prop :=
  ∀ outcome, result = .ok outcome → ∃ answer compiled said,
    exchanges moves = ⟨.schema, answer⟩ :: said.map ofBackend ∧ engine.Compiles source answer compiled ∧
    engine.Truthful compiled said outcome ∧
    reportedStates moves = (QueryState.course compiled outcome.ok).map QueryState.label

theorem execute_completes (engine : Engine) (source : QuerySource) :
    (engine.execute source).Ensures (engine.Completes source) := by
  apply Ensures.tell_bind
  apply Ensures.attempt_ask_bind
  intro answer
  cases answer with
  | error fault =>
    apply Ensures.tell_bind
    rintro _ ⟨⟩
    exact ⟨.error fault, none, [], rfl, .unknown fault, .of_schemaFault _, rfl⟩
  | ok schema =>
    apply Ensures.tell_bind
    apply Ensures.done_bind
    · rintro fault - _ ⟨⟩
    intro compilation compiles
    apply Ensures.tells_bind
    cases compilation with
    | unread reason =>
      apply Ensures.tell_bind
      rintro _ ⟨⟩
      exact ⟨.ok schema, some (.unread reason), [], rfl, .known compiles, .of_diagnostics rfl, rfl⟩
    | rejected error =>
      apply Ensures.tell_bind
      rintro _ ⟨⟩
      exact ⟨.ok schema, some (.rejected error), [], rfl, .known compiles, .of_diagnostics rfl, rfl⟩
    | invalid query first rest =>
      apply Ensures.tell_bind
      apply Ensures.tell_bind
      rintro _ ⟨⟩
      exact ⟨.ok schema, some (.invalid query first rest), [], rfl, .known compiles, .of_diagnostics rfl, rfl⟩
    | compiled query sql =>
      apply Ensures.tell_bind
      apply (engine.finish_finishes query sql.text schema).mono
      rintro moves result finishes outcome rfl
      obtain ⟨states, said, only, judged⟩ := finishes outcome rfl
      refine ⟨.ok schema, some (.compiled query sql), said, ?_, .known compiles, .of_judged judged, ?_⟩
      · exact congrArg (_ :: ·) only
      · exact congrArg ([QueryState.received, .lexing, .parsed].map QueryState.label ++ ·) states

/-- What an execution gives is told by the answers that it got. -/
theorem outcome_of_execute {σ : Type} (engine : Engine) (source : QuerySource) (handler : Handler collaborators σ)
    (state : σ) {outcome : Outcome} (returned : ((engine.execute source).run handler state).result = .ok outcome) :
    ∃ answer compiled said,
      exchanges ((engine.execute source).moves handler state) = ⟨.schema, answer⟩ :: said.map ofBackend ∧
      engine.Compiles source answer compiled ∧ engine.Truthful compiled said outcome ∧
      reportedStates ((engine.execute source).moves handler state) =
        (QueryState.course compiled outcome.ok).map QueryState.label ∧
      (QueryState.course compiled outcome.ok).IsChain QueryState.Next := by
  obtain ⟨answer, compiled, said, only, compiles, truthful, states⟩ :=
    (engine.execute_completes source).run handler state outcome returned
  exact ⟨answer, compiled, said, only, compiles, truthful, states, QueryState.course_chain compiled outcome.ok⟩

theorem outcome_of_execute_sample :
    let engine : Engine := { rowLimit := 1 }
    let source := QuerySource.text "SELECT FIELD('a') FROM 'f' WHERE FIELD('a') = 'x'"
    let row (id : String) : FetchedRow :=
      [("form_id", .text "f"), ("id", .text id), ("submission_data", .record [("a", .text "x")])]
    let store : MemoryStore := { submissions := [row "r1", row "r2"] }
    let handler := Engine.handler (fun store => ⟨.ok ⟨[.ofColumns "f" ["a"]]⟩, store, []⟩) MemoryStore.handler
    ∃ outcome, ((engine.execute source).run handler store).result = .ok outcome ∧ outcome.ok = true ∧
      ∃ answer compiled said,
        exchanges ((engine.execute source).moves handler store) = ⟨.schema, answer⟩ :: said.map ofBackend ∧
        engine.Compiles source answer compiled ∧ engine.Truthful compiled said outcome ∧
        reportedStates ((engine.execute source).moves handler store) =
          (QueryState.course compiled outcome.ok).map QueryState.label ∧
        (QueryState.course compiled outcome.ok).IsChain QueryState.Next := by
  intro engine source row store handler
  have shown : passes Outcome.ok ((engine.execute source).run handler store).result = true := by decide +kernel
  obtain ⟨outcome, returned, ok⟩ := ok_of_passes shown
  exact ⟨outcome, returned, ok, outcome_of_execute engine source handler store returned⟩

end Engine

end FormQuery
