import FormQuery.Proofs.OutcomeCases

/-! What an outcome with errors claims beside them. It has no notes and is not called an evaluation over fetched rows,
but for one case: an UPDATE whose submission was found, and was gone when it was written to, is said to be applied. -/

namespace FormQuery.Engine

open Program

/-- The submission of an UPDATE was found where SQL could not run, and no submission was changed when its new value was
written. -/
inductive Overtaken : Option Compilation → List (Exchange backend) → Prop
  | unchanged {change : Update} {sql : Sql} {reason : String} {row : FetchedRow} {patch : Fields} {changed : Int}
      (none : changed ≤ 0) :
      Overtaken (some (.compiled (.update change) sql))
        [⟨.runSql sql.text, .error (.unavailable reason)⟩,
          ⟨.fetchSubmission change.table.name change.rowId.text, .ok (some row)⟩,
          ⟨.merge change.table.name change.rowId.text patch, .ok changed⟩]

/-- What an outcome with errors claims, when it is known whether its submission was gone. -/
inductive Claims (overtaken : Prop) (outcome : Outcome) : Prop
  | nothing (kept : ¬overtaken) (notes : outcome.notes = []) (fallback : outcome.fallback = false)
  | applied (gone : overtaken) (errors : outcome.errors = [⟨.execution, notFound, none⟩])
      (notes : outcome.notes = [appliedNote]) (fallback : outcome.fallback = true)

theorem Overtaken.length {compiled : Option Compilation} {said : List (Exchange backend)}
    (overtaken : Overtaken compiled said) : said.length = 3 := by
  cases overtaken
  rfl

theorem Overtaken.not_unwritten {query : Query} {sql : Sql} {exchange : Exchange backend}
    {said : List (Exchange backend)} (overtaken : Overtaken (some (.compiled query sql)) (exchange :: said)) :
    ¬Unwritten said := by
  cases overtaken
  intro unwritten
  have last := unwritten _ (List.mem_cons_of_mem _ List.mem_cons_self)
  cases last

theorem failure_of_updateOutcome {changed : Int} {sql : String} (failed : (updateOutcome changed sql).ok = false) :
    changed ≤ 0 ∧ updateOutcome changed sql = .failure notFound (some sql) := by
  unfold updateOutcome at failed ⊢
  split at failed
  next none => exact ⟨none, if_pos none⟩
  next => cases failed

variable {engine : Engine} {query : Query} {sql : Sql} {said : List (Exchange backend)} {outcome : Outcome}

theorem EvaluationGives.claims {reason : String} (gives : engine.EvaluationGives sql.text query said outcome)
    (failed : outcome.ok = false) :
    Claims (Overtaken (some (.compiled query sql)) (⟨.runSql sql.text, .error (.unavailable reason)⟩ :: said))
      outcome := by
  cases gives with
  | sampled evaluated => cases failed
  | @written change row patch changed =>
    obtain ⟨none, shape⟩ := failure_of_updateOutcome failed
    rw [shape]
    exact .applied (.unchanged none) rfl rfl rfl
  | failed unwritten message => exact .nothing (fun overtaken => overtaken.not_unwritten unwritten) rfl rfl

theorem ExecutionGives.claims (gives : engine.ExecutionGives sql.text query said outcome)
    (failed : outcome.ok = false) : Claims (Overtaken (some (.compiled query sql)) said) outcome := by
  have early (exchange : Exchange backend) : ¬Overtaken (some (.compiled query sql)) [exchange] := by
    intro overtaken
    cases overtaken.length
  cases gives with
  | selected read =>
    rw [Outcome.ok, errors_ofRaw read] at failed
    cases failed
  | updated changed =>
    rw [(failure_of_updateOutcome failed).2]
    exact .nothing (early _) rfl rfl
  | refused message => exact .nothing (early _) rfl rfl
  | evaluated gives => exact gives.claims failed

/-- An outcome with errors has no notes and is not called an evaluation over fetched rows. Only an UPDATE whose
submission was gone when it was written to says that it was applied. -/
theorem failure_of_execute {σ : Type} (engine : Engine) (source : QuerySource) (handler : Handler collaborators σ)
    (state : σ) {outcome : Outcome} (returned : ((engine.execute source).run handler state).result = .ok outcome)
    (failed : outcome.ok = false) :
    ∃ answer compiled said,
      exchanges ((engine.execute source).moves handler state) = ⟨.schema, answer⟩ :: said.map ofBackend ∧
      engine.Compiles source answer compiled ∧ Claims (Overtaken compiled said) outcome := by
  obtain ⟨answer, compiled, said, only, gives⟩ := engine.cases_of_execute source handler state returned
  refine ⟨answer, compiled, said, only, gives.compiles, ?_⟩
  cases gives with
  | unknown fault message => exact .nothing nofun rfl rfl
  | diagnosed compiles unfinished => exact .nothing nofun rfl rfl
  | @executed schema query sql said given compiles gives =>
    cases ok : given.ok with
    | true =>
      -- Labels leave an outcome without errors as it is.
      obtain ⟨columns, renamed⟩ := engine.labelled_eq query schema given
      rw [if_pos ok, renamed] at failed
      exact absurd (ok.symm.trans failed) (by decide)
    | false => exact gives.claims ok

theorem failure_of_execute_missing :
    let engine : Engine := {}
    let source := QuerySource.text "UPDATE FORM 'f' SET FIELD('a') = 'x' WHERE submission_id = 'r'"
    let store : MemoryStore := { submissions := [] }
    let handler := Engine.handler (fun store => ⟨.ok ⟨[.ofColumns "f" ["a"]]⟩, store, []⟩) MemoryStore.handler
    ∃ outcome, ((engine.execute source).run handler store).result = .ok outcome ∧ outcome.ok = false ∧
      outcome.notes = [] ∧ outcome.fallback = false ∧ ∃ answer compiled said,
        exchanges ((engine.execute source).moves handler store) = ⟨.schema, answer⟩ :: said.map ofBackend ∧
        engine.Compiles source answer compiled ∧ Claims (Overtaken compiled said) outcome := by
  intro engine source store handler
  have shown : passes (fun outcome => !outcome.ok && outcome.notes.isEmpty && !outcome.fallback)
      ((engine.execute source).run handler store).result = true := by decide +kernel
  obtain ⟨outcome, returned, shown⟩ := ok_of_passes shown
  obtain ⟨⟨failed, notes⟩, fallback⟩ : (outcome.ok = false ∧ outcome.notes = []) ∧ outcome.fallback = false := by
    simpa using shown
  exact ⟨outcome, returned, failed, notes, fallback, failure_of_execute engine source handler store returned failed⟩

/-- The submission is found, and the write to it changes none: the outcome is an error and says that the update was
applied. -/
theorem failure_of_execute_applied :
    let source := QuerySource.text "UPDATE FORM 'f' SET FIELD('a') = 'x' WHERE submission_id = 'r'"
    let row : FetchedRow := [("form_id", .text "f"), ("id", .text "r"), ("submission_data", .record [("a", .text "y")])]
    let store : MemoryStore := { submissions := [row], mergeFails := true }
    let handler := Engine.handler (fun store => ⟨.ok ⟨[.ofColumns "f" ["a"]]⟩, store, []⟩) MemoryStore.handler
    ∃ outcome, ((({} : Engine).execute source).run handler store).result = .ok outcome ∧ outcome.ok = false ∧
      outcome.notes = [appliedNote] ∧ outcome.fallback = true := by
  intro source row store handler
  have shown : passes (fun outcome => !outcome.ok && outcome.notes = [appliedNote] && outcome.fallback)
      ((({} : Engine).execute source).run handler store).result = true := by decide +kernel
  obtain ⟨outcome, returned, shown⟩ := ok_of_passes shown
  obtain ⟨⟨failed, notes⟩, fallback⟩ :
      (outcome.ok = false ∧ outcome.notes = [appliedNote]) ∧ outcome.fallback = true := by simpa using shown
  exact ⟨outcome, returned, failed, notes, fallback⟩

end FormQuery.Engine
