import FormQuery.Engine
import FormQuery.Proofs.RunLogic
import FormQuery.Proofs.Runs
import FormQuery.Proofs.SqlText
import FormQuery.Storage.Access

/-! What an outcome of an UPDATE says about the stored rows. A success tells the number of rows that were committed. A
failure means that none was, as long as the connection knows how many rows its statements change: -1 stands for a number
that is not known. -/

namespace FormQuery

/-- Whether a statement changes rows, as one that sets a column does, and SQL that begins with the word for it. -/
def Statement.Updates : Statement → Prop
  | generated sql => "UPDATE ".toList <+: sql.toList
  | fetch _ => False
  | assign .. => True

/-- How a connection counts the rows that statements change. They are pending until they are committed, and a request
that fails changes none. Only where counts are vague may a statement keep its count to itself. -/
structure Transactional {σ : Type} (connected : Handler connection σ) (pending committed : σ → Nat)
    (vague : Prop) : Prop where
  fetched : ∀ selection state, let after := (connected (.execute (.fetch selection)) state).state
    pending after = pending state ∧ committed after = committed state
  refused : ∀ statement state fault, (connected (.execute statement) state).result = .error fault →
    let after := (connected (.execute statement) state).state
    pending after = pending state ∧ committed after = committed state
  updated : ∀ statement state result, statement.Updates → (connected (.execute statement) state).result = .ok result →
    let after := (connected (.execute statement) state).state
    result.columns = none ∧ ∃ changed : Nat, pending after = pending state + changed ∧
      committed after = committed state ∧ (result.rowCount = changed ∨ vague ∧ result.rowCount = -1)
  settled : ∀ state, (connected .commit state).result = .ok () →
    committed (connected .commit state).state = committed state + pending state
  unsettled : ∀ state fault, (connected .commit state).result = .error fault →
    committed (connected .commit state).state = committed state ∧ ∀ reason, fault ≠ .unavailable reason

/-- A connection that finds the same rows whatever is fetched, and changes the same number of them by any other
statement. -/
structure Tally where
  found : List (List Value)
  changing : Nat
  pending : Nat := 0
  committed : Nat := 0

namespace Tally

def handler (telling : Bool) : Handler connection Tally
  | .execute (.fetch selection), tally => { result := .ok ⟨some selection.columns, tally.found, -1⟩, state := tally }
  | .execute _, tally =>
    { result := .ok ⟨none, [], if telling then tally.changing else -1⟩
      state := { tally with pending := tally.pending + tally.changing } }
  | .commit, tally =>
    { result := .ok (), state := { tally with pending := 0, committed := tally.committed + tally.pending } }

end Tally

theorem Tally.transactional (telling : Bool) : Transactional (handler telling) pending committed (telling = false) where
  fetched := fun _ _ => ⟨rfl, rfl⟩
  refused := by
    intro statement tally fault failed
    cases statement <;> cases failed
  updated := by
    intro statement tally result updates ran
    have counted : (if telling then (tally.changing : Int) else -1) = tally.changing ∨
        telling = false ∧ (if telling then (tally.changing : Int) else -1) = -1 := by
      cases telling <;> simp
    cases statement with
    | fetch selection => cases updates
    | generated sql | assign table column value conditions =>
      cases ran
      exact ⟨rfl, tally.changing, rfl, rfl, counted⟩
  settled := fun _ _ => rfl
  unsettled := nofun

/-- A count that was told for the rows that were committed between two states. -/
def Told (vague : Prop) (before after : Nat) (count : Int) : Prop :=
  ∃ changed : Nat, after = before + changed ∧ (count = changed ∨ vague ∧ count = -1)

theorem Told.nothing (vague : Prop) (before : Nat) : Told vague before before 0 := ⟨0, rfl, .inl rfl⟩

namespace Access

open Program

variable {σ : Type} {connected : Handler connection σ} {pending committed : σ → Nat} {vague : Prop}

structure Waits (vague : Prop) (pending committed : σ → Nat) (before after : σ) (result : ResultSet) : Prop where
  columns : result.columns = none
  same : committed after = committed before
  counted : result.rowCount = pending after ∨ vague ∧ result.rowCount = -1

theorem execute_waits (kept : Transactional connected pending committed vague) {statement : Statement}
    (updates : statement.Updates) {state : σ} (fresh : pending state = 0) :
    (execute statement).Leads connected state fun result after =>
      match result with
      | .ok result => Waits vague pending committed state after result
      | .error _ => pending after = 0 ∧ committed after = committed state := by
  apply Leads.ask
  · intro fault failed
    obtain ⟨still, same⟩ := kept.refused statement state fault failed
    exact ⟨still.trans fresh, same⟩
  · intro result ran
    obtain ⟨columns, changed, waits, same, counted⟩ := kept.updated statement state result updates ran
    rw [fresh, Nat.zero_add] at waits
    exact ⟨columns, same, waits ▸ counted⟩

theorem Waits.commit (kept : Transactional connected pending committed vague) {state between : σ} {set : ResultSet}
    (waits : Waits vague pending committed state between set) :
    FormQuery.commit.Leads connected between fun result after =>
      match result with
      | .ok _ => Told vague (committed state) (committed after) set.rowCount
      | .error fault => committed after = committed state ∧ ∀ reason, fault ≠ .unavailable reason := by
  apply Leads.ask
  · intro fault failed
    obtain ⟨none, other⟩ := kept.unsettled between fault failed
    exact ⟨none.trans waits.same, other⟩
  · intro _ done
    refine ⟨pending between, ?_, waits.counted⟩
    rw [← waits.same]
    exact kept.settled between done

def Ran (vague : Prop) (pending committed : σ → Nat) (before : σ) (result : Except Fault RawTable) (after : σ) : Prop :=
  match result with
  | .ok table => ∃ count, table.changedRows = .ok count ∧ Told vague (committed before) (committed after) count
  | .error fault => committed after = committed before ∧ ∀ reason, fault = .unavailable reason → pending after = 0

theorem runSql_ran (access : Access) (kept : Transactional connected pending committed vague) {sql : String}
    (updates : (Statement.generated sql).Updates) {state : σ} (fresh : pending state = 0) :
    (access.runSql sql).Leads connected state (Ran vague pending committed state) := by
  unfold runSql
  split
  · exact ⟨rfl, fun _ _ => fresh⟩
  apply (execute_waits kept updates fresh).bind
  · intro fault after ⟨still, same⟩
    exact ⟨same, fun _ _ => still⟩
  intro result between waits
  rw [waits.columns]
  apply (waits.commit kept).bind
  · intro fault after ⟨same, other⟩
    exact ⟨same, fun reason unavailable => absurd unavailable (other reason)⟩
  · intro _ after told
    exact ⟨result.rowCount, rfl, told⟩

def Still (pending committed : σ → Nat) (before after : σ) : Prop :=
  pending after = pending before ∧ committed after = committed before

theorem submission_still (access : Access) (kept : Transactional connected pending committed vague)
    (form rowId : Value) (state : σ) :
    (access.submission form rowId).Leads connected state fun _ after => Still pending committed state after := by
  apply Leads.done_bind
  · intro fault failed
    exact ⟨rfl, rfl⟩
  intro conditions known
  have still := kept.fetched ⟨access.layout.recordColumns, access.layout.table, conditions, none⟩ state
  apply Leads.ask_bind
  · intro fault failed
    exact still
  intro result ran
  split
  · exact still
  next row rest =>
    apply Leads.done_bind
    · intro fault failed
      exact still
    · intro fetched decoded
      exact still

def Merged (vague : Prop) (committed : σ → Nat) (before : Nat) (result : Except Fault Int) (after : σ) : Prop :=
  match result with
  | .ok count => Told vague before (committed after) count
  | .error _ => committed after = before

theorem merge_merged (access : Access) (kept : Transactional connected pending committed vague) (form rowId : Value)
    (patch : Fields) {state : σ} (fresh : pending state = 0) :
    (access.merge form rowId patch).Leads connected state (Merged vague committed (committed state)) := by
  apply (access.submission_still kept form rowId state).bind
  · intro fault after ⟨_, same⟩
    exact same
  intro found between ⟨still, same⟩
  rw [← same]
  cases found with
  | none => exact Told.nothing vague (committed between)
  | some row =>
    apply Leads.done_bind
    · intro fault failed
      rfl
    intro merged written
    apply Leads.done_bind
    · intro fault failed
      rfl
    intro conditions known
    have updates : (Statement.assign access.layout.table access.layout.documentColumn (.text merged) conditions).Updates :=
      trivial
    apply (execute_waits kept updates (still.trans fresh)).bind
    · intro fault after ⟨_, unchanged⟩
      exact unchanged
    intro result last waits
    apply (waits.commit kept).bind
    · intro fault after ⟨unchanged, _⟩
      exact unchanged
    · intro _ after told
      exact told

end Access

theorem Sql.updates_of_update {layout : Layout} {change : Update} {sql : Sql}
    (written : Sql.ofQuery layout (.update change) = .ok sql) : (Statement.generated sql.text).Updates := by
  obtain ⟨assigned, known, written⟩ := ok_of_bind written
  obtain ⟨row, found, written⟩ := ok_of_bind written
  cases written
  -- The first piece of the SQL is the word itself.
  simp only [Statement.Updates, toList_text]
  exact List.prefix_append _ _

def QuerySource.selects (source : QuerySource) : Bool :=
  match source.read with
  | .accepted (.select _) => true
  | _ => false

theorem QuerySource.update_of_compiled {source : QuerySource} (selectsNone : source.selects = false)
    {schema : Snapshot} {layout : Layout} {query : Query} {sql : Sql}
    (compiles : source.compile schema layout = .ok (.compiled query sql)) :
    (∃ change, query = .update change) ∧ (Statement.generated sql.text).Updates := by
  unfold compile at compiles
  split at compiles
  · cases compiles
  · cases compiles
  next read reads =>
    unfold Compilation.ofQuery at compiles
    split at compiles
    · cases compiles
    · cases written : Sql.ofQuery layout read with
      | error fault => simp [written, Except.map] at compiles
      | ok own =>
        obtain ⟨rfl, rfl⟩ : read = query ∧ own = sql := by simpa [written, Except.map] using compiles
        cases read with
        | select wanted => simp [selects, reads] at selectsNone
        | update change => exact ⟨⟨change, rfl⟩, Sql.updates_of_update written⟩

namespace Engine

open Program

/-- What an outcome says about the rows that were committed between two states. -/
structure Accounts (vague : Prop) (before after : Nat) (outcome : Outcome) : Prop where
  success : outcome.ok = true →
    ∃ changed : Nat, 0 < changed ∧ after = before + changed ∧ outcome.rows = [[.text updatedMessage, .int changed]]
  failure : outcome.ok = false → ¬vague → after = before

variable {vague : Prop} {before after : Nat}

theorem Accounts.unchanged {outcome : Outcome} (failed : outcome.ok = false) (same : after = before) :
    Accounts vague before after outcome :=
  ⟨by simp [failed], fun _ _ => same⟩

theorem accounts_updateOutcome {count : Int} (sql : String) (told : Told vague before after count) :
    Accounts vague before after (updateOutcome count sql) := by
  obtain ⟨changed, total, counted⟩ := told
  unfold updateOutcome
  split
  next none =>
    -- No count that is right is negative, so an unknown one is all that can be mistaken for no row.
    refine ⟨by simp [Outcome.ok, Outcome.failure], fun _ exact => ?_⟩
    obtain same | ⟨unknown, -⟩ := counted
    · omega
    · exact absurd unknown exact
  next some =>
    obtain same | ⟨-, unknown⟩ := counted
    · subst same
      exact ⟨fun _ => ⟨changed, by omega, total, rfl⟩, by simp [Outcome.ok]⟩
    · omega

theorem Accounts.applied {outcome : Outcome} (accounts : Accounts vague before after outcome) (notes : List String) :
    Accounts vague before after { outcome with fallback := true, notes := notes } :=
  ⟨accounts.success, accounts.failure⟩

variable {σ : Type} {schema : σ → Handled σ Snapshot} {connected : Handler connection σ} {pending committed : σ → Nat}

/-- An outcome accounts for the rows that were committed, and where there is none, no row was. -/
def Accounted (vague : Prop) (committed : σ → Nat) (before : Nat) (result : Except Fault Outcome) (after : σ) : Prop :=
  match result with
  | .ok outcome => Accounts vague before (committed after) outcome
  | .error _ => committed after = before

theorem call_leads {access : Access} {request : BackendCall} {state : σ} {post : Except Fault request.Answer → σ → Prop}
    (leads : (access.answer request).Leads connected state post) :
    (call request).Leads (handler schema (access.handler connected)) state post := leads

theorem updateOverRow_accounted (engine : Engine) (access : Access)
    (kept : Transactional connected pending committed vague) (change : Update) (sql : String) {state : σ}
    (fresh : pending state = 0) :
    (engine.updateOverRow change sql).Leads (handler schema (access.handler connected)) state
      (Accounted vague committed (committed state)) := by
  apply (call_leads (access.submission_still kept (.text change.table.name) (.text change.rowId.text) state)).bind
  · intro fault after ⟨_, same⟩
    exact same
  intro found between ⟨still, same⟩
  cases found with
  | none => exact Accounts.unchanged rfl same
  | some row =>
    apply Leads.done_bind
    · intro fault failed
      exact same
    intro patch evaluated
    rw [← same]
    apply (call_leads (access.merge_merged kept (.text change.table.name) (.text change.rowId.text) patch
      (still.trans fresh))).bind
    · intro fault after unchanged
      exact unchanged
    · intro count after told
      exact (accounts_updateOutcome sql told).applied _

theorem overRows_accounted (engine : Engine) (access : Access) (kept : Transactional connected pending committed vague)
    (change : Update) (sql : String) {state : σ} (fresh : pending state = 0) :
    (engine.overRows (.update change) sql).Leads (handler schema (access.handler connected)) state
      (Accounted vague committed (committed state)) := by
  apply (engine.updateOverRow_accounted access kept change sql fresh).attempt_bind
  intro result after accounted
  cases result with
  | ok outcome => exact accounted
  | error fault => exact Accounts.unchanged rfl accounted

theorem perform_accounted (engine : Engine) (access : Access) (kept : Transactional connected pending committed vague)
    (change : Update) {sql : String} (updates : (Statement.generated sql).Updates) {state : σ}
    (fresh : pending state = 0) :
    (engine.perform (.update change) sql).Leads (handler schema (access.handler connected)) state
      (Accounted vague committed (committed state)) := by
  apply (call_leads (access.runSql_ran kept updates fresh)).attempt_bind
  intro result after ran
  split
  next table =>
    obtain ⟨count, counted, told⟩ := ran
    have read : databaseOutcome (.update change) table sql = .ok (updateOutcome count sql) := bind_ok counted _
    rw [read]
    exact accounts_updateOutcome sql told
  next reason =>
    obtain ⟨same, waits⟩ := ran
    split
    · -- SQL that is refused has changed nothing, so the other way of execution starts afresh.
      apply Leads.tell_bind
      rw [← same]
      exact engine.overRows_accounted access kept change sql (waits reason rfl)
    · exact Accounts.unchanged rfl same
  next fault other => exact Accounts.unchanged rfl ran.1

theorem finish_accounted (engine : Engine) (access : Access) (kept : Transactional connected pending committed vague)
    (change : Update) {sql : String} (updates : (Statement.generated sql).Updates) (known : Snapshot) {state : σ}
    (fresh : pending state = 0) :
    (engine.finish (.update change) sql known).Leads (handler schema (access.handler connected)) state
      (Accounted vague committed (committed state)) := by
  apply Leads.tell_bind
  apply Leads.tell_bind
  apply (engine.perform_accounted access kept change updates fresh).bind
  · intro fault after accounted
    exact accounted
  intro outcome after accounted
  split
  · have same : engine.labelled (.update change) known outcome = outcome := by
      unfold labelled
      split
      next impossible _ => cases impossible
      next => rfl
    rw [same]
    exact accounted
  · exact accounted

/-- What an execution that selects nothing says about the rows that it committed. -/
theorem execute_accounts (engine : Engine) {source : QuerySource} (selectsNone : source.selects = false) (access : Access)
    (kept : Transactional connected pending committed vague)
    (still : ∀ state, Access.Still pending committed state (schema state).state) {state : σ} (fresh : pending state = 0) :
    (engine.execute source).Leads (handler schema (access.handler connected)) state
      (Accounted vague committed (committed state)) := by
  apply Leads.tell_bind
  have asked : (ask collaborators .schema).Leads (handler schema (access.handler connected)) state
      fun _ after => Access.Still pending committed state after := still state
  apply asked.attempt_bind
  intro answer after ⟨quiet, same⟩
  cases answer with
  | error fault =>
    apply Leads.tell_bind
    exact Accounts.unchanged rfl same
  | ok known =>
    apply Leads.tell_bind
    apply Leads.done_bind
    · intro fault failed
      exact same
    intro compilation compiles
    apply Leads.tells_bind
    cases compilation with
    | unread reason =>
      apply Leads.tell_bind
      exact Accounts.unchanged rfl same
    | rejected error =>
      apply Leads.tell_bind
      exact Accounts.unchanged rfl same
    | invalid query first rest =>
      apply Leads.tell_bind
      apply Leads.tell_bind
      exact Accounts.unchanged rfl same
    | compiled query sql =>
      apply Leads.tell_bind
      obtain ⟨⟨change, rfl⟩, updates⟩ := source.update_of_compiled selectsNone compiles
      rw [← same]
      exact engine.finish_accounted access kept change updates known (quiet.trans fresh)

theorem execute_accounts_told :
    let change : Update := ⟨⟨"f", 0⟩, ⟨"a", 0, false⟩, .literal ⟨.text "x", 0, none⟩, ⟨.text "r", 0, none⟩⟩
    let source := QuerySource.built (.update change)
    let schema (tally : Tally) : Handled Tally Snapshot := ⟨.ok ⟨[.ofColumns "f" ["a"]]⟩, tally, []⟩
    let tally : Tally := { found := [], changing := 2 }
    let handler := handler schema (({} : Access).handler (Tally.handler true))
    source.selects = false ∧ Transactional (Tally.handler true) Tally.pending Tally.committed (true = false) ∧
      (∀ state, Access.Still Tally.pending Tally.committed state (schema state).state) ∧ tally.pending = 0 ∧
      (∃ outcome, ((({} : Engine).execute source).run handler tally).result = .ok outcome ∧ outcome.ok = true) ∧
      (({} : Engine).execute source).Leads handler tally (Accounted (true = false) Tally.committed tally.committed) := by
  intro change source schema tally handler
  have selectsNone : source.selects = false := rfl
  have kept := Tally.transactional true
  have still (state : Tally) : Access.Still Tally.pending Tally.committed state (schema state).state := ⟨rfl, rfl⟩
  have shown : passes Outcome.ok ((({} : Engine).execute source).run handler tally).result = true := by decide +kernel
  exact ⟨selectsNone, kept, still, rfl, ok_of_passes shown, execute_accounts {} selectsNone {} kept still rfl⟩

/-- On both ways of execution, a row is committed although a failure is told, when the connection does not know how many
rows it changes. -/
theorem execute_accounts_untold :
    let source := QuerySource.text "UPDATE FORM 'f' SET FIELD('a') = 'x' WHERE submission_id = 'r'"
    let schema (tally : Tally) : Handled Tally Snapshot := ⟨.ok ⟨[.ofColumns "f" ["a"]]⟩, tally, []⟩
    let tally : Tally := { found := [[.text "f", .text "r", .null, .null, .null]], changing := 1 }
    let run (runsSql : Bool) :=
      (({} : Engine).execute source).run (handler schema (({ runsSql } : Access).handler (Tally.handler false))) tally
    source.selects = false ∧ Transactional (Tally.handler false) Tally.pending Tally.committed True ∧
      (∀ state, Access.Still Tally.pending Tally.committed state (schema state).state) ∧ tally.pending = 0 ∧
      ∀ runsSql, (∃ outcome, (run runsSql).result = .ok outcome ∧ outcome.ok = false) ∧
        (run runsSql).state.committed = tally.committed + 1 := by
  intro source schema tally run
  have selectsNone : source.selects = false := by decide +kernel
  have kept : Transactional (Tally.handler false) Tally.pending Tally.committed True := by
    simpa using Tally.transactional false
  have shown : ∀ runsSql, passes (!·.ok) (run runsSql).result = true ∧
      (run runsSql).state.committed = tally.committed + 1 := by decide +kernel
  refine ⟨selectsNone, kept, fun state => ⟨rfl, rfl⟩, rfl, fun runsSql => ?_⟩
  obtain ⟨failed, changed⟩ := shown runsSql
  obtain ⟨outcome, ended, failed⟩ := ok_of_passes failed
  exact ⟨⟨outcome, ended, by simpa using failed⟩, changed⟩

end Engine

end FormQuery
