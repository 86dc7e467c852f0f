import FormQuery.Proofs.GeneratedSql
import FormQuery.Proofs.PlainNames
import FormQuery.Proofs.ProgramLogic
import FormQuery.Storage.Access

/-! Names that settings give to the table and its columns. They are written bare, so the names in a statement are
compared with those of its layout: a statement of the generator for any query at all, and every statement of the access
to rows. -/

namespace FormQuery

namespace Checked

variable {α β : Type} {change : Checked (α → β)} {given : Checked α}

theorem seq_eq_good {result : β} :
    change <*> given = good result ↔ ∃ view value, change = good view ∧ given = good value ∧ view value = result := by
  cases change <;> cases given <;> simp [Seq.seq, pair, Checked.map]

theorem map_eq_good {view : α → β} {result : β} :
    view <$> given = good result ↔ ∃ value, given = good value ∧ view value = result := by
  cases given <;> simp [Functor.map, Checked.map]

@[simp] theorem problems_seq : (change <*> given).problems = change.problems ++ given.problems := by
  cases change <;> cases given <;> simp [Seq.seq, pair, Checked.map, problems]

@[simp] theorem problems_map (view : α → β) : (view <$> given).problems = given.problems := by
  cases given <;> rfl

theorem eq_bad_of_mem {problem : Problem} (member : problem ∈ given.problems) :
    ∃ problems, given = bad problems ∧ problem ∈ problems := by
  cases given with
  | good value => cases member
  | bad problems => exact ⟨problems, rfl, member⟩

end Checked

namespace Settings

/-- What a setting gives: a text that is accepted or, where the setting is missing, the standard name. -/
def Gives (fields : Fields) (setting standard name : String) : Prop :=
  match Fields.get? fields setting with
  | none => name = standard
  | some value => Conversion.text value = .good name ∧ IsAccepted name.toList

theorem checkIdentifier_eq_good {value : Value} {name : String} :
    checkIdentifier value = .good name ↔ Conversion.text value = .good name ∧ IsAccepted name.toList := by
  unfold checkIdentifier
  cases shown : Conversion.text value with
  | bad problems => simp [Checked.andThen]
  | good text =>
    rw [← isIdentifier_iff, Checked.andThen, Checked.good.injEq]
    split
    next named =>
      rw [Checked.good.injEq]
      constructor
      · rintro rfl
        exact ⟨rfl, named⟩
      · exact And.left
    next unnamed =>
      constructor
      · exact nofun
      · rintro ⟨rfl, named⟩
        exact absurd named unnamed

theorem field_eq_good {fields : Fields} {setting standard name : String} :
    Checked.field fields setting checkIdentifier (some standard) = .good name ↔ Gives fields setting standard name := by
  unfold Checked.field Gives
  cases Fields.get? fields setting with
  | none => simp [eq_comm]
  | some value =>
    simp only [← checkIdentifier_eq_good]
    cases checkIdentifier value <;> simp [Checked.under]

/-- Any other text is refused, at its setting and in words that show it. -/
theorem mem_problems_field {fields : Fields} {setting standard text : String} {value : Value}
    (given : Fields.get? fields setting = some value) (shown : Conversion.text value = .good text)
    (other : ¬ IsAccepted text.toList) :
    ⟨[.field setting], .refused s!"{Text.quoted text} is not a plain SQL identifier"⟩ ∈
      (Checked.field fields setting checkIdentifier (some standard)).problems := by
  have unnamed : isIdentifier text.toList = false := by rwa [← Bool.not_eq_true, isIdentifier_iff]
  simp [Checked.field, given, checkIdentifier, shown, Checked.andThen, unnamed, Checked.fail, Checked.under,
    Checked.problems, Problem.under]

/-- The settings of storage with their standard names. -/
def Storage.standards : List (String × String) :=
  [("table", "form_submissions"), ("document_column", "submission_data"), ("partition_column", "form_id"),
    ("row_id_column", "id"), ("created_at_column", "created_at")]

/-- Every name of storage is given by the setting of its own. -/
structure Storage.IsGiven (storage : Storage) (fields : Fields) : Prop where
  table : Gives fields "table" "form_submissions" storage.table
  documentColumn : Gives fields "document_column" "submission_data" storage.documentColumn
  partitionColumn : Gives fields "partition_column" "form_id" storage.partitionColumn
  rowIdColumn : Gives fields "row_id_column" "id" storage.rowIdColumn
  createdAtColumn : Gives fields "created_at_column" "created_at" storage.createdAtColumn

theorem Storage.check_eq_good {fields : Fields} {storage : Storage} :
    Storage.check (.record fields) = .good storage ↔ storage.IsGiven fields := by
  simp only [Storage.check, Conversion.record, Checked.seq_eq_good, Checked.map_eq_good, field_eq_good]
  constructor
  · intro checked
    obtain ⟨_, _, ⟨_, _, ⟨_, _, ⟨_, _, ⟨_, one, rfl⟩, two, rfl⟩, three, rfl⟩, four, rfl⟩, five, rfl⟩ := checked
    exact ⟨one, two, three, four, five⟩
  · intro given
    exact ⟨_, _, ⟨_, _, ⟨_, _, ⟨_, _, ⟨_, given.table, rfl⟩, given.documentColumn, rfl⟩, given.partitionColumn, rfl⟩,
      given.rowIdColumn, rfl⟩, given.createdAtColumn, rfl⟩

theorem Storage.problems_check (fields : Fields) : (Storage.check (.record fields)).problems =
    Storage.standards.flatMap fun (setting, standard) =>
      (Checked.field fields setting checkIdentifier (some standard)).problems := by
  simp [Storage.check, Conversion.record, Storage.standards]

theorem Gives.accepted {fields : Fields} {setting standard name : String} (gives : Gives fields setting standard name)
    (own : isIdentifier standard.toList = true) : IsAccepted name.toList := by
  unfold Gives at gives
  split at gives
  · rw [gives]
    exact isIdentifier_iff.mp own
  · exact gives.2

/-- The names of the layout are those of the settings, and one that no setting changes. -/
theorem Storage.names_layout (storage : Storage) : storage.layout.names =
    [storage.table, storage.documentColumn, storage.partitionColumn, storage.rowIdColumn, "submitted_by",
      storage.createdAtColumn] := by
  simp [Storage.layout, Layout.names, Fields.set, pseudoColumns]

theorem Storage.IsGiven.accepted {fields : Fields} {storage : Storage} (given : storage.IsGiven fields) :
    ∀ name ∈ storage.layout.names, IsAccepted name.toList := by
  have fixed : IsAccepted "submitted_by".toList := isIdentifier_iff.mp (by decide)
  rw [Storage.names_layout]
  simp only [List.forall_mem_cons]
  exact ⟨given.table.accepted (by decide), given.documentColumn.accepted (by decide),
    given.partitionColumn.accepted (by decide), given.rowIdColumn.accepted (by decide), fixed,
    given.createdAtColumn.accepted (by decide), nofun⟩

end Settings

/-- Whatever stands bare in some SQL as a name is a name of the layout. -/
def Layout.Names (layout : Layout) (sql : Sql) : Prop := ∀ name, Sql.Piece.name name ∈ sql → name ∈ layout.names

namespace Sql

open Piece

variable {layout : Layout} {sql first second : Sql}

@[simp] theorem names_nil : layout.Names [] := nofun

@[simp] theorem names_cons_name {text : String} :
    layout.Names (name text :: sql) ↔ text ∈ layout.names ∧ layout.Names sql := by
  simp [Layout.Names]

@[simp] theorem names_cons_code {text : String} : layout.Names (code text :: sql) ↔ layout.Names sql := by
  simp [Layout.Names]

@[simp] theorem names_cons_number {text : String} : layout.Names (number text :: sql) ↔ layout.Names sql := by
  simp [Layout.Names]

@[simp] theorem names_cons_literal {content : String} : layout.Names (literal content :: sql) ↔ layout.Names sql := by
  simp [Layout.Names]

@[simp] theorem names_cons_label {content : String} : layout.Names (label content :: sql) ↔ layout.Names sql := by
  simp [Layout.Names]

@[simp] theorem names_append : layout.Names (first ++ second) ↔ layout.Names first ∧ layout.Names second := by
  simp [Layout.Names, or_imp, forall_and]

theorem names_separated {separator : String} {parts : List Sql} (each : ∀ part ∈ parts, layout.Names part) :
    layout.Names (separated separator parts) := by
  induction parts with
  | nil => simp [separated]
  | cons part rest ih =>
    obtain ⟨own, others⟩ := List.forall_mem_cons.mp each
    cases rest with
    | nil => exact own
    | cons next rest => simpa [separated] using ⟨own, ih others⟩

@[simp] theorem table_mem_names : layout.table ∈ layout.names := by simp [Layout.names]

@[simp] theorem documentColumn_mem_names : layout.documentColumn ∈ layout.names := by simp [Layout.names]

@[simp] theorem partitionColumn_mem_names : layout.partitionColumn ∈ layout.names := by simp [Layout.names]

theorem names_column {ref : ColumnRef} (ran : column ref layout = .ok sql) : layout.Names sql := by
  unfold column at ran
  split at ran
  · obtain ⟨physical, found, ran⟩ := ok_of_bind ran
    cases ran
    simpa using Layout.physical_mem_names found
  · cases ran
    simp [extraction]

theorem names_guardedCast (names : layout.Names sql) : layout.Names (guardedCast sql) := by
  simpa [guardedCast] using names

theorem names_ofLiteral (value : Literal) : layout.Names (ofLiteral value) := by
  unfold ofLiteral
  split <;> simp

theorem names_partition (table : String) : layout.Names (partition table layout) := by simp [partition]

theorem names_condition {wanted : Condition} (ran : condition layout wanted = .ok sql) : layout.Names sql := by
  obtain ⟨operand, found, ran⟩ := ok_of_bind ran
  cases ran
  have operand := names_column found
  simp only [names_append, names_cons_code]
  refine ⟨?_, names_ofLiteral wanted.value⟩
  split
  · exact names_guardedCast operand
  · exact operand

theorem names_chain {rest : List (Connector × Condition)} (names : layout.Names first)
    (ran : chain layout first rest = .ok sql) : layout.Names sql := by
  induction rest generalizing first with
  | nil =>
    cases ran
    exact names
  | cons link rest ih =>
    obtain ⟨next, found, ran⟩ := ok_of_bind ran
    apply ih _ ran
    simpa using ⟨names, names_condition found⟩

theorem names_filter {wanted : Filter} {conditions : List Sql} (ran : filter layout wanted = .ok conditions) :
    ∀ sql ∈ conditions, layout.Names sql := by
  cases wanted with
  | all =>
    cases ran
    exact nofun
  | empty => cases ran
  | chain start rest =>
    obtain ⟨begun, found, ran⟩ := ok_of_bind ran
    obtain ⟨whole, chained, ran⟩ := ok_of_bind ran
    cases ran
    simpa using names_chain (names_condition found) chained

theorem names_aggregate {call : AggregateCall} (ran : aggregate call layout = .ok sql) : layout.Names sql := by
  unfold aggregate at ran
  split at ran
  next =>
    cases ran
    simp
  next ref shown =>
    obtain ⟨plain, found, ran⟩ := ok_of_bind ran
    have argument : layout.Names (if castsArgument call.function && !ref.pseudo then guardedCast plain else plain) := by
      split
      · exact names_guardedCast (names_column found)
      · exact names_column found
    simp only at ran
    split at ran
    all_goals
      cases ran
      simpa using argument

theorem names_selectItem {item : SelectItem} (ran : selectItem layout item = .ok sql) : layout.Names sql := by
  unfold selectItem at ran
  split at ran
  next call shown =>
    obtain ⟨summary, found, ran⟩ := ok_of_bind ran
    cases ran
    simpa using names_aggregate found
  next ref shown =>
    obtain ⟨plain, found, ran⟩ := ok_of_bind ran
    split at ran
    all_goals
      cases ran
      simpa using names_column found

theorem names_starColumns : ∀ sql ∈ starColumns layout, layout.Names sql := by
  intro sql member
  obtain system | document := List.mem_append.mp member
  · obtain ⟨⟨pseudo, physical⟩, inside, rfl⟩ := List.mem_map.mp system
    have known : physical ∈ layout.names := by
      have column := List.mem_map_of_mem (f := Prod.snd) inside
      simp [Layout.names, column]
    simp only
    split <;> simpa using known
  · obtain rfl := List.mem_singleton.mp document
    simp

theorem names_select {wanted : Select} (ran : select layout wanted = .ok sql) : layout.Names sql := by
  obtain ⟨columns, conditions, keys, listed, filtered, grouped, rfl⟩ := select_eq_ok.mp ran
  have columns : layout.Names (separated ", " columns) := by
    apply names_separated
    unfold resultColumns at listed
    split at listed
    · cases listed
      exact names_starColumns
    · intro sql member
      obtain ⟨item, _, found⟩ := mem_of_mapM listed member
      exact names_selectItem found
  have wheres : layout.Names (separated " AND " (partition wanted.table.name layout :: conditions)) := by
    apply names_separated
    exact List.forall_mem_cons.mpr ⟨names_partition _, names_filter filtered⟩
  have keys : layout.Names (grouping wanted keys) := by
    unfold groupKeys at grouped
    unfold grouping
    split at grouped
    next several =>
      rw [if_pos several, names_cons_code]
      apply names_separated
      intro sql member
      obtain ⟨ref, _, found⟩ := mem_of_mapM grouped member
      exact names_column found
    next single =>
      rw [if_neg single]
      exact names_nil
  simpa [statement] using ⟨columns, wheres, keys⟩

theorem names_call {function : StringFunction} {arguments : List Sql}
    (each : ∀ argument ∈ arguments, layout.Names argument) (ran : call function arguments = .ok sql) :
    layout.Names sql := by
  unfold call at ran
  split at ran
  · cases ran
    simpa using each
  · cases ran
    simp only [List.forall_mem_cons] at each
    simpa using ⟨each.1, each.2.1⟩
  · cases ran
  · cases ran
    simpa using names_separated each

mutual
theorem names_value {expr : ValueExpr} {sql : Sql} (ran : value layout expr = .ok sql) : layout.Names sql := by
  cases expr with
  | literal constant =>
    cases ran
    exact names_ofLiteral constant
  | field ref =>
    obtain ⟨plain, found, ran⟩ := ok_of_bind ran
    cases ran
    simpa using names_column found
  | call callee arguments position =>
    rw [value] at ran
    split at ran
    · obtain ⟨shown, found, ran⟩ := ok_of_bind ran
      exact names_call (names_values found) ran
    · cases ran
  | foreign kind => cases ran

theorem names_values {arguments : List ValueExpr} {shown : List Sql} (ran : values layout arguments = .ok shown) :
    ∀ sql ∈ shown, layout.Names sql := by
  cases arguments with
  | nil =>
    cases ran
    exact nofun
  | cons argument rest =>
    obtain ⟨first, found, ran⟩ := ok_of_bind ran
    obtain ⟨others, known, ran⟩ := ok_of_bind ran
    cases ran
    exact List.forall_mem_cons.mpr ⟨names_value found, names_values known⟩
end

theorem names_update {change : Update} (ran : update layout change = .ok sql) : layout.Names sql := by
  obtain ⟨assigned, found, ran⟩ := ok_of_bind ran
  obtain ⟨row, known, ran⟩ := ok_of_bind ran
  cases ran
  have assigned : layout.Names assigned := by
    unfold newValue at found
    split at found
    · cases found
      simp
    · obtain ⟨shown, computed, found⟩ := ok_of_bind found
      cases found
      simpa using names_value computed
  simpa [partition] using ⟨assigned, Layout.physical_mem_names known⟩

theorem names_ofQuery {query : Query} (ran : ofQuery layout query = .ok sql) : layout.Names sql := by
  cases query with
  | select wanted => exact names_select ran
  | update change => exact names_update ran

end Sql

/-- A program asks for what is allowed, whatever it is answered. -/
def Program.Asks {service : Service} {α : Type} (allowed : service.Request → Prop) (program : Program service α) : Prop :=
  program.Says fun exchanges => ∀ made ∈ exchanges, allowed made.request

namespace Program.Asks

variable {service : Service} {α β : Type} {allowed : service.Request → Prop}

theorem done (result : Except Fault α) : Asks allowed (.done result : Program service α) := nofun

theorem ask {asked : service.Request} (known : allowed asked) : Asks allowed (ask service asked) := by
  intro answer made member
  obtain rfl := List.mem_singleton.mp member
  exact known

theorem bind {program : Program service α} {next : α → Program service β} (first : program.Asks allowed)
    (rest : ∀ value, (next value).Asks allowed) : (program >>= next).Asks allowed := by
  apply Ensures.bind first
  · intro moves fault known
    exact known
  · intro moves value known
    apply Ensures.mono (rest value)
    intro more result later
    rw [exchanges_append]
    exact List.forall_mem_append.mpr ⟨known, later⟩

theorem run {program : Program service α} (asks : program.Asks allowed) {σ : Type} (handler : Handler service σ)
    (state : σ) : ∀ request ∈ (program.run handler state).requests, allowed request := by
  rw [requests_run]
  simp only [List.forall_mem_map]
  exact Ensures.run asks handler state

end Program.Asks

namespace Access

/-- A request whose statement names what its layout names, however bound values are marked. -/
def Keeps (layout : Layout) : ConnectionRequest → Prop
  | .execute statement => ∀ placeholder, layout.Names (statement.sql placeholder)
  | .commit => True

variable {access : Access}

theorem recordColumns_mem_names {column : String} (member : column ∈ access.layout.recordColumns) :
    column ∈ access.layout.names := by
  let add (columns : List String) (pair : String × String) : List String :=
    if pair.2 ∈ columns then columns else columns ++ [pair.2]
  have step (pairs : List (String × String)) (columns : List String)
      (own : ∀ column ∈ columns, column ∈ access.layout.names) (known : ∀ pair ∈ pairs, pair.2 ∈ access.layout.names) :
      ∀ column ∈ pairs.foldl add columns, column ∈ access.layout.names := by
    induction pairs generalizing columns with
    | nil => exact own
    | cons pair pairs ih =>
      obtain ⟨first, others⟩ := List.forall_mem_cons.mp known
      apply ih _ _ others
      unfold add
      split
      · exact own
      · simpa [or_imp, forall_and] using ⟨own, first⟩
  obtain system | document := List.mem_append.mp member
  · refine step access.layout.pseudoColumns [access.layout.partitionColumn] (by simp) ?_ column system
    intro pair inside
    have physical := List.mem_map_of_mem (f := Prod.snd) inside
    simp [Layout.names, physical]
  · simp [List.mem_singleton.mp document]

theorem names_conditionPieces {conditions : Conditions} (known : ∀ condition ∈ conditions, condition.1 ∈ access.layout.names)
    (placeholder : String) : access.layout.Names (Statement.conditionPieces placeholder conditions) := by
  cases conditions with
  | nil => exact Sql.names_nil
  | cons condition rest =>
    rw [Statement.conditionPieces, Sql.names_cons_code]
    · apply Sql.names_separated
      intro part member
      obtain ⟨tested, inside, rfl⟩ := List.mem_map.mp member
      simpa using known tested inside
    · exact nofun

theorem keeps_selection {conditions : Conditions} (known : ∀ condition ∈ conditions, condition.1 ∈ access.layout.names)
    (limit : Option Int) : Keeps access.layout (.execute (access.selection conditions limit)) := by
  intro placeholder
  have columns : access.layout.Names
      (Sql.separated ", " (access.layout.recordColumns.map fun column => [.name column])) := by
    apply Sql.names_separated
    intro part member
    obtain ⟨column, inside, rfl⟩ := List.mem_map.mp member
    simpa using recordColumns_mem_names inside
  have wheres := names_conditionPieces known placeholder
  cases limit <;> simpa [selection, Statement.sql] using ⟨columns, wheres⟩

theorem keeps_assign {conditions : Conditions} (known : ∀ condition ∈ conditions, condition.1 ∈ access.layout.names)
    (value : Value) : Keeps access.layout
      (.execute (.assign access.layout.table access.layout.documentColumn value conditions)) := by
  intro placeholder
  simpa [Statement.sql] using names_conditionPieces known placeholder

theorem ofForm_mem_names (form : Value) : ∀ condition ∈ access.ofForm form, condition.1 ∈ access.layout.names := by
  simp [ofForm]

theorem ofRow_mem_names {form rowId : Value} {conditions : Conditions} (ran : access.ofRow form rowId = .ok conditions) :
    ∀ condition ∈ conditions, condition.1 ∈ access.layout.names := by
  obtain ⟨column, found, ran⟩ := ok_of_bind ran
  cases ran
  have row : column ∈ access.layout.names := Layout.physical_mem_names found
  simpa [ofForm] using row

/-- Where a statement tests a row, its columns are known before it is asked. -/
theorem asks_ofRow {form rowId : Value} {α : Type} {allowed : connection.Request → Prop}
    {next : Conditions → Program connection α}
    (rest : ∀ conditions, (∀ condition ∈ conditions, condition.1 ∈ access.layout.names) →
      (next conditions).Asks allowed) : (lift (access.ofRow form rowId) >>= next).Asks allowed := by
  apply Program.Ensures.done_bind
  · intro fault failed
    exact Program.Asks.done (.error fault : Except Fault α)
  · intro conditions ran
    exact rest conditions (ofRow_mem_names ran)

theorem asks_submission (form rowId : Value) : (access.submission form rowId).Asks (Keeps access.layout) := by
  apply asks_ofRow
  intro conditions known
  apply Program.Asks.bind (.ask (keeps_selection known none))
  intro result
  split
  · exact .done _
  · exact .bind (.done _) fun _ => .done _

theorem asks_merge (form rowId : Value) (patch : Fields) :
    (access.merge form rowId patch).Asks (Keeps access.layout) := by
  apply Program.Asks.bind (asks_submission form rowId)
  intro found
  split
  · exact .done _
  · apply Program.Asks.bind (.done _)
    intro merged
    apply asks_ofRow
    intro conditions known
    apply Program.Asks.bind (.ask (keeps_assign known _))
    intro result
    apply Program.Asks.bind (.ask trivial)
    intro
    exact nofun

/-- Generated SQL is passed on as it is. -/
theorem asks_runSql (sql : String) : (access.runSql sql).Asks (Keeps access.layout) := by
  have passed : Keeps access.layout (.execute (.generated sql)) := by
    intro placeholder
    simp [Statement.sql]
  unfold runSql
  split
  · exact .done _
  · apply Program.Asks.bind (.ask passed)
    intro result
    split
    · exact .bind (.ask trivial) fun _ => .done _
    · exact .done _

/-- Every request of the access keeps to the names of its layout. -/
theorem asks_answer (call : BackendCall) : (access.answer call).Asks (Keeps access.layout) := by
  cases call with
  | runSql sql => exact asks_runSql sql
  | fetchSubmissions form limit =>
    apply Program.Asks.bind (.ask (keeps_selection (ofForm_mem_names _) _))
    intro result
    exact .done _
  | fetchSubmission form rowId => exact asks_submission _ _
  | merge form rowId patch => exact asks_merge _ _ _

end Access

/-- Every name that a layout brings into a statement has a property: into the SQL of any query, well formed or not, and
into what any run of the access to rows asks its connection for. -/
structure Layout.Brings (layout : Layout) (allowed : String → Prop) : Prop where
  generated : ∀ query sql, Sql.ofQuery layout query = .ok sql → ∀ name, Sql.Piece.name name ∈ sql → allowed name
  requested : ∀ (access : Access) (call : BackendCall) (σ : Type) (connected : Handler connection σ) (state : σ)
    (statement : Statement) (placeholder name : String), access.layout = layout →
      .execute statement ∈ ((access.answer call).run connected state).requests →
        Sql.Piece.name name ∈ statement.sql placeholder → allowed name

theorem Layout.brings_names {layout : Layout} {allowed : String → Prop} (each : ∀ name ∈ layout.names, allowed name) :
    layout.Brings allowed where
  generated query sql ran name member := each name (Sql.names_ofQuery ran name member)
  requested access call σ connected state statement placeholder name same asked member := by
    subst same
    exact each name ((Access.asks_answer call).run connected state _ asked placeholder name member)

namespace Settings

/-- Settings of storage are accepted exactly when each of them is missing or gives a plain name, behind which a line end
may stand; every other text is refused at its setting. So only such names come into any statement. -/
theorem Storage.check_names (fields : Fields) :
    (∀ storage, Storage.check (.record fields) = .good storage ↔ storage.IsGiven fields) ∧
      (∀ setting ∈ Storage.standards.map Prod.fst, ∀ value text, Fields.get? fields setting = some value →
        Conversion.text value = .good text → ¬ IsAccepted text.toList →
          ∃ problems, Storage.check (.record fields) = .bad problems ∧
            ⟨[.field setting], .refused s!"{Text.quoted text} is not a plain SQL identifier"⟩ ∈ problems) ∧
      ∀ storage, Storage.check (.record fields) = .good storage → storage.layout.Brings fun name =>
        IsAccepted name.toList ∧ ∀ c ∈ name.toList, IsNameCharacter c ∨ c = '.' ∨ c = '\n' := by
  refine ⟨fun storage => Storage.check_eq_good, ?_, ?_⟩
  · intro setting known value text given shown other
    obtain ⟨⟨_, standard⟩, listed, rfl⟩ := List.mem_map.mp known
    apply Checked.eq_bad_of_mem
    rw [Storage.problems_check]
    exact List.mem_flatMap.mpr ⟨_, listed, mem_problems_field given shown other⟩
  · intro storage accepted
    apply Layout.brings_names
    intro name member
    have known := (Storage.check_eq_good.mp accepted).accepted name member
    exact ⟨known, known.characters⟩

theorem Storage.check_names_schema : ∃ storage,
    Storage.check (.record [("table", .text "public.answers")]) = .good storage ∧ storage.layout.table = "public.answers" ∧
      storage.layout.Brings fun name =>
        IsAccepted name.toList ∧ ∀ c ∈ name.toList, IsNameCharacter c ∨ c = '.' ∨ c = '\n' := by
  have accepted : Storage.check (.record [("table", .text "public.answers")]) = .good { table := "public.answers" } := rfl
  exact ⟨_, accepted, rfl, (Storage.check_names _).2.2 _ accepted⟩

/-- The recognizer looks for the end of a line where it means the end of the text, so a table may end in a line end, and
the line end comes into statements. -/
theorem Storage.check_names_lineEnd : ∃ storage sql,
    Storage.check (.record [("table", .text "form_submissions\n")]) = .good storage ∧
      ¬ IsPlainName storage.table.toList ∧
      Sql.ofQuery storage.layout (.select ⟨true, [], ⟨"f", 0⟩, .all⟩) = .ok sql ∧
      Sql.Piece.name "form_submissions\n" ∈ sql := by
  refine ⟨{ table := "form_submissions\n" }, _, rfl, ?_, rfl, by decide⟩
  intro plain
  exact plain.no_lineEnd (by decide)

end Settings

end FormQuery
