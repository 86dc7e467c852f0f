import FormQuery.Proofs.CheckedReferences
import FormQuery.Proofs.FieldNames
import FormQuery.Proofs.OutcomeCases
import FormQuery.Proofs.ResultShape
import FormQuery.Proofs.UncaughtFaults
import FormQuery.Storage.Memory

/-! Result columns under the labels of fields. A column that shows a field has its label, on both ways of execution.
Every other column keeps the name that it has, but for one case: a field of the form has this name for an identifier. -/

namespace FormQuery

/-- The field that an item shows under no name of its own. An empty alias is no name. -/
def SelectItem.field? (item : SelectItem) : Option String :=
  match item.expr with
  | .column ref => if !ref.pseudo && (item.alias?.getD "").isEmpty then some ref.name else none
  | .aggregate _ => none

namespace Form

/-- What the name of a column that shows no field becomes. It is mistaken for a field that has it for an identifier. -/
inductive Renames (form : Form) (name : String) : String → Prop
  | kept (other : Fields.get? form.fields name = none) : Renames form name name
  | mistaken {field : Field} (same : Fields.get? form.fields name = some field) : Renames form name field.displayName

inductive Labels (form : Form) (item : SelectItem) : String → Prop
  | field {id : String} {field : Field} (shows : item.field? = some id)
      (known : Fields.get? form.fields id = some field) : Labels form item field.displayName
  | other {label : String} (none : item.field? = none) (renames : form.Renames item.outputName label) :
      Labels form item label

def title (form : Form) (item : SelectItem) : String :=
  match item.field? with
  | some id => Engine.labelOf form id
  | none => item.outputName

end Form

namespace Select

/-- The labels of the columns of a SELECT. -/
structure Labelled (layout : Layout) (form : Form) (wanted : Select) (labels : List String) : Prop where
  star : wanted.star = true → List.Forall₂ form.Renames (wanted.columnNames layout) labels
  items : wanted.star = false → List.Forall₂ form.Labels wanted.items labels

def titles (layout : Layout) (form : Form) (wanted : Select) : List String :=
  if wanted.star then wanted.columnNames layout else wanted.items.map form.title

def ownNames (layout : Layout) (wanted : Select) : List String :=
  if wanted.star then wanted.columnNames layout else (wanted.items.filter (·.field? = none)).map (·.outputName)

end Select

theorem SelectItem.column_of_field? {item : SelectItem} {id : String} (shows : item.field? = some id) :
    ∃ ref, item.expr = .column ref ∧ ref.pseudo = false ∧ ref.name = id ∧ item.outputName = id := by
  unfold field? at shows
  split at shows
  next ref column =>
    split at shows
    next bare =>
      cases shows
      rw [Bool.and_eq_true, Bool.not_eq_true'] at bare
      refine ⟨ref, column, bare.1, rfl, ?_⟩
      cases named : item.alias? with
      | none => simp [outputName, outputName.unnamed, named, column]
      | some name =>
        have empty : name.isEmpty = true := by simpa [named] using bare.2
        simp [outputName, outputName.unnamed, named, column, empty]
    next => cases shows
  next => cases shows

theorem Form.renames_labelOf (form : Form) (name : String) : form.Renames name (Engine.labelOf form name) := by
  unfold Engine.labelOf
  split
  next field found => exact .mistaken found
  next none => exact .kept none

namespace Select

variable {wanted : Select} {schema : Snapshot} {layout : Layout} {form : Form}

theorem form_of_clean (clean : (Query.select wanted).check schema = []) :
    ∃ form, schema.form? wanted.table.name = some form := by
  rw [← Option.isSome_iff_exists]
  cases known : schema.hasTable wanted.table.name with
  | true => exact known
  | false =>
    rw [Query.check, Query.table, known] at clean
    cases clean

theorem labels_item (clean : (Query.select wanted).check schema = [])
    (found : schema.form? wanted.table.name = some form) {item : SelectItem} (member : item ∈ wanted.items) :
    form.Labels item (Engine.labelOf form item.outputName) := by
  cases shows : item.field? with
  | none => exact .other shows (form.renames_labelOf _)
  | some id =>
    obtain ⟨ref, column, plain, rfl, named⟩ := item.column_of_field? shows
    have known := Query.hasColumn_of_clean clean (.shown member column) plain
    rw [Snapshot.hasColumn, Query.table, found, Option.any_some, Form.hasColumn, decide_eq_true_iff] at known
    obtain ⟨field, same⟩ := Fields.get?_of_mem known
    rw [named, Engine.labelOf, same]
    exact .field shows same

theorem labelled_names (clean : (Query.select wanted).check schema = [])
    (found : schema.form? wanted.table.name = some form) :
    wanted.Labelled layout form ((wanted.columnNames layout).map (Engine.labelOf form)) := by
  constructor
  · intro star
    rw [List.forall₂_map_right_iff, List.forall₂_same]
    exact fun name _ => form.renames_labelOf name
  · intro listed
    rw [columnNames, listed, if_neg (by decide), List.map_map, List.forall₂_map_right_iff, List.forall₂_same]
    exact fun item member => labels_item clean found member

theorem titles_iff (layout : Layout) (form : Form) (wanted : Select) :
    (wanted.columnNames layout).map (Engine.labelOf form) = wanted.titles layout form ↔
      ∀ name ∈ wanted.ownNames layout, Engine.labelOf form name = name := by
  unfold titles ownNames
  split
  next star => simpa using List.map_inj_left (l := wanted.columnNames layout) (f := Engine.labelOf form) (g := id)
  next listed =>
    rw [columnNames, if_neg listed, List.map_map, List.map_inj_left, List.forall_mem_map]
    refine ⟨fun same item member => ?_, fun kept item member => ?_⟩
    · obtain ⟨member, none⟩ := List.mem_filter.mp member
      simpa [Form.title, of_decide_eq_true none] using same item member
    · -- An item that shows a field goes by the identifier of the field, so its label is the title.
      cases shows : item.field? with
      | none => simpa [Form.title, shows] using kept item (List.mem_filter.mpr ⟨member, decide_eq_true shows⟩)
      | some id =>
        obtain ⟨ref, -, -, -, named⟩ := item.column_of_field? shows
        rw [Form.title, shows, Function.comp_apply, named]

end Select

theorem Outcome.columns_ofRaw {columns : List String} {rows : Value} {sql : String} {outcome : Outcome}
    (read : ofRaw (.list (columns.map .text)) rows sql = .ok outcome) : outcome.columns = columns := by
  have named : checkColumns (.list (columns.map .text)) = .good columns :=
    Conversion.items_good Conversion.text .text (fun _ => rfl) 0 columns
  unfold ofRaw at read
  rw [named] at read
  cases celled : (checkRows rows).under (.field "rows") with
  | bad problems =>
    rw [celled] at read
    cases read
  | good cells =>
    rw [celled] at read
    cases read
    rfl

namespace Engine

open Program

/-- Wherever a statement runs, its columns come back under the names that it has for them. -/
def NamesColumns (sql : Sql) (said : List (Exchange collaborators)) : Prop :=
  ∀ table, (⟨.backend (.runSql sql.text), .ok table⟩ : Exchange collaborators) ∈ said →
    ∃ names, Sql.columnNames? sql.symbols = some names ∧ table.columns = .list (names.map .text)

theorem columns_of_gives {engine : Engine} {wanted : Select} {sql : Sql} {said : List (Exchange backend)}
    {outcome : Outcome} (valid : wanted.WellFormed) (written : Sql.select engine.layout wanted = .ok sql)
    (named : NamesColumns sql (said.map ofBackend))
    (gives : engine.ExecutionGives sql.text (.select wanted) said outcome) (ok : outcome.ok = true) :
    outcome.columns = wanted.columnNames engine.layout := by
  cases gives with
  | @selected _ table _ read =>
    obtain ⟨names, same, shape⟩ := named table List.mem_cons_self
    rw [Sql.columnNames?_select valid written, Option.some.injEq] at same
    rw [shape] at read
    rw [Outcome.columns_ofRaw read, same]
  | refused message => cases ok
  | evaluated gives =>
    cases gives with
    | sampled evaluated =>
      obtain ⟨rows, -, shaped⟩ := Select.evaluate_shaped valid evaluated
      exact shaped.columns
    | failed unwritten message => cases ok

theorem first_answer {σ : Type} {engine : Engine} {source : QuerySource} {handler : Handler collaborators σ} {state : σ}
    {answer : Except Fault Snapshot} {more : List (Exchange collaborators)}
    (only : exchanges ((engine.execute source).moves handler state) = ⟨.schema, answer⟩ :: more) :
    answer = (handler .schema state).result := by
  obtain ⟨others, first⟩ : ∃ others, exchanges ((engine.execute source).moves handler state) =
      ⟨.schema, (handler .schema state).result⟩ :: others := ⟨_, rfl⟩
  rw [first] at only
  cases only
  rfl

def answering (form : Form) (columns : List String) : Handler collaborators MemoryStore :=
  handler (fun store => ⟨.ok ⟨[form]⟩, store, []⟩) fun request _ =>
    MemoryStore.handler request { submissions := [], sqlAnswer := .ok ⟨.list (columns.map .text), .list []⟩ }

theorem namesColumns_answering (form : Form) {names : List String} {sql : Sql}
    (same : Sql.columnNames? sql.symbols = some names) {α : Type} (program : Work α) (store : MemoryStore) :
    NamesColumns sql (exchanges (program.moves (answering form names) store)) := by
  intro table asked
  obtain ⟨before, answer⟩ := answered program (answering form names) store _ asked
  cases answer
  exact ⟨names, same, rfl⟩

/-- The columns of a SELECT under labels. Those that show a field have its label; the titles are all as wanted when
nothing else is mistaken for a field, and only then. -/
theorem columns_of_execute {σ : Type} {engine : Engine} (labels : engine.labelColumns = true) {source : String}
    {schema : Snapshot} {wanted : Select} {sql : Sql}
    (compiled : (QuerySource.text source).compile schema engine.layout = .ok (.compiled (.select wanted) sql))
    {handler : Handler collaborators σ} {state : σ} (known : (handler .schema state).result = .ok schema)
    (named : NamesColumns sql (exchanges ((engine.execute (.text source)).moves handler state))) {outcome : Outcome}
    (returned : ((engine.execute (.text source)).run handler state).result = .ok outcome) (ok : outcome.ok = true) :
    ∃ form, schema.form? wanted.table.name = some form ∧ wanted.Labelled engine.layout form outcome.columns ∧
      (outcome.columns = wanted.titles engine.layout form ↔
        ∀ name ∈ wanted.ownNames engine.layout, labelOf form name = name) := by
  obtain ⟨read, written⟩ := QuerySource.parts_of_compiled compiled
  have clean : (Query.select wanted).check schema = [] := by
    simp only [QuerySource.compile, QuerySource.read, read] at compiled
    exact (Compilation.parts_of_ofQuery compiled).2.1
  obtain ⟨form, found⟩ := Select.form_of_clean clean
  refine ⟨form, found, ?_⟩
  obtain ⟨answer, compilation, said, only, gives⟩ := engine.cases_of_execute (.text source) handler state returned
  obtain rfl : answer = .ok schema := (first_answer only).trans known
  cases gives with
  | diagnosed compiles unfinished =>
    rw [compiled] at compiles
    cases compiles
    cases unfinished
  | @executed _ query other _ given compiles gives =>
    rw [compiled] at compiles
    cases compiles
    -- Labels are put on outcomes without errors only.
    have succeeded : given.ok = true := by
      cases failed : given.ok with
      | true => rfl
      | false =>
        rw [failed, if_neg (by decide)] at ok
        exact failed.symm.trans ok
    have behind : NamesColumns sql (said.map ofBackend) := by
      intro table asked
      exact named table (only ▸ List.mem_cons_of_mem _ asked)
    have own := columns_of_gives (Query.wellFormed_of_read read) written behind gives succeeded
    have shown : (engine.labelled (.select wanted) schema given).columns =
        (wanted.columnNames engine.layout).map (labelOf form) := by
      simp [labelled, Query.table, found, labels, own]
    rw [if_pos succeeded, shown]
    exact ⟨Select.labelled_names clean found, Select.titles_iff engine.layout form wanted⟩

theorem columns_of_execute_aggregate :
    let engine : Engine := { labelColumns := true }
    let source := "SELECT FIELD('a'), COUNT(*) FROM 'f'"
    let form : Form := ⟨"f", "f", [("a", { id := "a", label := "Amount" })]⟩
    let handler := answering form ["a", "count"]
    let store : MemoryStore := { submissions := [] }
    ∃ wanted sql outcome,
      (QuerySource.text source).compile ⟨[form]⟩ engine.layout = .ok (.compiled (.select wanted) sql) ∧
      NamesColumns sql (exchanges ((engine.execute (.text source)).moves handler store)) ∧
      ((engine.execute (.text source)).run handler store).result = .ok outcome ∧ outcome.ok = true ∧
      outcome.columns = ["Amount", "count"] ∧
      ∃ found, (⟨[form]⟩ : Snapshot).form? wanted.table.name = some found ∧
        wanted.Labelled engine.layout found outcome.columns ∧
          (outcome.columns = wanted.titles engine.layout found ↔
            ∀ name ∈ wanted.ownNames engine.layout, labelOf found name = name) := by
  intro engine source form handler store
  have shown : Select.passesSelect (fun _ sql => Sql.columnNames? sql.symbols = some ["a", "count"])
      ((QuerySource.text source).compile ⟨[form]⟩ engine.layout) = true := by decide +kernel
  obtain ⟨wanted, sql, compiled, names⟩ := Select.select_of_passes shown
  have named := namesColumns_answering form (of_decide_eq_true names) (engine.execute (.text source)) store
  have shown : passes (fun outcome => outcome.ok && outcome.columns = ["Amount", "count"])
      ((engine.execute (.text source)).run handler store).result = true := by decide +kernel
  obtain ⟨outcome, returned, shown⟩ := ok_of_passes shown
  obtain ⟨ok, columns⟩ : outcome.ok = true ∧ outcome.columns = ["Amount", "count"] := by simpa using shown
  refine ⟨wanted, sql, outcome, compiled, named, returned, ok, columns, ?_⟩
  exact columns_of_execute rfl compiled rfl named returned ok

/-- A column whose alias is the identifier of another field: it has the label of this field, and not its alias. -/
theorem columns_of_execute_mistaken :
    let engine : Engine := { labelColumns := true }
    let source := "SELECT FIELD('b') AS 'a' FROM 'f'"
    let form : Form := ⟨"f", "f", [("a", { id := "a", label := "Amount" }), ("b", { id := "b", label := "Note" })]⟩
    let handler := answering form ["a"]
    let store : MemoryStore := { submissions := [] }
    ∃ wanted sql outcome,
      (QuerySource.text source).compile ⟨[form]⟩ engine.layout = .ok (.compiled (.select wanted) sql) ∧
      NamesColumns sql (exchanges ((engine.execute (.text source)).moves handler store)) ∧
      ((engine.execute (.text source)).run handler store).result = .ok outcome ∧ outcome.ok = true ∧
      wanted.titles engine.layout form = ["a"] ∧ outcome.columns = ["Amount"] := by
  intro engine source form handler store
  have shown : Select.passesSelect (fun wanted sql =>
      Sql.columnNames? sql.symbols = some ["a"] && wanted.titles engine.layout form = ["a"])
        ((QuerySource.text source).compile ⟨[form]⟩ engine.layout) = true := by decide +kernel
  obtain ⟨wanted, sql, compiled, shown⟩ := Select.select_of_passes shown
  obtain ⟨names, titles⟩ : Sql.columnNames? sql.symbols = some ["a"] ∧ wanted.titles engine.layout form = ["a"] := by
    simpa using shown
  have named := namesColumns_answering form names (engine.execute (.text source)) store
  have shown : passes (fun outcome => outcome.ok && outcome.columns = ["Amount"])
      ((engine.execute (.text source)).run handler store).result = true := by decide +kernel
  obtain ⟨outcome, returned, shown⟩ := ok_of_passes shown
  obtain ⟨ok, columns⟩ : outcome.ok = true ∧ outcome.columns = ["Amount"] := by simpa using shown
  exact ⟨wanted, sql, outcome, compiled, named, returned, ok, titles, columns⟩

end Engine

end FormQuery
