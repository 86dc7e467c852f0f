import FormQuery.Proofs.FieldNames
import FormQuery.Proofs.Runs
import FormQuery.Schema.Form

/-! Stored structures. Whatever is stored, a form is read of it, unless a number or a truth stands where the list of
fields should be. The fields are the entries of that list that have an identifier, each identifier once. -/

namespace FormQuery

namespace Value

/-- What a stored structure holds. A text that cannot be read holds nothing. -/
def held (structure_ : Value) : Value :=
  match decodeStructure structure_ with
  | .ok value => value
  | .error _ => .record []

def listed : Value → List Value
  | record fields =>
    match Fields.get? fields "fields" with
    | some (list items) => items
    | _ => []
  | _ => []

/-- Numbers and truths hold no items, not even none. -/
def isSingle : Value → Bool
  | bool _ | int _ | float _ | decimal _ => true
  | _ => false

/-- A structure with a number other than zero, or with a truth, where the list of its fields should be. -/
def Blocked (structure_ : Value) : Prop :=
  ∃ fields value, structure_ = record fields ∧ Fields.get? fields "fields" = some value ∧
    value.isSingle = true ∧ value.holds = true

def identifier? : Value → Option String
  | record entry => ((Fields.get? entry "id").filter (·.holds)).map display
  | _ => none

theorem structureEntries_of_blocked {structure_ : Value} (blocked : structure_.Blocked) :
    ∃ kind, structureEntries structure_ = .error (.notIterable kind) := by
  obtain ⟨fields, value, rfl, found, single, holds⟩ := blocked
  refine ⟨value.kind, ?_⟩
  rw [structureEntries, found, Option.getD_some]
  cases value with
  | bool | int | float | decimal => simp [entries, holds]
  | null | bytes | text | list | record => cases single

theorem structureEntries_of_open {structure_ : Value} (free : ¬structure_.Blocked) :
    structureEntries structure_ = .ok structure_.listed := by
  cases structure_ with
  | null | bool | int | float | decimal | bytes | text | list => rfl
  | record fields =>
    rw [structureEntries, listed]
    cases found : Fields.get? fields "fields" with
    | none => rfl
    | some value =>
      cases value with
      | bool | int | float | decimal =>
        have empty : ¬_ := fun holds => free ⟨fields, _, rfl, found, rfl, holds⟩
        simp [entries, empty]
      | null | bytes | text | list | record => rfl

end Value

theorem Field.id_ofEntry? (entry : Value) : (Option.map Field.id <| Field.ofEntry? entry) = entry.identifier? := by
  cases entry with
  | null | bool | int | float | decimal | bytes | text | list => rfl
  | record fields =>
    rw [Value.identifier?, ofEntry?]
    cases Fields.get? fields "id" with
    | none => rfl
    | some id => by_cases holds : id.holds = true <;> simp [Option.filter, holds]

structure Form.Keeps (form : Form) (entries : List Value) : Prop where
  keyed : ∀ entry ∈ form.fields, entry.1 = entry.2.id
  /-- Every entry with an identifier has its field, at the place of the first entry with this identifier. -/
  columns : form.columns = (entries.filterMap Value.identifier?).eraseDups
  /-- A field is that of the last entry with its identifier. -/
  last : ∀ column field, Fields.get? form.fields column = some field → ∃ before entry behind,
    entries = before ++ entry :: behind ∧ entry.identifier? = some column ∧ Field.ofEntry? entry = some field ∧
      ∀ later ∈ behind, later.identifier? ≠ some column

theorem Form.keeps_ofPairs (id name : String) (entries : List Value) :
    Form.Keeps ⟨id, name, Fields.ofPairs ((entries.filterMap Field.ofEntry?).map fun field => (field.id, field))⟩
      entries := by
  constructor
  case keyed => exact Fields.keyed_ofPairs Field.id _
  case columns =>
    rw [Form.columns, Fields.names_ofPairs, List.map_map, List.map_filterMap]
    simp [Function.comp_def, Field.id_ofEntry?]
  case last =>
    intro column field found
    rw [Fields.get?_ofPairs, List.filter_map, List.getLast?_map, Option.map_map, List.filter_filterMap] at found
    obtain ⟨before, entry, behind, rfl, same, others⟩ :=
      exists_last_of_filterMap (by simpa [Function.comp_def] using found)
    obtain ⟨read, own⟩ := Option.filter_eq_some_iff.mp same
    refine ⟨before, entry, behind, rfl, ?_, read, fun later member identified => ?_⟩
    · rw [← Field.id_ofEntry?, read]
      simpa using own
    · rw [← Field.id_ofEntry?, Option.map_eq_some_iff] at identified
      obtain ⟨other, again, alike⟩ := identified
      simpa [again, alike] using others later member

theorem Form.fields_of_read {id name structure_ : Value} {form : Form}
    (read : (Form.ofStructure id name structure_).form = .ok form) :
    ∃ items : List Field, form.fields = Fields.ofPairs (items.map fun field => (field.id, field)) := by
  rw [Form.ofStructure] at read
  split at read
  obtain ⟨entries, -, read⟩ := ok_of_bind read
  dsimp only at read
  generalize Checked.under (.field "id") _ = own at read
  generalize Checked.under (.field "name") _ = shown at read
  cases own <;> cases shown <;> cases read
  exact ⟨_, rfl⟩

theorem Form.keyed_of_read {id name structure_ : Value} {form : Form}
    (read : (Form.ofStructure id name structure_).form = .ok form) : ∀ entry ∈ form.fields, entry.1 = entry.2.id := by
  obtain ⟨items, same⟩ := Form.fields_of_read read
  rw [same]
  exact Fields.keyed_ofPairs Field.id items

section Reading

variable (id : String) (name? : Option String)

theorem Form.ofStructure_eq (structure_ : Value) :
    (Form.ofStructure (.text id) ((name?.map .text).getD .null) structure_).form =
      (structureEntries structure_.held).map fun entries =>
        ⟨id, (name?.filter (!·.isEmpty)).getD "Unnamed Form",
          Fields.ofPairs ((entries.filterMap Field.ofEntry?).map fun field => (field.id, field))⟩ := by
  have shown : (if ((name?.map Value.text).getD .null).holds then (name?.map Value.text).getD .null
      else .text "Unnamed Form") = .text ((name?.filter (!·.isEmpty)).getD "Unnamed Form") := by
    cases name? with
    | none => rfl
    | some name => by_cases empty : name.isEmpty = true <;> simp [Value.holds, Option.filter, empty]
  rw [Form.ofStructure, Value.held]
  cases decodeStructure structure_ with
  | error fault =>
    simp only [shown]
    rfl
  | ok value =>
    simp only [shown]
    cases structureEntries value <;> rfl

theorem Form.ofStructure_of_blocked {structure_ : Value} (blocked : structure_.held.Blocked) :
    ∃ kind, (Form.ofStructure (.text id) ((name?.map .text).getD .null) structure_).form =
      .error (.notIterable kind) := by
  obtain ⟨kind, stopped⟩ := Value.structureEntries_of_blocked blocked
  exact ⟨kind, by rw [ofStructure_eq, stopped]; rfl⟩

theorem Form.ofStructure_of_open {structure_ : Value} (free : ¬structure_.held.Blocked) :
    ∃ form, (Form.ofStructure (.text id) ((name?.map .text).getD .null) structure_).form = .ok form ∧
      form.id = id ∧ form.name = (name?.filter (!·.isEmpty)).getD "Unnamed Form" ∧
      form.Keeps structure_.held.listed := by
  have read := Form.ofStructure_eq id name? structure_
  rw [Value.structureEntries_of_open free] at read
  exact ⟨_, read, rfl, rfl, keeps_ofPairs ..⟩

/-- Reading a structure fails only when a number or a truth stands in place of the list of fields. Otherwise the form
has the fields of the entries that it lists, if it lists any. -/
theorem Form.ofStructure_reads (structure_ : Value) :
    (structure_.held.Blocked → ∃ kind,
      (Form.ofStructure (.text id) ((name?.map .text).getD .null) structure_).form = .error (.notIterable kind)) ∧
    (¬structure_.held.Blocked → ∃ form,
      (Form.ofStructure (.text id) ((name?.map .text).getD .null) structure_).form = .ok form ∧
        form.id = id ∧ form.name = (name?.filter (!·.isEmpty)).getD "Unnamed Form" ∧
        form.Keeps structure_.held.listed ∧ (structure_.held.listed = [] → form.fields = [])) := by
  refine ⟨ofStructure_of_blocked id name?, fun free => ?_⟩
  obtain ⟨form, read, own, name, keeps⟩ := ofStructure_of_open id name? free
  refine ⟨form, read, own, name, keeps, fun nothing => ?_⟩
  simpa [Form.columns, nothing] using keeps.columns

end Reading

theorem Form.ofStructure_reads_entries :
    let entry (id label : String) : Value := .record [("id", .text id), ("label", .text label)]
    let structure_ : Value :=
      .record [("fields", .list [.int 5, entry "b" "B", entry "" "C", entry "a" "", entry "b" "D"])]
    let form : Form := ⟨"f", "Unnamed Form", [("b", ⟨"b", "D", "text", false⟩), ("a", ⟨"a", "a", "text", false⟩)]⟩
    ¬structure_.held.Blocked ∧ (Form.ofStructure (.text "f") .null structure_).form = .ok form ∧
      form.Keeps structure_.held.listed := by
  intro entry structure_ form
  have free : ¬structure_.held.Blocked := by
    intro ⟨fields, value, same, found, single, holds⟩
    cases same
    cases found
    cases single
  obtain ⟨own, read, -, -, keeps, -⟩ := (Form.ofStructure_reads "f" none structure_).2 free
  have shown : (Form.ofStructure (.text "f") .null structure_).form = .ok form := rfl
  obtain rfl : form = own := Except.ok.inj (shown.symm.trans read)
  exact ⟨free, shown, keeps⟩

/-- A number in place of the list of fields. -/
theorem Form.structure_refused :
    (Form.ofStructure (.text "f1") .null (.record [("fields", .int 5)])).form = .error (.notIterable "int") := rfl

theorem Form.ofStructures_succeeds (rows : List (String × Option String × Value)) :
    (∃ forms, (Form.ofStructures (rows.map fun (id, name?, structure_) =>
      (.text id, (name?.map .text).getD .null, structure_))).1 = .ok forms) ↔
      ∀ row ∈ rows, ¬row.2.2.held.Blocked := by
  induction rows with
  | nil => simp [Form.ofStructures]
  | cons row rows ih =>
    obtain ⟨id, name?, structure_⟩ := row
    rw [List.map_cons, Form.ofStructures, List.forall_mem_cons, ← ih]
    by_cases blocked : structure_.held.Blocked
    · obtain ⟨kind, stopped⟩ := ofStructure_of_blocked id name? blocked
      simp [stopped, blocked]
    · obtain ⟨form, read, -⟩ := ofStructure_of_open id name? blocked
      simp only [read, blocked, not_false_eq_true, true_and]
      generalize (Form.ofStructures _).1 = others
      cases others <;> simp [Except.map]

end FormQuery
