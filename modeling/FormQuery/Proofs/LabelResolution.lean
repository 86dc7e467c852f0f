import FormQuery.Proofs.NameLookup

/-! From labels to columns and back. A label finds a field and gives its identifier, but a column is known by the key
that its field is kept under. So a label leads to a column of the form when what it finds is kept under its identifier.
Forms that are read from structures, or made of column names, keep every field so; typed data may use other keys. -/

namespace FormQuery

namespace Form

structure Keyed (form : Form) : Prop where
  own : ∀ entry ∈ form.fields, entry.1 = entry.2.id
  distinct : form.columns.Nodup

theorem Made.isKeyed {form : Form} (made : form.Made) : form.Keyed := by
  refine ⟨made.keyed, ?_⟩
  cases made with
  | stored read =>
    obtain ⟨items, same⟩ := Form.fields_of_read read
    rw [columns, same]
    exact (Fields.ofPairs_fields _).1
  | listed id columns => exact (Fields.ofPairs_fields _).1

/-- The identifier of the first field of each name is the key of a field with the same name. -/
def LeadsBack (form : Form) : Prop :=
  ∀ before key field behind, form.fields = before ++ (key, field) :: behind →
    (∀ earlier ∈ before, ¬SameName earlier.2.displayName field.displayName) →
      ∃ other, Fields.get? form.fields field.id = some other ∧ SameName other.displayName field.displayName

theorem Keyed.leadsBack {form : Form} (keyed : form.Keyed) : form.LeadsBack := by
  intro before key field behind parts _
  have member : (key, field) ∈ form.fields := by simp [parts]
  have own : key = field.id := keyed.own _ member
  exact ⟨field, own ▸ Fields.get?_of_nodup keyed.distinct member, rfl⟩

end Form

namespace Snapshot

/-- A column that exists, and whose label is the same name as the one that was looked up. -/
structure LeadsTo (snapshot : Snapshot) (table label column : String) : Prop where
  known : snapshot.hasColumn table column = true
  label : ∃ name, snapshot.fieldLabel table column = .ok name ∧ normalizeName name = normalizeName label

def ResolvesLabels (snapshot : Snapshot) (table : String) : Prop :=
  ∀ label column, snapshot.columnByLabel table label = some column → snapshot.LeadsTo table label column

section Found

variable {snapshot : Snapshot} {table : String} {form : Form} (found : snapshot.form? table = some form)

include found

theorem hasColumn_iff {column : String} :
    snapshot.hasColumn table column = true ↔ ∃ field, Fields.get? form.fields column = some field := by
  rw [hasColumn, found, Option.any_some, Form.hasColumn, decide_eq_true_iff, Fields.exists_get?_iff]
  rfl

theorem fieldLabel_eq (column : String) : snapshot.fieldLabel table column =
    match Fields.get? form.fields column with
    | some field => .ok field.displayName
    | none => .error (.unknownKey column) := by
  have known : snapshot.form table = .ok form := by rw [Snapshot.form, found]
  rw [fieldLabel, bind_ok known]
  cases kept : Fields.get? form.fields column <;> simp only <;> rfl

theorem leadsTo_iff {label column : String} : snapshot.LeadsTo table label column ↔
    ∃ field, Fields.get? form.fields column = some field ∧ SameName field.displayName label := by
  constructor
  · intro ⟨_, name, shown, same⟩
    rw [fieldLabel_eq found] at shown
    cases kept : Fields.get? form.fields column with
    | none =>
      rw [kept] at shown
      cases shown
    | some field =>
      rw [kept] at shown
      cases shown
      exact ⟨field, rfl, normalizeName_eq_iff.mp same⟩
  · intro ⟨field, kept, same⟩
    refine ⟨(hasColumn_iff found).mpr ⟨field, kept⟩, field.displayName, ?_, normalizeName_eq_iff.mpr same⟩
    rw [fieldLabel_eq found, kept]

end Found

theorem fieldLabel_of_unknown {snapshot : Snapshot} {table column : String} {form : Form}
    (found : snapshot.form? table = some form) (unknown : snapshot.hasColumn table column = false) :
    snapshot.fieldLabel table column = .error (.unknownKey column) := by
  have none : Fields.get? form.fields column = none := by
    rw [Option.eq_none_iff_forall_ne_some]
    intro field kept
    rw [(hasColumn_iff found).mpr ⟨field, kept⟩] at unknown
    cases unknown
  rw [fieldLabel_eq found, none]

theorem resolvesLabels_iff {forms : List Form} (distinct : (forms.map (·.id)).Nodup) {form : Form}
    (member : form ∈ forms) : ResolvesLabels ⟨forms⟩ form.id ↔ form.LeadsBack := by
  have found : form? ⟨forms⟩ form.id = some form := (find?_key_eq_some distinct).mpr ⟨member, rfl⟩
  have lookup (label column : String) : columnByLabel ⟨forms⟩ form.id label = some column ↔
      ∃ before entry behind, form.fields = before ++ entry :: behind ∧ entry.2.id = column ∧
        SameName entry.2.displayName label ∧ ∀ earlier ∈ before, ¬SameName earlier.2.displayName label := by
    have known : forms.find? (·.id = form.id) = some form := found
    rw [columnByLabel, (indexes_nameIndex distinct).labels, known]
    simp only [Option.map_some, Option.getD_some, get?_labelsOf, find?_map_eq_some_iff, decide_eq_true_eq,
      normalizeName_eq_iff]
  constructor
  · intro resolves before key field behind parts first
    have looked := (lookup field.displayName field.id).mpr ⟨before, (key, field), behind, parts, rfl, rfl, first⟩
    exact (leadsTo_iff found).mp (resolves _ _ looked)
  · intro leads label column looked
    obtain ⟨before, ⟨key, field⟩, behind, parts, rfl, same, first⟩ := (lookup label column).mp looked
    have alone : ∀ earlier ∈ before, ¬SameName earlier.2.displayName field.displayName :=
      fun earlier inside again => first earlier inside (again.trans same)
    obtain ⟨other, kept, alike⟩ := leads before key field behind parts alone
    exact (leadsTo_iff found).mpr ⟨other, kept, alike.trans same⟩

/-- Forms with distinct identifiers make a schema. The labels of a form resolve exactly when the first field of each
name has as its identifier the key of a field with the same name. That is so when every field is kept under its
identifier, as in each form that was read from a structure or is made of column names. A column that does not exist has
no label either: asking for it is a fault. -/
theorem labels_resolve {forms : List Form} (distinct : (forms.map (·.id)).Nodup) :
    ∃ snapshot, ofForms forms = .ok snapshot ∧ snapshot.forms = forms ∧
      (∀ form ∈ forms, snapshot.ResolvesLabels form.id ↔ form.LeadsBack) ∧
      (∀ table, (∀ form ∈ forms, form.id = table → form.Keyed) → snapshot.ResolvesLabels table) ∧
      (∀ form : Form, form.Made → form.Keyed) ∧
      ∀ form ∈ forms, ∀ column, snapshot.hasColumn form.id column = false →
        snapshot.fieldLabel form.id column = .error (.unknownKey column) := by
  refine ⟨⟨forms⟩, ofForms_of_distinct distinct, rfl, fun form => resolvesLabels_iff distinct, ?_,
    fun form => Form.Made.isKeyed, ?_⟩
  · intro table keyed label column looked
    cases found : forms.find? (·.id = table) with
    | none =>
      rw [columnByLabel, (indexes_nameIndex distinct).labels, found] at looked
      cases looked
    | some form =>
      obtain ⟨member, rfl⟩ := (find?_key_eq_some distinct).mp found
      exact (resolvesLabels_iff distinct member).mpr (keyed form member rfl).leadsBack label column looked
  · intro form member column
    exact fieldLabel_of_unknown ((find?_key_eq_some distinct).mpr ⟨member, rfl⟩)

theorem labels_resolve_swapped :
    let form : Form := ⟨"f1", "Orders", [("b", ⟨"a", "Total", "text", false⟩), ("a", ⟨"b", "total ", "text", false⟩)]⟩
    ([form].map (·.id)).Nodup ∧ ∃ snapshot, ofForms [form] = .ok snapshot ∧
      snapshot.columnByLabel "f1" "TOTAL" = some "a" ∧ snapshot.LeadsTo "f1" "TOTAL" "a" := by
  intro form
  have distinct : ([form].map (·.id)).Nodup := by decide
  obtain ⟨⟨forms⟩, built, rfl, resolves, -⟩ := labels_resolve distinct
  have back : form.LeadsBack := by
    intro before key field behind parts _
    have member : (key, field) ∈ form.fields := by simp [parts]
    have each : ∀ entry ∈ form.fields, ∃ other, Fields.get? form.fields entry.2.id = some other ∧
        SameName other.displayName entry.2.displayName := by
      simp only [form, List.forall_mem_cons]
      exact ⟨⟨_, rfl, by decide +kernel⟩, ⟨_, rfl, by decide +kernel⟩, by simp⟩
    exact each _ member
  have looked : columnByLabel ⟨[form]⟩ "f1" "TOTAL" = some "a" := by decide +kernel
  exact ⟨distinct, _, built, looked, (resolves form List.mem_cons_self).mpr back _ _ looked⟩

/-- Typed data with a field under a key that is not its identifier. The label of the field gives a column that does not
exist. -/
theorem label_astray :
    let data : Value := .record [("id", .text "f1"),
      ("fields", .record [("k1", .record [("id", .text "c1"), ("label", .text "Amount")])])]
    ∃ form snapshot, Form.ofValue data = .ok form ∧ ofForms [form] = .ok snapshot ∧
      snapshot.columnByLabel "f1" "Amount" = some "c1" ∧ snapshot.hasColumn "f1" "c1" = false ∧
      snapshot.fieldLabel "f1" "c1" = .error (.unknownKey "c1") :=
  ⟨⟨"f1", "Unnamed Form", [("k1", ⟨"c1", "Amount", "text", false⟩)]⟩, _, rfl, rfl, by decide +kernel, by decide, rfl⟩

end Snapshot

end FormQuery
