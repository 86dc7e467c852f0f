import FormQuery.Proofs.StoredStructures
import FormQuery.Schema.Snapshot

/-! Lookups by display name. The index is built in one pass over the forms, and a name stays with the first form, or the
first field, that has it. So a lookup finds the first match in the order of the schema, or none when there is none. -/

namespace FormQuery

namespace Fields

variable {α β : Type}

theorem get?_setDefault (fields : List (String × α)) (name : String) (value : α) (key : String) :
    get? (setDefault fields name value) key = (get? fields key).or (if name = key then some value else none) := by
  rw [setDefault, has]
  cases found : get? fields name with
  | none =>
    by_cases same : name = key
    · simp [← same, found]
    · simp [same, get?_set_of_ne]
  | some earlier =>
    by_cases same : name = key
    · simp [← same, found]
    · simp [same]

theorem get?_foldl_setDefault (name : β → String) (value : β → α) (items : List β) (done : List (String × α))
    (key : String) :
    get? (items.foldl (fun fields item => setDefault fields (name item) (value item)) done) key =
      (get? done key).or ((items.find? (name · = key)).map value) := by
  induction items generalizing done with
  | nil => simp
  | cons item items ih =>
    rw [List.foldl_cons, ih, get?_setDefault, List.find?_cons]
    by_cases same : name item = key <;> simp [same]

end Fields

/-- Two names with the same words, after trimming and in small letters. -/
def SameName (first second : String) : Prop :=
  Text.words (Text.lower (Text.trim first.toList)) = Text.words (Text.lower (Text.trim second.toList))

instance (first second : String) : Decidable (SameName first second) := inferInstanceAs (Decidable (_ = _))

namespace Text

def IsSolid (word : List Char) : Prop := word ≠ [] ∧ ∀ c ∈ word, isBlank c = false

theorem isSolid_of_mem_words {text word : List Char} (member : word ∈ words text) : IsSolid word := by
  have step (text begun : List Char) (solid : ∀ c ∈ begun, isBlank c = false) :
      ∀ word ∈ words.go text begun, IsSolid word := by
    induction text generalizing begun with
    | nil =>
      rw [words.go]
      by_cases empty : begun = []
      · simp [empty]
      · simpa [empty, IsSolid] using solid
    | cons c rest ih =>
      rw [words.go]
      by_cases blank : isBlank c = true
      · by_cases empty : begun = []
        · simpa [blank, empty] using ih [] (by simp)
        · have first : IsSolid begun.reverse := by simpa [empty, IsSolid] using solid
          simpa [blank, empty] using ⟨first, ih [] (by simp)⟩
      · simpa [blank] using ih (c :: begun) (by simpa [blank] using solid)
  exact step text [] (by simp) word member

theorem words_go_solid {word : List Char} (solid : ∀ c ∈ word, isBlank c = false) (rest begun : List Char) :
    words.go (word ++ rest) begun = words.go rest (word.reverse ++ begun) := by
  induction word generalizing begun with
  | nil => rfl
  | cons c word ih =>
    obtain ⟨first, others⟩ := List.forall_mem_cons.mp solid
    rw [List.cons_append, words.go, first]
    simpa using ih others (c :: begun)

theorem words_intercalate {parts : List (List Char)} (solid : ∀ word ∈ parts, IsSolid word) :
    words ([' '].intercalate parts) = parts := by
  induction parts with
  | nil => rfl
  | cons word parts ih =>
    obtain ⟨⟨some_character, plain⟩, others⟩ := List.forall_mem_cons.mp solid
    cases parts with
    | nil =>
      have alone := words_go_solid plain [] []
      simp only [List.append_nil] at alone
      rw [List.intercalate_singleton, words, alone, words.go]
      simp [some_character]
    | cons next parts =>
      have blank : isBlank ' ' = true := by decide
      rw [List.intercalate_cons_cons, List.append_assoc, words, words_go_solid plain, List.singleton_append, words.go]
      simp only [blank, List.append_nil]
      rw [← words, ih others]
      simp [some_character]

end Text

theorem normalizeName_eq_iff {first second : String} :
    normalizeName first = normalizeName second ↔ SameName first second := by
  have parts (name : String) :
      Text.words (normalizeName name).toList = Text.words (Text.lower (Text.trim name.toList)) := by
    have joined : (normalizeName name).toList =
        [' '].intercalate (Text.words (Text.lower (Text.trim name.toList))) := by
      simp [normalizeName, String.toList_intercalate, Function.comp_def]
    rw [joined, Text.words_intercalate fun _ member => Text.isSolid_of_mem_words member]
  constructor
  · intro same
    rw [SameName, ← parts first, ← parts second, same]
  · intro same
    rw [normalizeName, normalizeName, same]

namespace Snapshot

theorem get?_labelsOf (form : Form) (key : String) :
    Fields.get? (labelsOf form) key =
      (form.fields.find? fun entry => normalizeName entry.2.displayName = key).map (·.2.id) := by
  rw [labelsOf, Fields.get?_foldl_setDefault fun entry : String × Field => normalizeName entry.2.displayName]
  rfl

/-- An index of forms: each name belongs to the first form that has it, and each form has the index of its labels. -/
structure NameIndex.Indexes (index : NameIndex) (forms : List Form) : Prop where
  tables : ∀ key, Fields.get? index.tables key = (forms.find? (normalizeName ·.name = key)).map (·.id)
  labels : ∀ table, Fields.get? index.labels table = (forms.find? (·.id = table)).map labelsOf

theorem NameIndex.Indexes.add {index : NameIndex} {forms : List Form} (indexed : index.Indexes forms) {form : Form}
    (fresh : form.id ∉ forms.map (·.id)) : (index.add form).Indexes (forms ++ [form]) := by
  constructor
  case tables =>
    intro key
    rw [NameIndex.add, Fields.get?_setDefault, indexed.tables, List.find?_append]
    by_cases same : normalizeName form.name = key <;> simp [same]
  case labels =>
    intro table
    rw [NameIndex.add, List.find?_append]
    by_cases same : form.id = table
    · have unknown : forms.find? (·.id = table) = none := by
        rw [List.find?_eq_none]
        intro other member
        simpa using fun twice : other.id = table => fresh (same ▸ twice ▸ List.mem_map_of_mem member)
      simp [unknown, same]
    · simp [same, Fields.get?_set_of_ne, indexed.labels]

theorem indexes_nameIndex {forms : List Form} (distinct : (forms.map (·.id)).Nodup) :
    (nameIndex ⟨forms⟩).Indexes forms := by
  induction forms using List.reverseRecOn with
  | nil => exact ⟨fun _ => rfl, fun _ => rfl⟩
  | append_singleton forms form ih =>
    rw [List.map_append, List.map_singleton, List.nodup_append] at distinct
    obtain ⟨others, -, apart⟩ := distinct
    have fresh : form.id ∉ forms.map (·.id) := fun member => apart _ member _ (List.mem_singleton_self _) rfl
    have step : nameIndex ⟨forms ++ [form]⟩ = (nameIndex ⟨forms⟩).add form := List.foldl_concat ..
    rw [step]
    exact (ih others).add fresh

theorem repeated?_eq_none {seen : List String} {forms : List Form} :
    repeated? seen forms = none ↔ (forms.map (·.id)).Nodup ∧ ∀ form ∈ forms, form.id ∉ seen := by
  induction forms generalizing seen with
  | nil => simp [repeated?]
  | cons form forms ih =>
    rw [repeated?, List.map_cons, List.nodup_cons, List.forall_mem_cons]
    by_cases known : form.id ∈ seen
    · simp [known]
    · simp only [known, if_false, ih, List.mem_cons, not_or, forall_and, List.mem_map, not_exists, not_and]
      tauto

theorem ofForms_of_distinct {forms : List Form} (distinct : (forms.map (·.id)).Nodup) :
    ofForms forms = .ok ⟨forms⟩ := by
  have none : repeated? [] forms = none := repeated?_eq_none.mpr ⟨distinct, by simp⟩
  rw [ofForms, none]

end Snapshot

/-- A form that was read from a stored structure, or that is made of column names. -/
inductive Form.Made : Form → Prop
  | stored {id name structure_ : Value} {form : Form} (read : (Form.ofStructure id name structure_).form = .ok form) :
    Made form
  | listed (id : String) (columns : List String) : Made (Form.ofColumns id columns)

theorem Form.Made.keyed {form : Form} (made : form.Made) : ∀ entry ∈ form.fields, entry.1 = entry.2.id := by
  cases made with
  | stored read => exact Form.keyed_of_read read
  | listed id columns =>
    intro entry member
    obtain ⟨column, -, rfl⟩ := List.mem_map.mp ((Fields.ofPairs_fields _).2 entry member)
    rfl

namespace Snapshot

/-- Lookups by display name in the schema of some forms. -/
structure FindsFirst (snapshot : Snapshot) (forms : List Form) : Prop where
  /-- A name finds the first form that has it, in the order of the schema. -/
  table : ∀ name id, snapshot.tableByName name = some id ↔ ∃ before form behind, forms = before ++ form :: behind ∧
    form.id = id ∧ SameName form.name name ∧ ∀ earlier ∈ before, ¬SameName earlier.name name
  noTable : ∀ name, snapshot.tableByName name = none ↔ ∀ form ∈ forms, ¬SameName form.name name
  /-- A label finds the first field of the form that has it, in the order of the fields. -/
  column : ∀ table label id, snapshot.columnByLabel table label = some id ↔
    ∃ form ∈ forms, form.id = table ∧ ∃ before key field behind, form.fields = before ++ (key, field) :: behind ∧
      field.id = id ∧ SameName field.displayName label ∧ ∀ earlier ∈ before, ¬SameName earlier.2.displayName label
  noColumn : ∀ table label, snapshot.columnByLabel table label = none ↔
    ∀ form ∈ forms, form.id = table → ∀ entry ∈ form.fields, ¬SameName entry.2.displayName label
  /-- What is found is known to the schema. -/
  hasTable : ∀ name id, snapshot.tableByName name = some id → snapshot.hasTable id = true
  hasColumn : ∀ table label id, snapshot.columnByLabel table label = some id →
    snapshot.hasTable table = true ∧ snapshot.hasColumn table id = true
  /-- Names that are the same find the same. -/
  tableSame : ∀ name other, SameName name other → snapshot.tableByName name = snapshot.tableByName other
  columnSame : ∀ table label other, SameName label other →
    snapshot.columnByLabel table label = snapshot.columnByLabel table other

/-- Forms with distinct identifiers make a schema, and its lookups find the first match. -/
theorem find_first {forms : List Form} (made : ∀ form ∈ forms, form.Made) (distinct : (forms.map (·.id)).Nodup) :
    ∃ snapshot, ofForms forms = .ok snapshot ∧ snapshot.forms = forms ∧ snapshot.FindsFirst forms := by
  have indexed := indexes_nameIndex distinct
  refine ⟨⟨forms⟩, ofForms_of_distinct distinct, rfl, ?_⟩
  have table (name : String) : tableByName ⟨forms⟩ name =
      (forms.find? fun form => normalizeName form.name = normalizeName name).map (·.id) := indexed.tables _
  have column (table label : String) : columnByLabel ⟨forms⟩ table label =
      (forms.find? (·.id = table)).bind fun form =>
        (form.fields.find? fun entry => normalizeName entry.2.displayName = normalizeName label).map (·.2.id) := by
    rw [columnByLabel, indexed.labels]
    cases forms.find? (·.id = table) with
    | none => rfl
    | some form => exact get?_labelsOf form _
  constructor
  case table =>
    intro name id
    rw [table, find?_map_eq_some_iff]
    simp only [decide_eq_true_eq, normalizeName_eq_iff]
  case noTable =>
    intro name
    rw [table]
    simp [normalizeName_eq_iff]
  case column =>
    intro form label id
    rw [column, Option.bind_eq_some_iff]
    simp only [find?_key_eq_some distinct, find?_map_eq_some_iff, decide_eq_true_eq, normalizeName_eq_iff, Prod.exists,
      and_assoc]
  case noColumn =>
    intro form label
    rw [column, Option.bind_eq_none_iff]
    simp only [find?_key_eq_some distinct, Option.map_eq_none_iff, List.find?_eq_none, decide_eq_true_eq,
      normalizeName_eq_iff, and_imp]
  case hasTable =>
    intro name id found
    rw [table, find?_map_eq_some_iff] at found
    obtain ⟨before, form, behind, rfl, own, -⟩ := found
    exact List.find?_isSome.mpr ⟨form, by simp, by simpa using own⟩
  case hasColumn =>
    intro name label id found
    rw [column, Option.bind_eq_some_iff] at found
    obtain ⟨form, known, found⟩ := found
    obtain ⟨before, entry, behind, parts, own, -⟩ := find?_map_eq_some_iff.mp found
    have inside : entry ∈ form.fields := by simp [parts]
    have keyed : entry.1 = id := ((made form (find?_key_eq_some distinct |>.mp known).1).keyed entry inside).trans own
    constructor
    · rw [hasTable, form?, known]
      rfl
    · have listed : id ∈ form.columns := keyed ▸ List.mem_map_of_mem inside
      rw [hasColumn, form?, known]
      simpa [Form.hasColumn] using listed
  case tableSame =>
    intro name other same
    rw [table, table, normalizeName_eq_iff.mpr same]
  case columnSame =>
    intro form label other same
    rw [column, column, normalizeName_eq_iff.mpr same]

theorem find_first_collisions :
    let labels : List (String × Field) :=
      [("c1", ⟨"c1", "Total", "text", false⟩), ("c2", ⟨"c2", "TOTAL ", "text", true⟩)]
    let forms : List Form := [⟨"f1", " Order  Form", labels⟩, ⟨"f2", "order form", []⟩, .ofColumns "f3" ["a", "b", "a"]]
    (∀ form ∈ forms, form.Made) ∧ (forms.map (·.id)).Nodup ∧ ∃ snapshot, ofForms forms = .ok snapshot ∧
      snapshot.tableByName "ORDER\tform " = some "f1" ∧ snapshot.tableByName "orders" = none ∧
      snapshot.columnByLabel "f1" "total" = some "c1" ∧ snapshot.columnByLabel "f0" "total" = none := by
  intro labels forms
  let entries : List Value := [.record [("id", .text "c1"), ("label", .text "Total")],
    .record [("id", .text "c2"), ("label", .text "TOTAL "), ("required", .bool true)]]
  have first : (Form.ofStructure (.text "f1") (.text " Order  Form") (.record [("fields", .list entries)])).form =
    .ok ⟨"f1", " Order  Form", labels⟩ := rfl
  have second : (Form.ofStructure (.text "f2") (.text "order form") .null).form = .ok ⟨"f2", "order form", []⟩ := rfl
  have made : ∀ form ∈ forms, form.Made := by
    simp only [forms, List.forall_mem_cons]
    exact ⟨.stored first, .stored second, .listed .., by simp⟩
  have distinct : (forms.map (·.id)).Nodup := by decide
  obtain ⟨snapshot, built, -, finds⟩ := find_first made distinct
  refine ⟨made, distinct, snapshot, built, ?_, ?_, ?_, ?_⟩
  · exact (finds.table _ _).mpr ⟨[], _, _, rfl, rfl, by decide +kernel, by simp⟩
  · exact (finds.noTable _).mpr (by decide +kernel)
  · exact (finds.column _ _ _).mpr ⟨_, List.mem_cons_self, rfl, [], _, _, _, rfl, rfl, by decide +kernel, by simp⟩
  · refine (finds.noColumn _ _).mpr fun form member own => ?_
    have known : ∀ form ∈ forms, form.id ≠ "f0" := by decide
    exact absurd own (known form member)

end Snapshot

end FormQuery
