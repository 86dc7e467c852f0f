import FormQuery.Proofs.CompilationOutcome
import FormQuery.Proofs.DocumentKeys
import FormQuery.Proofs.SourceOrder
import FormQuery.Query.Mentions

/-! The check of references is exact, and it covers what the generator writes. What is found are the fields that a query
mentions and its form does not have; so SQL is about fields of the form only. -/

namespace FormQuery

open Sql

variable {schema : Snapshot} {layout : Layout} {query : Query}

def ColumnRef.unknownIn (table : String) (ref : ColumnRef) : Diagnostic :=
  ⟨.unknownColumn, s!"Unknown field {Text.quoted ref.name} in form {Text.quoted table}", ref.position⟩

namespace Query

def Missing (schema : Snapshot) (table : String) (ref : ColumnRef) : Prop :=
  ref.pseudo = false ∧ schema.hasColumn table ref.name = false

instance (schema : Snapshot) (table : String) : DecidablePred (Missing schema table) :=
  fun _ => inferInstanceAs (Decidable (_ ∧ _))

/-- The fields that are not there, in the order of their positions; an unknown form is all that is found. -/
structure ExactlyChecked (query : Query) (schema : Snapshot) : Prop where
  unknown : schema.hasTable query.table.name = false →
    query.check schema = [⟨.unknownTable, s!"Unknown form {Text.quoted query.table.name}", query.table.position⟩]
  known : schema.hasTable query.table.name = true → ∃ refs : List ColumnRef,
    refs.Pairwise (·.position < ·.position) ∧
    (∀ ref, ref ∈ refs ↔ query.Mentions ref ∧ Missing schema query.table.name ref) ∧
    (query.check schema).filter (·.kind = .unknownColumn) = refs.map (ColumnRef.unknownIn query.table.name)

/-- The keys in SQL are the fields that a query mentions, and the form that the SQL is about has them all. -/
structure Covered (query : Query) (schema : Snapshot) (layout : Layout) (marks : List Mark) : Prop where
  table : filteredTable? layout marks = some query.table.name
  keys : ∀ key, key ∈ documentKeys marks ↔ ∃ ref, query.Mentions ref ∧ ref.pseudo = false ∧ ref.name = key
  known : ∀ table, filteredTable? layout marks = some table →
    ∀ key ∈ documentKeys marks, schema.hasColumn table key = true

theorem columnFinding?_of_missing {table : String} {ref : ColumnRef} (missing : Missing schema table ref) :
    columnFinding? schema table ref = some (ref.unknownIn table) := by
  rw [columnFinding?, missing.1, missing.2]
  rfl

theorem columnFinding?_of_present {table : String} {ref : ColumnRef} (present : ¬Missing schema table ref) :
    columnFinding? schema table ref = none := by
  rw [columnFinding?, if_pos]
  by_contra absent
  apply present
  rwa [Bool.not_eq_true, Bool.or_eq_false_iff] at absent

theorem columnFindings_eq (schema : Snapshot) (table : String) (refs : List ColumnRef) :
    refs.filterMap (columnFinding? schema table) =
      (refs.filter fun ref => Missing schema table ref).map (ColumnRef.unknownIn table) := by
  induction refs with
  | nil => rfl
  | cons ref rest ih =>
    by_cases missing : Missing schema table ref
    · simp [columnFinding?_of_missing missing, missing, ih]
    · simp [columnFinding?_of_present missing, missing, ih]

theorem check_of_known (known : schema.hasTable query.table.name = true) : query.check schema =
    (query.columnRefs.filter fun ref => Missing schema query.table.name ref).map (ColumnRef.unknownIn query.table.name) ++
      query.systemFindings := by
  rw [check, known, if_pos rfl, columnFindings_eq]

theorem check_exact (ordered : query.columnRefs.Pairwise (·.position < ·.position)) (schema : Snapshot) :
    query.ExactlyChecked schema := by
  constructor
  · intro unknown
    rw [check, unknown]
    rfl
  · intro known
    refine ⟨query.columnRefs.filter fun ref => Missing schema query.table.name ref, ordered.filter _, ?_, ?_⟩
    · intro ref
      rw [List.mem_filter, mem_columnRefs, decide_eq_true_iff]
    · have others : query.systemFindings.filter (·.kind = .unknownColumn) = [] := by
        rw [List.filter_eq_nil_iff]
        intro finding member
        rw [query.systemFindings_unsupported finding member]
        decide
      rw [check_of_known known, List.filter_append, others, List.append_nil, List.filter_eq_self]
      intro finding member
      obtain ⟨ref, _, rfl⟩ := List.mem_map.mp member
      rfl

theorem hasColumn_of_clean (clean : query.check schema = []) {ref : ColumnRef} (mentions : query.Mentions ref)
    (plain : ref.pseudo = false) : schema.hasColumn query.table.name ref.name = true := by
  by_contra absent
  have missing : Missing schema query.table.name ref := ⟨plain, Bool.eq_false_iff.mpr absent⟩
  cases known : schema.hasTable query.table.name with
  | false =>
    rw [check, known] at clean
    cases clean
  | true =>
    rw [check_of_known known, List.append_eq_nil_iff, List.map_eq_nil_iff, List.filter_eq_nil_iff] at clean
    exact clean.1 ref (mem_columnRefs.mpr mentions) (decide_eq_true missing)

theorem covered_of_clean (valid : query.WellFormed) (clean : query.check schema = []) {sql : Sql}
    (ran : Sql.ofQuery layout query = .ok sql) : query.Covered schema layout sql.marks := by
  have table := filteredTable?_eq valid ran
  have keys (key : String) :
      key ∈ documentKeys sql.marks ↔ ∃ ref, query.Mentions ref ∧ ref.pseudo = false ∧ ref.name = key := by
    rw [mem_documentKeys valid ran, mem_fieldNames]
    simp only [mem_columnRefs]
  refine ⟨table, keys, ?_⟩
  intro named same key member
  obtain rfl : query.table.name = named := Option.some.inj (table.symm.trans same)
  obtain ⟨ref, mentions, plain, rfl⟩ := (keys key).mp member
  exact hasColumn_of_clean clean mentions plain

/-- The check of a query that is read from a text is exact, and its SQL is covered by the check in every layout. The
text of the SQL has the parts that this is about where the names of the layout hold no quotes. -/
theorem check_covers_sql {source : String} {query : Query} (read : Query.read source = .accepted query)
    (schema : Snapshot) :
    query.ExactlyChecked schema ∧
      ∀ layout sql, (QuerySource.text source).compile schema layout = .ok (.compiled query sql) →
        query.Covered schema layout sql.marks ∧
          ((∀ name ∈ layout.names, (Piece.name name).isClean) → scan sql.text = some sql.marks) := by
  have valid := Query.wellFormed_of_read read
  refine ⟨check_exact (columnRefs_ordered read) schema, ?_⟩
  intro layout sql compiled
  simp only [QuerySource.compile, QuerySource.read, read] at compiled
  obtain ⟨-, clean, ran⟩ := Compilation.parts_of_ofQuery compiled
  refine ⟨covered_of_clean valid clean ran, ?_⟩
  intro named
  exact scan_marks_ofQuery named valid ran

example :
    (match (QuerySource.text "SELECT FIELD('a'), SUM(FIELD('b')) FROM 'f' WHERE FIELD('c') > 1").compile
        ⟨[Form.ofColumns "f" ["a", "b", "c"]]⟩ {} with
      | .ok (.compiled _ sql) => (filteredTable? {} sql.marks, documentKeys sql.marks)
      | _ => (none, [])) = (some "f", ["a", "b", "b", "c", "c", "a"]) := by decide +kernel

private theorem accepted_of_isSome {source : String} (shown : (Query.read source).query?.isSome = true) :
    ∃ query, Query.read source = .accepted query := by
  cases read : Query.read source with
  | accepted query => exact ⟨query, rfl⟩
  | refused reason | rejected error =>
    rw [read] at shown
    cases shown

/-- Nested functions, which the two traversals have to follow alike. -/
theorem check_covers_sql_nested : ∃ query,
    Query.read "UPDATE FORM 'f' SET FIELD('a') = TRIM(UPPER(FIELD('b'))) WHERE submission_id = 'r'" =
        .accepted query ∧
      ∀ schema, query.ExactlyChecked schema ∧
        ∀ layout sql, (QuerySource.text
            "UPDATE FORM 'f' SET FIELD('a') = TRIM(UPPER(FIELD('b'))) WHERE submission_id = 'r'").compile
              schema layout = .ok (.compiled query sql) →
          query.Covered schema layout sql.marks ∧
            ((∀ name ∈ layout.names, (Piece.name name).isClean) → scan sql.text = some sql.marks) := by
  obtain ⟨query, read⟩ := accepted_of_isSome (by decide +kernel : (Query.read
    "UPDATE FORM 'f' SET FIELD('a') = TRIM(UPPER(FIELD('b'))) WHERE submission_id = 'r'").query?.isSome =
      true)
  exact ⟨query, read, check_covers_sql read⟩

end Query

end FormQuery
