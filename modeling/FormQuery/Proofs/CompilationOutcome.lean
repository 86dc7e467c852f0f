import FormQuery.Compilation
import FormQuery.Proofs.GeneratedSql

/-! How the compilation of a text ends. In a layout that has the system columns, the SQL of a well-formed query always
exists, so every text ends in one of three ways: it is no query, its references are wrong, or it has SQL. -/

namespace FormQuery

namespace Layout

/-- Every system column of the language has a column behind it. -/
def Complete (layout : Layout) : Prop :=
  ∀ name ∈ FormQuery.pseudoColumns.map Prod.fst, (Fields.get? layout.pseudoColumns name).isSome

instance (layout : Layout) : Decidable layout.Complete := inferInstanceAs (Decidable (∀ name ∈ _, _))

theorem physical_succeeds {layout : Layout} (complete : layout.Complete) {name : String}
    (known : name ∈ FormQuery.pseudoColumns.map Prod.fst) : ∃ column, layout.physical name = .ok column := by
  obtain ⟨column, found⟩ := Option.isSome_iff_exists.mp (complete name known)
  exact ⟨column, by rw [physical, found]⟩

end Layout

namespace Sql

open Piece

variable {layout : Layout}

section Complete

variable (complete : layout.Complete)

include complete

theorem column_succeeds {ref : ColumnRef} (valid : ref.WellFormed) : ∃ sql, column ref layout = .ok sql := by
  unfold column
  split
  next pseudo =>
    obtain ⟨physical, found⟩ := Layout.physical_succeeds complete (valid pseudo)
    exact ⟨_, bind_ok found _⟩
  next => exact ⟨_, rfl⟩

theorem condition_succeeds {wanted : Condition} (valid : wanted.WellFormed) :
    ∃ sql, condition layout wanted = .ok sql := by
  obtain ⟨plain, found⟩ := column_succeeds complete valid.column
  exact ⟨_, bind_ok found _⟩

theorem chain_succeeds {rest : List (Connector × Condition)} (valid : ∀ link ∈ rest, link.2.WellFormed) (first : Sql) :
    ∃ sql, chain layout first rest = .ok sql := by
  induction rest generalizing first with
  | nil => exact ⟨first, rfl⟩
  | cons link rest ih =>
    obtain ⟨known, others⟩ := List.forall_mem_cons.mp valid
    obtain ⟨next, found⟩ := condition_succeeds complete known
    obtain ⟨sql, ran⟩ := ih others _
    exact ⟨sql, (bind_ok found _).trans ran⟩

theorem filter_succeeds {wanted : Filter} (valid : wanted.WellFormed) :
    ∃ conditions, filter layout wanted = .ok conditions := by
  cases wanted with
  | all => exact ⟨[], rfl⟩
  | empty => cases valid
  | chain first rest =>
    obtain ⟨start, found⟩ := condition_succeeds complete valid.1
    obtain ⟨sql, chained⟩ := chain_succeeds complete (fun link member => (valid.2 link member).2) start
    exact ⟨[sql], by rw [filter, bind_ok found, bind_ok chained]; rfl⟩

theorem aggregate_succeeds {call : AggregateCall} (valid : call.WellFormed) :
    ∃ sql, aggregate call layout = .ok sql := by
  unfold aggregate
  split
  next => exact ⟨_, rfl⟩
  next ref shown =>
    obtain ⟨plain, found⟩ := column_succeeds complete (valid.argument ref shown)
    rw [bind_ok found]
    simp only
    split <;> exact ⟨_, rfl⟩

theorem selectItem_succeeds {item : SelectItem} (valid : item.expr.WellFormed) :
    ∃ sql, selectItem layout item = .ok sql := by
  unfold selectItem
  split
  next call shown =>
    rw [shown] at valid
    obtain ⟨summary, found⟩ := aggregate_succeeds complete valid
    exact ⟨_, bind_ok found _⟩
  next ref shown =>
    rw [shown] at valid
    obtain ⟨plain, found⟩ := column_succeeds complete valid
    rw [bind_ok found]
    split <;> exact ⟨_, rfl⟩

theorem select_succeeds {wanted : Select} (valid : wanted.WellFormed) : ∃ sql, select layout wanted = .ok sql := by
  have listed : ∃ columns, resultColumns layout wanted = .ok columns := by
    unfold resultColumns
    split
    · exact ⟨_, rfl⟩
    · exact mapM_succeeds fun item member => selectItem_succeeds complete (valid.items item member)
  have grouped : ∃ keys, groupKeys layout wanted = .ok keys := by
    unfold groupKeys
    split
    · exact mapM_succeeds fun ref member => column_succeeds complete (valid.column member)
    · exact ⟨[], rfl⟩
  obtain ⟨columns, listed⟩ := listed
  obtain ⟨conditions, filtered⟩ := filter_succeeds complete valid.filter
  obtain ⟨keys, grouped⟩ := grouped
  exact ⟨_, select_eq_ok.mpr ⟨columns, conditions, keys, listed, filtered, grouped, rfl⟩⟩

end Complete

theorem call_succeeds {function : StringFunction} {arguments : List Sql}
    (accepted : function.accepts arguments.length = true) : ∃ sql, call function arguments = .ok sql := by
  unfold call
  split
  · exact ⟨_, rfl⟩
  · exact ⟨_, rfl⟩
  next short =>
    cases arguments with
    | nil => cases accepted
    | cons text rest =>
      cases rest with
      | nil => cases accepted
      | cons start rest => exact absurd rfl (short text start rest)
  · exact ⟨_, rfl⟩

mutual
theorem value_succeeds {expr : ValueExpr} (valid : expr.WellFormed) : ∃ sql, value layout expr = .ok sql := by
  cases expr with
  | literal constant => exact ⟨_, rfl⟩
  | field ref =>
    rw [ValueExpr.WellFormed] at valid
    exact ⟨_, bind_ok (plain_column ref valid) _⟩
  | call callee arguments position =>
    rw [ValueExpr.WellFormed] at valid
    obtain ⟨⟨function, named, accepted⟩, known⟩ := valid
    obtain ⟨shown, found, same⟩ := values_succeed known
    rw [value, StringFunction.find?_of_ofName? named]
    simp only [bind_ok found]
    exact call_succeeds (same ▸ accepted)
  | foreign kind => simp [ValueExpr.WellFormed] at valid

theorem values_succeed {arguments : List ValueExpr} (valid : ValueExpr.AllWellFormed arguments) :
    ∃ shown, values layout arguments = .ok shown ∧ shown.length = arguments.length := by
  cases arguments with
  | nil => exact ⟨[], rfl, rfl⟩
  | cons argument rest =>
    rw [ValueExpr.AllWellFormed] at valid
    obtain ⟨first, found⟩ := value_succeeds valid.1
    obtain ⟨others, known, same⟩ := values_succeed valid.2
    refine ⟨first :: others, ?_, by simp [same]⟩
    rw [values, bind_ok found, bind_ok known]
    rfl
end

theorem newValue_succeeds {expr : ValueExpr} (valid : expr.WellFormed) : ∃ sql, newValue layout expr = .ok sql := by
  unfold newValue
  split
  · exact ⟨_, rfl⟩
  · obtain ⟨shown, found⟩ := value_succeeds valid
    exact ⟨_, bind_ok found _⟩

theorem update_succeeds (complete : layout.Complete) {change : Update} (valid : change.WellFormed) :
    ∃ sql, update layout change = .ok sql := by
  obtain ⟨assigned, found⟩ := newValue_succeeds valid.value
  obtain ⟨rowId, known⟩ : ∃ column, layout.physical "submission_id" = .ok column :=
    Layout.physical_succeeds complete (by decide)
  exact ⟨_, by rw [update, bind_ok found, Layout.rowIdColumn, bind_ok known]; rfl⟩

/-- A well-formed query has SQL in every layout that has the system columns. -/
theorem ofQuery_succeeds (complete : layout.Complete) {query : Query} (valid : query.WellFormed) :
    ∃ sql, ofQuery layout query = .ok sql := by
  cases query with
  | select wanted => exact select_succeeds complete valid
  | update change => exact update_succeeds complete valid

end Sql

def Diagnostic.OfColumn (finding : Diagnostic) : Prop := finding.kind = .unknownColumn ∨ finding.kind = .unsupported

theorem Query.systemFindings_unsupported (query : Query) :
    ∀ finding ∈ query.systemFindings, finding.kind = .unsupported := by
  intro finding member
  cases query with
  | select wanted =>
    obtain ⟨call, _, found⟩ := List.mem_filterMap.mp member
    unfold aggregateFinding? at found
    split at found
    · cases found
    · split at found
      · cases found
        rfl
      · cases found
  | update change =>
    have found : targetFinding? change.target = some finding := by simpa [systemFindings] using member
    unfold targetFinding? at found
    split at found
    · cases found
      rfl
    · cases found

/-- An unknown form hides everything else; in a known one all findings are about columns. -/
theorem Query.check_cases (query : Query) (schema : Snapshot) :
    (∃ finding, query.check schema = [finding] ∧ finding.kind = .unknownTable) ∨
      ∀ finding ∈ query.check schema, finding.OfColumn := by
  simp only [check]
  split
  · refine Or.inr fun finding member => ?_
    rcases List.mem_append.mp member with member | member
    · obtain ⟨ref, _, found⟩ := List.mem_filterMap.mp member
      unfold columnFinding? at found
      split at found
      · cases found
      · cases found
        exact Or.inl rfl
    · exact Or.inr (query.systemFindings_unsupported finding member)
  · exact Or.inl ⟨_, rfl, rfl⟩

theorem Compilation.parts_of_ofQuery {query other : Query} {schema : Snapshot} {layout : Layout} {sql : Sql}
    (ran : Compilation.ofQuery query schema layout = .ok (.compiled other sql)) :
    other = query ∧ query.check schema = [] ∧ Sql.ofQuery layout query = .ok sql := by
  unfold ofQuery at ran
  split at ran
  next => cases ran
  next clean =>
    cases written : Sql.ofQuery layout query with
    | error fault => simp [written, Except.map] at ran
    | ok text =>
      simp only [written, Except.map, Except.ok.injEq, Compilation.compiled.injEq] at ran
      obtain ⟨rfl, rfl⟩ := ran
      exact ⟨rfl, clean, rfl⟩

namespace Compilation

/-- The text is no query, for one reason. -/
structure Refused (compilation : Compilation) : Prop where
  query : compilation.query? = none
  sql : compilation.sql? = none
  finding : ∃ finding, compilation.diagnostics = [finding] ∧ (finding.kind = .malformed ∨ finding.kind = .unsupported)

/-- The references of the query are wrong. An unknown form is the only thing that is found then. -/
structure Faulty (compilation : Compilation) : Prop where
  query : compilation.query?.isSome
  sql : compilation.sql? = none
  found : compilation.diagnostics ≠ []
  kinds : ∀ finding ∈ compilation.diagnostics,
    finding.kind = .unknownTable ∨ finding.kind = .unknownColumn ∨ finding.kind = .unsupported
  alone : ∀ finding ∈ compilation.diagnostics, finding.kind = .unknownTable → compilation.diagnostics = [finding]

/-- Nothing was found, and there is SQL. -/
structure Finished (compilation : Compilation) : Prop where
  query : compilation.query?.isSome
  sql : compilation.sql?.isSome
  clean : compilation.diagnostics = []
  ok : compilation.ok = true

def ExactlyOne (first second third : Prop) : Prop :=
  (first ∧ ¬second ∧ ¬third) ∨ (¬first ∧ second ∧ ¬third) ∨ (¬first ∧ ¬second ∧ third)

variable {compilation : Compilation}

theorem Refused.only (refused : compilation.Refused) :
    ExactlyOne compilation.Refused compilation.Faulty compilation.Finished := by
  refine Or.inl ⟨refused, fun faulty => ?_, fun finished => ?_⟩
  · have query := faulty.query
    simp [refused.query] at query
  · have query := finished.query
    simp [refused.query] at query

theorem Faulty.only (faulty : compilation.Faulty) :
    ExactlyOne compilation.Refused compilation.Faulty compilation.Finished := by
  refine Or.inr (Or.inl ⟨fun refused => ?_, faulty, fun finished => faulty.found finished.clean⟩)
  have query := faulty.query
  simp [refused.query] at query

theorem Finished.only (finished : compilation.Finished) :
    ExactlyOne compilation.Refused compilation.Faulty compilation.Finished := by
  refine Or.inr (Or.inr ⟨fun refused => ?_, fun faulty => faulty.found finished.clean, finished⟩)
  have query := finished.query
  simp [refused.query] at query

theorem refused_unread (reason : String) : (unread reason).Refused := ⟨rfl, rfl, _, rfl, Or.inl rfl⟩

theorem refused_rejected (error : SyntaxError) : (rejected error).Refused := by
  refine ⟨rfl, rfl, _, rfl, ?_⟩
  have each (cause : SyntaxCause) : cause.kind = .malformed ∨ cause.kind = .unsupported := by
    cases cause <;> simp [SyntaxCause.kind]
  exact each error.cause

theorem faulty_invalid {query : Query} {schema : Snapshot} {first : Diagnostic} {rest : List Diagnostic}
    (found : query.check schema = first :: rest) : (invalid query first rest).Faulty := by
  refine ⟨rfl, rfl, by simp [diagnostics], ?_, ?_⟩
  all_goals
    simp only [diagnostics]
    rw [← found]
    intro finding member
  · rcases query.check_cases schema with ⟨only, alone, kind⟩ | columns
    · obtain rfl : finding = only := by simpa [alone] using member
      exact Or.inl kind
    · exact Or.inr (columns finding member)
  · intro unknown
    rcases query.check_cases schema with ⟨only, alone, kind⟩ | columns
    · obtain rfl : finding = only := by simpa [alone] using member
      exact alone
    · rcases columns finding member with kind | kind <;> simp [unknown] at kind

theorem finished_compiled (query : Query) (sql : Sql) : (compiled query sql).Finished := ⟨rfl, rfl, rfl, rfl⟩

end Compilation

/-- Compiling a text in a layout with the system columns ends in exactly one of three ways. There is a query when the
text is read as one, and what is found then is what the check of its references finds. No rejection is an accident of
reading: tokens never run out, and a number is malformed only in a text that no machine holds. -/
theorem QuerySource.compile_ends (source : String) (schema : Snapshot) {layout : Layout} (complete : layout.Complete) :
    ∃ compilation, (QuerySource.text source).compile schema layout = .ok compilation ∧
      Compilation.ExactlyOne compilation.Refused compilation.Faulty compilation.Finished ∧
      compilation.query? = (Query.read source).query? ∧
      (∀ query ∈ compilation.query?, compilation.diagnostics = query.check schema) ∧
      ∀ error, compilation = .rejected error →
        error.cause ≠ .noTokens ∧ (error.cause = .malformedNumber → 10 ^ 18 < source.toList.length) := by
  have known := Query.read_known source
  cases read : Query.read source with
  | refused reason =>
    refine ⟨.unread reason, by simp [compile, QuerySource.read, read], (Compilation.refused_unread reason).only, rfl,
      ?_, ?_⟩
    · exact fun query found => by cases found
    · exact fun error same => by cases same
  | rejected error =>
    rw [read] at known
    cases known with
    | rejected told =>
      refine ⟨.rejected error, by simp [compile, QuerySource.read, read],
        (Compilation.refused_rejected error).only, rfl, ?_, ?_⟩
      · exact fun query found => by cases found
      · rintro _ ⟨⟩
        exact told
  | accepted query =>
    rw [read] at known
    cases known with
    | accepted valid =>
      have compiled : (QuerySource.text source).compile schema layout = Compilation.ofQuery query schema layout := by
        simp [compile, QuerySource.read, read]
      rw [compiled, Compilation.ofQuery]
      cases found : query.check schema with
      | nil =>
        obtain ⟨sql, written⟩ := Sql.ofQuery_succeeds complete valid
        refine ⟨.compiled query sql, by simp [written, Except.map], (Compilation.finished_compiled query sql).only, rfl,
          ?_, ?_⟩
        · rintro _ ⟨⟩
          exact found.symm
        · exact fun error same => by cases same
      | cons first rest =>
        refine ⟨.invalid query first rest, rfl, (Compilation.faulty_invalid found).only, rfl, ?_, ?_⟩
        · rintro _ ⟨⟩
          exact found.symm
        · exact fun error same => by cases same

/-- The standard layout has the system columns, so a deletion that no form is needed for ends as well. -/
theorem QuerySource.compile_ends_deletion :
    ({} : Layout).Complete ∧
      ∃ compilation, (QuerySource.text "DELETE FROM 'f'").compile ⟨[]⟩ {} = .ok compilation ∧
        Compilation.ExactlyOne compilation.Refused compilation.Faulty compilation.Finished ∧
        compilation.query? = (Query.read "DELETE FROM 'f'").query? ∧
        (∀ query ∈ compilation.query?, compilation.diagnostics = query.check ⟨[]⟩) ∧
        ∀ error, compilation = .rejected error →
          error.cause ≠ .noTokens ∧ (error.cause = .malformedNumber → 10 ^ 18 < "DELETE FROM 'f'".toList.length) :=
  ⟨by decide, QuerySource.compile_ends "DELETE FROM 'f'" ⟨[]⟩ (by decide)⟩

end FormQuery
