import FormQuery.Proofs.FilterAgreement
import FormQuery.Proofs.OperationReading
import FormQuery.Proofs.UpdatePaths
import FormQuery.Query.Mentions

/-! Missing values in the new value of an UPDATE. A database makes NULL of a call with a NULL among its arguments,
unless CONCAT is called; a sample never makes null of a call. So the two agree on literals, on fields by themselves, and
wherever no field is missing. -/

namespace FormQuery

open Sql

namespace ValueExpr

variable {record : Record} {layout : Layout}

mutual
theorem missing_of_isNull {expr : ValueExpr} (valid : expr.WellFormed)
    (null : (expr.operation layout).isNull record = true) :
    ∃ ref, expr.Mentions ref ∧ extracted record layout.documentColumn ref.name = none := by
  cases expr with
  | literal constant => cases null
  | field ref => exact ⟨ref, .field ref, by simpa [operation, Operation.isNull] using null⟩
  | call name arguments position =>
    rw [WellFormed] at valid
    simp only [operation, Operation.isNull, Bool.and_eq_true] at null
    obtain ⟨argument, member, ref, inside, missing⟩ := missing_of_someNull valid.2 null.2
    exact ⟨ref, .argument member inside, missing⟩
  | foreign kind => simp [WellFormed] at valid

theorem missing_of_someNull {arguments : List ValueExpr} (valid : AllWellFormed arguments)
    (null : Operation.someNull record (operations layout arguments) = true) :
    ∃ argument ∈ arguments, ∃ ref, argument.Mentions ref ∧ extracted record layout.documentColumn ref.name = none := by
  cases arguments with
  | nil => cases null
  | cons argument rest =>
    rw [AllWellFormed] at valid
    simp only [operations, Operation.someNull, Bool.or_eq_true] at null
    rcases null with own | others
    · exact ⟨argument, List.mem_cons_self, missing_of_isNull valid.1 own⟩
    · obtain ⟨other, member, missing⟩ := missing_of_someNull valid.2 others
      exact ⟨other, List.mem_cons_of_mem argument member, missing⟩
end

theorem missing_of_stored {expr : ValueExpr} (valid : expr.WellFormed)
    (null : (expr.stored layout).isNull record = true) :
    ∃ ref, expr.Mentions ref ∧ extracted record layout.documentColumn ref.name = none := by
  cases expr with
  | literal constant => cases null
  | field | call | foreign => exact missing_of_isNull valid null

end ValueExpr

namespace StringFunction

/-- Every function gives a text, and LENGTH a number. -/
theorem apply_ne_null {function : StringFunction} {arguments : List Value} {value : Value}
    (ran : function.apply arguments = .ok value) : value ≠ .null := by
  unfold apply at ran
  split at ran
  case h_1 | h_2 | h_8 | h_9 =>
    obtain ⟨counted, _, ran⟩ := ok_of_bind ran
    cases ran
    exact nofun
  case h_10 =>
    obtain ⟨start, _, ran⟩ := ok_of_bind ran
    obtain ⟨size, _, ran⟩ := ok_of_bind ran
    split at ran
    · cases ran
    · cases ran
      exact nofun
  case h_12 => cases ran
  all_goals
    cases ran
    exact nofun

end StringFunction

namespace ValueExpr

variable {record : Submission} {layout : Layout}

theorem fieldValue_eq {ref : ColumnRef} (field : ref.pseudo = false) {value : Value}
    (ran : fieldValue record layout ref = .ok value) : value = Record.cell layout record ref.name := by
  have source : extracted record layout.documentColumn ref.name =
      fieldText ((Fields.get? record layout.documentColumn).getD .null) ref.name := by
    unfold extracted
    cases Fields.get? record layout.documentColumn <;> rfl
  rw [Record.cell, source]
  rw [fieldValue, field, if_neg Bool.false_ne_true] at ran
  generalize (Fields.get? record layout.documentColumn).getD .null = held at ran
  cases held with
  | record document =>
    obtain ⟨text?, found, ran⟩ := ok_of_bind ran
    simp only [fieldText, found]
    cases text? <;> cases ran <;> rfl
  | null | bool | int | float | decimal | bytes | text | list =>
    simp only at ran
    split at ran
    · cases ran
    · cases ran
      rfl

theorem evaluate_null_iff {expr : ValueExpr} (valid : expr.WellFormed) {value : Value}
    (ran : expr.evaluate record layout = .ok value) : value = .null ↔
      (expr.operation layout).isNull record = true ∧ (expr.operation layout).isCall = false := by
  cases expr with
  | literal constant =>
    cases ran
    have typed : constant.value ≠ .null := by
      rw [WellFormed] at valid
      rcases valid with ⟨content, text, _⟩ | ⟨raw, number, _, _, _, decimal⟩
      · simp [text]
      · simp [decimal]
    simp [typed, operation, Operation.isNull]
  | field ref =>
    rw [WellFormed] at valid
    rw [evaluate] at ran
    rw [fieldValue_eq valid ran, Record.cell, operation]
    cases missing : extracted record layout.documentColumn ref.name <;>
      simp [Value.ofText?, Operation.isNull, Operation.isCall, missing]
  | call name arguments position =>
    rw [WellFormed] at valid
    obtain ⟨⟨function, named, _⟩, _⟩ := valid
    rw [evaluate, StringFunction.find?_of_ofName? named] at ran
    obtain ⟨values, _, ran⟩ := ok_of_bind ran
    simp [StringFunction.apply_ne_null ran, operation, Operation.isCall]
  | foreign kind => simp [WellFormed] at valid

end ValueExpr

namespace Update

variable {layout : Layout} {change : Update} {record : Submission}

theorem newValue_null_iff (valid : change.WellFormed) {value : Value}
    (ran : change.newValue record layout = .ok value) : value = .null ↔
      (change.value.stored layout).isNull record = true ∧ (change.value.stored layout).isCall = false := by
  unfold newValue at ran
  split at ran
  next constant typed =>
    cases ran
    rw [typed]
    simp [ValueExpr.stored, Operation.isNull]
  next computed =>
    obtain ⟨own, evaluated, ran⟩ := ok_of_bind ran
    rw [ValueExpr.stored_eq computed, ← ValueExpr.evaluate_null_iff valid.value evaluated]
    split at ran
    next =>
      cases ran
      simp
    next present =>
      cases ran
      have some_value : own ≠ .null := present
      simp [some_value]

def ReadableIn (change : Update) (layout : Layout) (record : Submission) : Prop :=
  ∀ ref, change.value.Mentions ref → ∃ value, ValueExpr.fieldValue record layout ref = .ok value

theorem exists_newValue (valid : change.WellFormed) (readable : change.ReadableIn layout record)
    (uncalled : (change.value.stored layout).isCall = false) : ∃ value, change.newValue record layout = .ok value := by
  have known := valid.value
  cases shape : change.value with
  | literal constant =>
    rw [newValue, shape]
    exact ⟨_, rfl⟩
  | field ref =>
    obtain ⟨own, found⟩ := readable ref (shape ▸ .field ref)
    have evaluated : (ValueExpr.field ref).evaluate record layout = .ok own := found
    rw [newValue, shape]
    simp only [bind_ok evaluated]
    split <;> exact ⟨_, rfl⟩
  | call name arguments position =>
    rw [shape] at uncalled
    cases uncalled
  | foreign kind =>
    rw [shape, ValueExpr.WellFormed] at known
    exact known.elim

/-- The new value in a database and in a sample. What the statement assigns is read as the value that the query has, and
so is its text where names and numbers are spelled as a database takes them. In a database it is NULL only where a field
that it mentions is missing. In a sample it is null where, in addition, no function is called: a call that is NULL in a
database is not null in a sample. -/
theorem newValue_nulls (valid : change.WellFormed) (layout : Layout) :
    let meant := change.value.stored layout
    (∃ assigned, Sql.newValue layout change.value = .ok assigned ∧
      Operation.ofSymbols assigned.symbols = some meant) ∧
    (layout.IsPlain → (∀ literal ∈ change.value.literals, literal.isNumber = true → literal.IsAscii) →
      ∀ sql, Sql.update layout change = .ok sql → ∃ statement, Change.ofText sql.text = some statement ∧
        Operation.ofSymbols statement.value = some meant) ∧
    ∀ record,
      (meant.isNull record = true →
        ∃ ref, change.value.Mentions ref ∧ extracted record layout.documentColumn ref.name = none) ∧
      (change.ReadableIn layout record →
        (change.newValue record layout = .ok .null ↔ meant.isNull record = true ∧ meant.isCall = false)) := by
  intro meant
  obtain ⟨assigned, found⟩ := @newValue_succeeds layout _ valid.value
  have means := Operation.ofSymbols_newValue valid.value found
  refine ⟨⟨assigned, found, means⟩, ?_, fun record => ⟨ValueExpr.missing_of_stored valid.value, fun readable => ?_⟩⟩
  · intro plain ascii sql ran
    obtain ⟨row, own, _, again, read, _⟩ := ofText_update plain valid ran
    cases found.symm.trans again
    have numbers := whole_numbers (ValueExpr.literals_wellFormed valid.value) ascii
    have legible := legible_newValue suits_whole (whole_names plain) numbers found
    refine ⟨_, read, ?_⟩
    rw [Sql.shown, symbolsFrom_marks legible]
    exact means
  · constructor
    · intro null
      exact (newValue_null_iff valid null).mp rfl
    · intro missing
      obtain ⟨value, found⟩ := exists_newValue valid readable missing.2
      rw [found, (newValue_null_iff valid found).mpr missing]

theorem newValue_nulls_capitals :
    let name : ValueExpr := .field ⟨"name", 0, false⟩
    let copied : Update := ⟨⟨"people", 0⟩, ⟨"shown", 0, false⟩, name, ⟨.text "r1", 0, none⟩⟩
    let capitals : Update := { copied with value := .call "UPPER" [name] 0 }
    let record : Submission := [("submission_data", .record [("shown", .text "Ada")])]
    copied.WellFormed ∧ capitals.WellFormed ∧ copied.ReadableIn {} record ∧ capitals.ReadableIn {} record ∧
      (∃ sql statement operation, Sql.update {} capitals = .ok sql ∧ Change.ofText sql.text = some statement ∧
        Operation.ofSymbols statement.value = some operation ∧ operation.isNull record = true) ∧
      copied.newValue record {} = .ok .null ∧ capitals.newValue record {} ≠ .ok .null := by
  intro name copied capitals record
  have row : copied.rowId.WellFormed := .inl ⟨_, rfl, rfl⟩
  have field : name.WellFormed := by simp [name, ValueExpr.WellFormed]
  have first : copied.WellFormed := ⟨rfl, field, row⟩
  have second : capitals.WellFormed := by
    refine ⟨rfl, ?_, row⟩
    simp only [capitals, ValueExpr.WellFormed, ValueExpr.AllWellFormed]
    exact ⟨⟨.upper, by decide, by decide⟩, field, trivial⟩
  have missing {ref : ColumnRef} (own : (ValueExpr.field ⟨"name", 0, false⟩).Mentions ref) :
      ∃ value, ValueExpr.fieldValue record {} ref = .ok value := by
    cases own
    exact ⟨.null, rfl⟩
  have readable : copied.ReadableIn {} record := fun ref mentions => missing mentions
  have alike : capitals.ReadableIn {} record := by
    intro ref mentions
    obtain ⟨⟩ | ⟨member, inside⟩ := mentions
    obtain rfl := List.mem_singleton.mp member
    exact missing inside
  obtain ⟨sql, ran⟩ : ∃ sql, Sql.update {} capitals = .ok sql := ⟨_, rfl⟩
  obtain ⟨_, -, copies⟩ := newValue_nulls first {}
  obtain ⟨_, read, writes⟩ := newValue_nulls second {}
  obtain ⟨statement, shown, means⟩ := read (by decide) nofun sql ran
  refine ⟨first, second, readable, alike, ⟨sql, statement, _, ran, shown, means, by decide⟩, ?_, ?_⟩
  · exact ((copies record).2 readable).mpr ⟨by decide, rfl⟩
  · intro null
    cases (((writes record).2 alike).mp null).2

/-- The capitals of a missing name are NULL in a database, and the empty text in a sample. -/
theorem capitals_of_missing :
    let change : Update :=
      ⟨⟨"people", 0⟩, ⟨"shown", 0, false⟩, .call "UPPER" [.field ⟨"name", 0, false⟩] 0, ⟨.text "r1", 0, none⟩⟩
    let record : Submission := [("submission_data", .record [("shown", .text "Ada")])]
    (∃ assigned operation, Sql.newValue {} change.value = .ok assigned ∧
      Operation.ofSymbols assigned.symbols = some operation ∧ operation.isNull record = true) ∧
      change.newValue record {} = .ok (.text "") := by
  intro change record
  exact ⟨⟨_, .call "UPPER" [.extraction "submission_data" "name"], rfl, rfl, by decide⟩, rfl⟩

end Update

end FormQuery
