import FormQuery.Proofs.ReadAfterWrite

/-! The stored document after two merges of one field each. One after the other, both fields are set. When both callers
have read before either writes, only the field of the last writer is set, and that of the first one keeps its old
value. -/

namespace FormQuery

namespace Fields

theorem get?_ofPairs_concat {pairs : Fields} {name : String} {value : Value} :
    get? (ofPairs (pairs ++ [(name, value)])) name = some value := by
  rw [ofPairs, List.foldl_append]
  exact get?_set_self ..

end Fields

namespace Table

theorem select_eq_ok {table : Table} {selection : Selection} {result : ResultSet}
    (unlimited : selection.limit = none) :
    table.select selection = .ok result ↔ ∃ columns places, selection.columns.mapM table.place = .ok columns ∧
      table.places selection.conditions = .ok places ∧
      result = ⟨some selection.columns,
        (table.rows.filter (meets places)).map fun row => columns.map (row.getD · .null), -1⟩ := by
  constructor
  · intro ran
    obtain ⟨columns, placed, ran⟩ := ok_of_bind ran
    obtain ⟨places, met, ran⟩ := ok_of_bind ran
    rw [unlimited] at ran
    cases ran
    exact ⟨columns, places, placed, met, rfl⟩
  · rintro ⟨columns, places, placed, met, rfl⟩
    rw [select, bind_ok placed, bind_ok met, unlimited]
    rfl

/-- A row that meets conditions still does so when a cell is set that they do not look at. -/
theorem filter_setCells_eq {place : Nat} {conditions : List (Nat × Value)}
    (apart : ∀ condition ∈ conditions, condition.1 ≠ place) (value : Value) (rows : List (List Value)) :
    (setCells place value conditions rows).filter (meets conditions) =
      (rows.filter (meets conditions)).map (·.set place value) := by
  induction rows with
  | nil => rfl
  | cons row rows ih =>
    unfold setCells at ih ⊢
    cases met : meets conditions row with
    | true => simp [met, meets_set apart, ih]
    | false => simp [met, ih]

end Table

namespace Access

open Program

/-- The row that is fetched for a submission has the JSON text of a document. -/
def Holds (access : Access) (form rowId : Value) (database : Database) (document : Fields) : Prop :=
  ∃ conditions result row more stored, access.ofRow form rowId = .ok conditions ∧
    (Database.handler (.execute (access.selection conditions none)) database).result = .ok result ∧
    result.rows = row :: more ∧ access.documentCell row = some (.text stored) ∧
    Json.read stored = .ok (.record document)

variable {access : Access} {form rowId : Value} {database : Database} {conditions : Conditions} {document patch : Fields}

theorem Holds.exact (holds : access.Holds form rowId database document)
    (simple : ∀ field ∈ document, field.2.IsSimple) : (Value.record document).IsExact := by
  obtain ⟨-, -, -, -, stored, -, -, -, -, decoded⟩ := holds
  exact Json.exact_of_read decoded (.record simple)

/-- A merge has the whole document to write after its first turn. -/
theorem merge_writes {result : ResultSet} {row : List Value} {more : List (List Value)} {written : String}
    {record : FetchedRow} (known : access.ofRow form rowId = .ok conditions)
    (found : (Database.handler (.execute (access.selection conditions none)) database).result = .ok result)
    (first : result.rows = row :: more) (fetched : access.fetchedRow row = .ok record)
    (held : Fields.get? record access.layout.documentColumn = some (.record document))
    (shown : (Value.record (Fields.override document patch)).jsonText .ascii = .ok written) :
    (access.merge form rowId patch).turn Database.handler database =
      (access.writeBack rowId patch conditions written, database) := by
  obtain ⟨next, asks, writes⟩ := access.merge_request patch known
  obtain ⟨answer, still⟩ : ∃ answer, Database.handler (.execute (access.selection conditions none)) database =
      { result := answer, state := database } := fetch_still _ database
  obtain rfl : answer = .ok result := by rwa [still] at found
  simp only [asks, turn, still, writes first fetched held shown]
  rfl

/-- The cell of the document is the last one of a selected row. -/
theorem documentCell_selected {table : Table} {columns : List Nat}
    (placed : access.layout.recordColumns.mapM table.place = .ok columns) :
    ∃ place, table.place access.layout.documentColumn = .ok place ∧ ∀ row : List Value,
      access.documentCell (columns.map (row.getD · .null)) = some (row.getD place .null) := by
  rw [Layout.recordColumns, mapM_eq_ok, List.map_append] at placed
  obtain ⟨others, last, rfl, before, behind⟩ := List.map_eq_append_iff.mp placed.symm
  obtain ⟨place, rfl, own⟩ := List.map_eq_singleton_iff.mp behind
  refine ⟨place, own.symm, fun row => ?_⟩
  have long := congrArg List.length before
  rw [List.length_map, List.length_map] at long
  rw [documentCell, Layout.recordColumns, List.map_append, List.zip_append (by simpa using long.symm)]
  exact Fields.get?_ofPairs_concat

/-- The first row of a table that is fetched for a submission, and the columns that are fetched of it. -/
structure Located (access : Access) (conditions : Conditions) (table : Table) (columns : List Nat)
    (places : List (Nat × Value)) (place : Nat) (row : List Value) (rest : List (List Value)) : Prop where
  placed : access.layout.recordColumns.mapM table.place = .ok columns
  met : table.places conditions = .ok places
  own : table.place access.layout.documentColumn = .ok place
  selected : table.rows.filter (Table.meets places) = row :: rest

variable {table : Table} {columns : List Nat} {places : List (Nat × Value)} {place : Nat} {row : List Value}
  {rest : List (List Value)} {stored : String}

theorem Located.fetched (located : access.Located conditions table columns places place row rest)
    (search : database.current.find access.layout.table = .ok table) :
    ∃ result, (Database.handler (.execute (access.selection conditions none)) database).result = .ok result ∧
      result.rows = (row :: rest).map fun row => columns.map (row.getD · .null) := by
  have chosen : table.select ⟨access.layout.recordColumns, access.layout.table, conditions, none⟩ = .ok _ :=
    (Table.select_eq_ok rfl).mpr ⟨columns, places, located.placed, located.met, rfl⟩
  rw [located.selected] at chosen
  refine ⟨⟨some access.layout.recordColumns, (row :: rest).map fun row => columns.map (row.getD · .null), -1⟩, ?_, rfl⟩
  simp only [Database.handler, selection, Database.execute]
  rw [bind_ok search, bind_ok chosen]
  rfl

theorem Located.holds (located : access.Located conditions table columns places place row rest)
    (known : access.ofRow form rowId = .ok conditions) (search : database.current.find access.layout.table = .ok table)
    (cell : row.getD place .null = .text stored) (decoded : Json.read stored = .ok (.record document)) :
    access.Holds form rowId database document := by
  obtain ⟨result, found, first⟩ := located.fetched search
  obtain ⟨other, own, shown⟩ := documentCell_selected located.placed
  obtain rfl : other = place := Except.ok.inj (own.symm.trans located.own)
  exact ⟨conditions, result, _, _, stored, known, found, first, (shown row).trans (congrArg some cell), decoded⟩

theorem Holds.located (holds : access.Holds form rowId database document) :
    ∃ conditions table columns places place row rest stored, access.ofRow form rowId = .ok conditions ∧
      database.current.find access.layout.table = .ok table ∧
      access.Located conditions table columns places place row rest ∧ row.getD place .null = .text stored ∧
      Json.read stored = .ok (.record document) := by
  obtain ⟨conditions, result, row, more, stored, known, found, first, cell, decoded⟩ := holds
  simp only [Database.handler] at found
  split at found
  next selected tables ran =>
    cases found
    obtain ⟨table, search, ran⟩ := ok_of_bind ran
    obtain ⟨set, chosen, ran⟩ := ok_of_bind ran
    cases ran
    obtain ⟨columns, places, placed, met, rfl⟩ := (Table.select_eq_ok rfl).mp chosen
    obtain ⟨place, own, shown⟩ := documentCell_selected placed
    obtain ⟨held, rest, filtered, rfl, -⟩ := List.map_eq_cons_iff.mp first
    exact ⟨conditions, table, columns, places, place, held, rest, stored, known, search,
      ⟨placed, met, own, filtered⟩, Option.some.inj ((shown held).symm.trans cell), decoded⟩
  next => cases found

/-- Writing to the column of documents moves neither columns nor rows. -/
theorem Located.assign (located : access.Located conditions table columns places place row rest)
    (apart : table.apart access.layout.documentColumn conditions = true) (value : Value) :
    ∃ changed count, table.assign access.layout.documentColumn value conditions = .ok (changed, count) ∧
      access.Located conditions changed columns places place (row.set place value) (rest.map (·.set place value)) ∧
      changed.apart access.layout.documentColumn conditions = true := by
  have elsewhere : ∀ condition ∈ places, condition.1 ≠ place := by
    simpa [Table.apart, located.met, located.own] using apart
  refine ⟨_, _, Table.assign_eq_ok.mpr ⟨place, places, located.own, located.met, rfl, rfl⟩, ?_, apart⟩
  refine ⟨located.placed, located.met, located.own, ?_⟩
  rw [Table.filter_setCells_eq elsewhere, located.selected, List.map_cons]

/-- The text of a document takes the place of the one that is fetched. -/
theorem Holds.written (holds : access.Holds form rowId database document)
    (separate : access.separate database.current form rowId = true) (known : access.ofRow form rowId = .ok conditions)
    {written : String} {after : Fields} (back : Json.read written = .ok (.record after)) :
    ∃ result tables, Database.execute database.current
        (.assign access.layout.table access.layout.documentColumn (.text written) conditions) = .ok (result, tables) ∧
      access.Holds form rowId (.ofTables tables) after ∧ access.separate tables form rowId = true := by
  obtain ⟨others, table, columns, places, place, row, rest, stored, agreed, search, located, cell, -⟩ := holds.located
  obtain rfl : conditions = others := Except.ok.inj (known.symm.trans agreed)
  have apart : table.apart access.layout.documentColumn conditions = true := by
    simpa only [Access.separate, search, known] using separate
  obtain ⟨changed, count, assigned, moved, still⟩ := located.assign apart (.text written)
  have again := Tables.find_replace search (Table.assign_name assigned)
  -- There is a cell for the text, since there was one for the text before it.
  have inside : place < row.length := by
    by_contra outside
    rw [List.getD_eq_getElem?_getD, List.getElem?_eq_none (Nat.le_of_not_lt outside)] at cell
    cases cell
  have cell : (row.set place (.text written)).getD place .null = .text written := by
    rw [List.getD_eq_getElem?_getD, List.getElem?_set_self inside]
    rfl
  refine ⟨⟨none, [], count⟩, database.current.replace changed, ?_, moved.holds known again cell back, ?_⟩
  · simp only [Database.execute]
    rw [bind_ok search, bind_ok assigned]
    rfl
  · simpa only [Access.separate, again, known] using still

/-- A merge of one field leaves the document with this field set. -/
theorem Holds.merged (holds : access.Holds form rowId database document)
    (separate : access.separate database.current form rowId = true) (exact : (Value.record document).IsExact)
    {value : Value} (new : value.IsExact) (name : String) :
    ∃ tables, ((access.merge form rowId [(name, value)]).run Database.handler database).state = .ofTables tables ∧
      access.Holds form rowId (.ofTables tables) (Fields.set document name value) ∧
      access.separate tables form rowId = true := by
  have ⟨conditions, result, row, more, stored, known, found, first, cell, decoded⟩ := holds
  obtain ⟨written, shown, back⟩ := Value.written_read (Fields.exact_set exact new name) .ascii
  obtain ⟨record, fetched, held⟩ := fetchedRow_document cell (Value.decodeDocument_of_read decoded)
  obtain ⟨answer, tables, ran, still, apart⟩ := holds.written separate known back
  have writes : (access.merge form rowId [(name, value)]).turn Database.handler database = _ :=
    merge_writes known found first fetched held shown
  exact ⟨tables, (run_of_turn writes).trans (writeBack_leaves ran), still, apart⟩

/-- Two callers set a field each, and their names are different. In the orders in which one merge is over before the
other begins, both fields have their new values and all others their old ones. In all other orders the field of the last
writer alone has a new value, and that of the first writer has its old one like the rest. -/
theorem merged_documents (access : Access) (form rowId : Value) (names : Bool → String) (values : Bool → Value)
    (order : List Bool) (database : Database) (document : Fields) (different : names true ≠ names false)
    (new : ∀ caller, (values caller).IsExact) (simple : ∀ field ∈ document, field.2.IsSimple)
    (holds : access.Holds form rowId database document)
    (separate : access.separate database.current form rowId = true)
    (finish : Finish (fun caller => access.merge form rowId [(names caller, values caller)]) order database) :
    let start := fun caller => access.merge form rowId [(names caller, values caller)]
    ∃ first second third rest last, order = first :: second :: third :: rest ∧
      access.Holds form rowId (interleave Database.handler order start database).2 last ∧
      if first = second then
        (∀ caller, Fields.get? last (names caller) = some (values caller)) ∧
          ∀ name, (∀ caller, name ≠ names caller) → Fields.get? last name = Fields.get? document name
      else
        Fields.get? last (names !third) = some (values !third) ∧
          ∀ name, name ≠ names !third → Fields.get? last name = Fields.get? document name := by
  intro start
  have exact := holds.exact simple
  obtain ⟨first, second, rest, rfl⟩ := finish.two_turns fun _ => rfl
  by_cases same : second = first
  · subst same
    obtain ⟨third, rest, rfl, last⟩ := merges_in_turn finish
    obtain ⟨tables, left, between, apart⟩ := holds.merged separate exact (new second) (names second)
    have next := Fields.exact_set exact (new second) (names second)
    obtain ⟨both, ended, after, -⟩ := between.merged apart next (new !second) (names !second)
    rw [left, ended] at last
    refine ⟨second, second, third, rest, _, rfl, last ▸ after, ?_⟩
    rw [if_pos rfl]
    have other : names second ≠ names !second := by
      cases second with
      | true => exact different
      | false => exact different.symm
    refine ⟨(Bool.forall_bool' second).mpr ⟨?_, Fields.get?_set_self ..⟩, fun name unnamed => ?_⟩
    · exact (Fields.get?_set_of_ne _ _ other.symm).trans (Fields.get?_set_self ..)
    · exact (Fields.get?_set_of_ne _ _ (unnamed _).symm).trans (Fields.get?_set_of_ne _ _ (unnamed _).symm)
  · obtain rfl : second = !first := Bool.eq_not_of_ne same
    obtain ⟨third, rest, rfl, last⟩ := merges_crossed separate finish
    obtain ⟨tables, ended, after, -⟩ := holds.merged separate exact (new !third) (names !third)
    rw [ended] at last
    refine ⟨first, !first, third, rest, _, rfl, last ▸ after, ?_⟩
    rw [if_neg (by simp)]
    exact ⟨Fields.get?_set_self .., fun name unnamed => Fields.get?_set_of_ne _ _ unnamed.symm⟩

end Access

end FormQuery
