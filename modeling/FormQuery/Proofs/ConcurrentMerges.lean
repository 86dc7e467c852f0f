import FormQuery.Proofs.Runs
import FormQuery.Proofs.Turns
import FormQuery.Storage.Access
import FormQuery.Storage.Database

/-! Merges that take turns. A merge reads a document in one turn and writes it back in the next, so it is lost when
another one that read the same document writes after it. -/

namespace FormQuery

namespace Table

theorem sameName_iff {left right : String} :
    sameName left right = true ↔ left.toList.map Char.toLower = right.toList.map Char.toLower := by
  simp [sameName]

def setCells (place : Nat) (value : Value) (conditions : List (Nat × Value)) (rows : List (List Value)) :
    List (List Value) :=
  rows.map fun row => if meets conditions row then row.set place value else row

theorem assign_eq_ok {table changed : Table} {column : String} {value : Value} {conditions : Conditions} {count : Nat} :
    table.assign column value conditions = .ok (changed, count) ↔ ∃ place places,
      table.place column = .ok place ∧ table.places conditions = .ok places ∧
      changed = { table with rows := setCells place value places table.rows } ∧
      count = (table.rows.filter (meets places)).length := by
  constructor
  · intro ran
    obtain ⟨place, found, ran⟩ := ok_of_bind ran
    obtain ⟨places, known, ran⟩ := ok_of_bind ran
    cases ran
    exact ⟨place, places, found, known, rfl, rfl⟩
  · rintro ⟨place, places, found, known, rfl, rfl⟩
    rw [assign, found, bind_ok rfl, known]
    rfl

theorem meets_set {place : Nat} {conditions : List (Nat × Value)} (apart : ∀ condition ∈ conditions, condition.1 ≠ place)
    (value : Value) (row : List Value) : meets conditions (row.set place value) = meets conditions row := by
  rw [Bool.eq_iff_iff, meets, meets, List.all_eq_true, List.all_eq_true]
  apply forall₂_congr
  intro ⟨index, expected⟩ member
  have other : (row.set place value).getD index .null = row.getD index .null := by
    simp [List.getD_eq_getElem?_getD, List.getElem?_set_ne (apart _ member).symm]
  show sameText _ expected = true ↔ sameText _ expected = true
  rw [other]

theorem setCells_again {place : Nat} {conditions : List (Nat × Value)}
    (apart : ∀ condition ∈ conditions, condition.1 ≠ place) (first second : Value) (rows : List (List Value)) :
    setCells place second conditions (setCells place first conditions rows) = setCells place second conditions rows := by
  unfold setCells
  rw [List.map_map]
  apply List.map_congr_left
  intro row member
  cases met : meets conditions row with
  | true => simp [met, meets_set apart]
  | false => simp [met]

theorem filter_setCells {place : Nat} {conditions : List (Nat × Value)}
    (apart : ∀ condition ∈ conditions, condition.1 ≠ place) (value : Value) (rows : List (List Value)) :
    ((setCells place value conditions rows).filter (meets conditions)).length =
      (rows.filter (meets conditions)).length := by
  unfold setCells
  rw [← List.countP_eq_length_filter, ← List.countP_eq_length_filter, List.countP_map]
  apply List.countP_congr
  intro row member
  cases met : meets conditions row with
  | true => simp [met, meets_set apart]
  | false => simp [met]

def apart (table : Table) (column : String) (conditions : Conditions) : Bool :=
  match table.places conditions, table.place column with
  | .ok places, .ok place => places.all fun condition => condition.1 != place
  | _, _ => true

/-- What is written to a column of its own is forgotten when it is written to again. -/
theorem assign_again {table changed : Table} {column : String} {conditions : Conditions} {count : Nat} {first : Value}
    (apart : table.apart column conditions = true) (ran : table.assign column first conditions = .ok (changed, count))
    (second : Value) :
    ∃ last, changed.assign column second conditions = .ok (last, count) ∧
      table.assign column second conditions = .ok (last, count) := by
  obtain ⟨place, places, found, known, rfl, rfl⟩ := assign_eq_ok.mp ran
  have elsewhere : ∀ condition ∈ places, condition.1 ≠ place := by
    simpa [Table.apart, found, known] using apart
  refine ⟨{ table with rows := setCells place second places table.rows }, ?_, ?_⟩
  · apply assign_eq_ok.mpr
    refine ⟨place, places, found, known, ?_, (filter_setCells elsewhere first table.rows).symm⟩
    rw [setCells_again elsewhere]
  · exact assign_eq_ok.mpr ⟨place, places, found, known, rfl, rfl⟩

theorem assign_name {table changed : Table} {column : String} {value : Value} {conditions : Conditions} {count : Nat}
    (ran : table.assign column value conditions = .ok (changed, count)) : changed.name = table.name := by
  obtain ⟨place, places, -, -, rfl, -⟩ := assign_eq_ok.mp ran
  rfl

end Table

namespace Tables

theorem sameName_replaced {table changed : Table} (name : String) :
    Table.sameName (if Table.sameName table.name changed.name then changed else table).name name =
      Table.sameName table.name name := by
  split
  next same =>
    unfold Table.sameName
    rw [Table.sameName_iff.mp same]
  next => rfl

theorem find_replace {tables : Tables} {name : String} {table changed : Table} (found : tables.find name = .ok table)
    (same : changed.name = table.name) : (tables.replace changed).find name = .ok changed := by
  unfold find at found
  split at found
  next first search =>
    cases found
    have again : List.find? (fun table => Table.sameName table.name (ownName name)) (tables.replace changed) =
        some changed := by
      rw [replace, List.find?_map]
      have alike : ((fun table => Table.sameName table.name (ownName name)) ∘
          fun table => if Table.sameName table.name changed.name then changed else table) =
          fun table => Table.sameName table.name (ownName name) :=
        funext fun table => sameName_replaced (ownName name)
      rw [alike, search, Option.map_some, if_pos (Table.sameName_iff.mpr (by rw [same]))]
    rw [find, again]
  next => cases found

theorem replace_replace (tables : Tables) {first second : Table} (same : first.name = second.name) :
    (tables.replace first).replace second = tables.replace second := by
  unfold replace
  rw [List.map_map]
  apply List.map_congr_left
  intro table member
  rw [Function.comp_apply, sameName_replaced, same]
  split <;> rfl

end Tables

/-- The last of two statements that set the same cells of a column is the only one that counts. -/
theorem Database.execute_again {tables changed : Tables} {name column : String} {first : Value} {conditions : Conditions}
    {result : ResultSet} (apart : ∀ table, tables.find name = .ok table → table.apart column conditions = true)
    (ran : execute tables (.assign name column first conditions) = .ok (result, changed)) (second : Value) :
    ∃ last, execute changed (.assign name column second conditions) = .ok (result, last) ∧
      execute tables (.assign name column second conditions) = .ok (result, last) := by
  obtain ⟨table, found, ran⟩ := ok_of_bind ran
  obtain ⟨⟨own, count⟩, assigned, ran⟩ := ok_of_bind ran
  cases ran
  have search : (tables.replace own).find name = .ok own := Tables.find_replace found (Table.assign_name assigned)
  obtain ⟨last, again, once⟩ := Table.assign_again (apart table found) assigned second
  have names : own.name = last.name := (Table.assign_name assigned).trans (Table.assign_name once).symm
  refine ⟨tables.replace last, ?_, ?_⟩
  · simp only [execute]
    rw [bind_ok search, bind_ok again, Tables.replace_replace tables names]
    rfl
  · simp only [execute]
    rw [bind_ok found, bind_ok once]
    rfl

namespace Access

open Program

/-- The last part of a merge: what is written, and where. -/
def writeBack (access : Access) (rowId : Value) (patch : Fields) (conditions : Conditions) (text : String) :
    Program connection Int := do
  let result ← execute (.assign access.layout.table access.layout.documentColumn (.text text) conditions)
  commit
  Program.tell (mergeLog patch rowId)
  return result.rowCount

theorem fetch_still (selection : Selection) (database : Database) :
    ∃ found, Database.handler (.execute (.fetch selection)) database = { result := found, state := database } := by
  have tables : ∀ result tables, Database.execute database.current (.fetch selection) = .ok (result, tables) →
      tables = database.current := by
    intro result tables ran
    obtain ⟨table, found, ran⟩ := ok_of_bind ran
    obtain ⟨rows, selected, ran⟩ := ok_of_bind ran
    cases ran
    rfl
  simp only [Database.handler]
  split
  next result after ran =>
    rw [tables result after ran]
    exact ⟨_, rfl⟩
  next fault failed => exact ⟨_, rfl⟩

def Failed (program : Program connection Int) : Prop :=
  ∃ result, program = .done result ∧ program.endsWith (0 < ·) = false

/-- After its first turn, a merge has failed or has a document to write. The database is as it was. -/
theorem merge_turn (access : Access) (form rowId : Value) (patch : Fields) (database : Database) :
    ∃ program, (access.merge form rowId patch).turn Database.handler database = (program, database) ∧
      (Failed program ∨ ∃ conditions text, access.ofRow form rowId = .ok conditions ∧
        program = access.writeBack rowId patch conditions text) := by
  -- One case for each of the steps that may fail: the conditions, the statement, the row, its document and the text.
  unfold merge submission
  cases known : access.ofRow form rowId with
  | error fault => exact ⟨_, rfl, .inl ⟨_, rfl, rfl⟩⟩
  | ok conditions =>
    obtain ⟨found, read⟩ := fetch_still ⟨access.layout.recordColumns, access.layout.table, conditions, none⟩ database
    simp only [Bind.bind, Program.bind, lift, execute, ask, turn, selection, read]
    cases found with
    | error fault => exact ⟨_, rfl, .inl ⟨_, rfl, rfl⟩⟩
    | ok result =>
      simp only [Program.bind]
      cases result.rows with
      | nil => exact ⟨_, rfl, .inl ⟨_, rfl, rfl⟩⟩
      | cons row rest =>
        dsimp only
        cases access.fetchedRow row with
        | error fault => exact ⟨_, rfl, .inl ⟨_, rfl, rfl⟩⟩
        | ok fields =>
          simp only [Program.bind, pure]
          generalize Value.jsonText _ _ = written
          cases written with
          | error fault => exact ⟨_, rfl, .inl ⟨_, rfl, rfl⟩⟩
          | ok text => exact ⟨_, rfl, .inr ⟨conditions, text, rfl, rfl⟩⟩

theorem merge_unfinished (access : Access) (form rowId : Value) (patch : Fields) (database : Database) :
    (access.merge form rowId patch).endsWith (0 < ·) = false := by
  by_contra ended
  obtain ⟨count, done, positive⟩ := done_of_endsWith (eq_true_of_ne_false ended)
  obtain ⟨program, turned, after⟩ := access.merge_turn form rowId patch database
  rw [done] at turned
  cases turned
  obtain ⟨result, -, failed⟩ | ⟨conditions, text, -, same⟩ := after
  · exact Bool.false_ne_true (failed.symm.trans positive)
  · cases same

theorem merge_reads {access : Access} {form rowId : Value} {patch : Fields} {ι : Type} [DecidableEq ι]
    {programs : ι → Program connection Int} {caller : ι} (merges : programs caller = access.merge form rowId patch)
    {order : List ι} {database : Database}
    (finished : ((interleave Database.handler (caller :: order) programs database).1 caller).endsWith (0 < ·) = true) :
    ∃ conditions text, access.ofRow form rowId = .ok conditions ∧
      (programs caller).turn Database.handler database = (access.writeBack rowId patch conditions text, database) := by
  obtain ⟨program, turned, ⟨result, rfl, failed⟩ | ⟨conditions, text, known, rfl⟩⟩ :=
    access.merge_turn form rowId patch database
  · rw [interleave_cons, merges, turned, interleave_done (Function.update_self ..), failed] at finished
    cases finished
  · exact ⟨conditions, text, known, merges ▸ turned⟩

theorem writeBack_turn (access : Access) (rowId : Value) (patch : Fields) (conditions : Conditions) (text : String)
    (database : Database) :
    (access.writeBack rowId patch conditions text).turn Database.handler database =
      match Database.execute database.current
          (.assign access.layout.table access.layout.documentColumn (.text text) conditions) with
      | .ok (result, tables) => (.done (.ok result.rowCount), Database.ofTables tables)
      | .error fault => (.done (.error fault), database) := by
  simp only [writeBack, Bind.bind, Program.bind, execute, ask, turn, Database.handler]
  cases Database.execute database.current
      (.assign access.layout.table access.layout.documentColumn (.text text) conditions) with
  | error fault => rfl
  | ok ran => rfl

theorem writeBack_leaves {access : Access} {rowId : Value} {patch : Fields} {conditions : Conditions} {text : String}
    {database : Database} {result : ResultSet} {tables : Tables}
    (ran : Database.execute database.current
      (.assign access.layout.table access.layout.documentColumn (.text text) conditions) = .ok (result, tables)) :
    ((access.writeBack rowId patch conditions text).run Database.handler database).state = Database.ofTables tables := by
  have turned := access.writeBack_turn rowId patch conditions text database
  rw [ran] at turned
  exact run_of_turn turned

/-- Whether the document has a column of its own, apart from those that tell which submission a row is. -/
def separate (access : Access) (tables : Tables) (form rowId : Value) : Bool :=
  match tables.find access.layout.table, access.ofRow form rowId with
  | .ok table, .ok conditions => table.apart access.layout.documentColumn conditions
  | _, _ => true

def Finish (programs : Bool → Program connection Int) (order : List Bool) (database : Database) : Prop :=
  ∀ caller, ((interleave Database.handler order programs database).1 caller).endsWith (0 < ·) = true

variable {access : Access} {programs : Bool → Program connection Int} {order : List Bool} {database : Database}

theorem Finish.nonempty (finish : Finish programs order database) (caller : Bool)
    (unfinished : (programs caller).endsWith (0 < ·) = false) : ∃ next rest, order = next :: rest := by
  cases order with
  | nil => exact absurd ((finish caller).symm.trans unfinished) (by decide)
  | cons next rest => exact ⟨next, rest, rfl⟩

theorem Finish.turn {caller : Bool} (finish : Finish programs (caller :: order) database)
    {program : Program connection Int} {after : Database}
    (turned : (programs caller).turn Database.handler database = (program, after)) :
    Finish (Function.update programs caller program) order after := by
  intro other
  have ends := finish other
  rwa [interleave_cons, turned] at ends

theorem interleave_turn {caller : Bool} {program : Program connection Int} {after : Database}
    (turned : (programs caller).turn Database.handler database = (program, after)) :
    interleave Database.handler (caller :: order) programs database =
      interleave Database.handler order (Function.update programs caller program) after := by
  rw [interleave_cons, turned]

theorem Finish.last {caller : Bool} {result : Except Fault Int} (finish : Finish programs order database)
    (stopped : programs caller = .done result) :
    (interleave Database.handler order programs database).2 =
      ((programs !caller).run Database.handler database).state := by
  apply interleave_last _ (finish !caller)
  intro other different
  have same : other = caller := by simpa using different
  exact ⟨result, same ▸ stopped⟩

/-- A caller that writes in the turn after it has read is over before the other one goes on. -/
theorem one_by_one {rowId : Value} {patch : Fields} {conditions : Conditions} {text : String} {caller : Bool}
    (waits : programs caller = access.writeBack rowId patch conditions text)
    (unfinished : (programs !caller).endsWith (0 < ·) = false) (finish : Finish programs (caller :: order) database) :
    ∃ third rest, order = third :: rest ∧ (interleave Database.handler (caller :: order) programs database).2 =
      ((programs !caller).run Database.handler ((programs caller).run Database.handler database).state).state := by
  obtain ⟨result, after, turned⟩ : ∃ result after,
      (programs caller).turn Database.handler database = (.done result, after) := by
    rw [waits, writeBack_turn]
    split
    · exact ⟨_, _, rfl⟩
    · exact ⟨_, _, rfl⟩
  have other : Function.update programs caller (.done result) (!caller) = programs !caller :=
    Function.update_of_ne (by simp) _ _
  have rest := finish.turn turned
  obtain ⟨third, order, rfl⟩ := rest.nonempty (!caller) (by rwa [other])
  refine ⟨third, order, rfl, ?_⟩
  rw [interleave_turn turned, rest.last (Function.update_self ..), other, run_of_turn turned]
  rfl

/-- When both callers have a document to write, only the one that writes last counts. -/
theorem overwritten {form rowId : Value} {patches : Bool → Fields} {conditions : Conditions}
    (separate : access.separate database.current form rowId = true) (known : access.ofRow form rowId = .ok conditions)
    (waits : ∀ caller, ∃ text, programs caller = access.writeBack rowId (patches caller) conditions text)
    {third : Bool} {rest : List Bool} (finish : Finish programs (third :: rest) database) :
    (interleave Database.handler (third :: rest) programs database).2 =
      ((programs !third).run Database.handler database).state := by
  obtain ⟨text, program⟩ := waits third
  obtain ⟨other, last⟩ := waits !third
  have turned := access.writeBack_turn rowId (patches third) conditions text database
  rw [← program] at turned
  cases ran : Database.execute database.current
      (.assign access.layout.table access.layout.documentColumn (.text text) conditions) with
  | error fault =>
    rw [ran] at turned
    have failed := finish third
    rw [interleave_turn turned, interleave_done (Function.update_self ..)] at failed
    cases failed
  | ok written =>
    obtain ⟨result, tables⟩ := written
    rw [ran] at turned
    have apart (table : Table) (found : database.current.find access.layout.table = .ok table) :
        table.apart access.layout.documentColumn conditions = true := by
      simpa [Access.separate, found, known] using separate
    -- The second write leaves the same tables with the first one as it would without it.
    obtain ⟨after, again, once⟩ := Database.execute_again apart ran (.text other)
    have different : (!third) ≠ third := by simp
    rw [interleave_turn turned, (finish.turn turned).last (Function.update_self ..), Function.update_of_ne different, last,
      writeBack_leaves once]
    exact writeBack_leaves again

section

variable {form rowId : Value} {patches : Bool → Fields} {first : Bool}

theorem Finish.two_turns (finish : Finish programs order database)
    (merges : ∀ caller, programs caller = access.merge form rowId (patches caller)) :
    ∃ first second rest, order = first :: second :: rest := by
  have unfinished := access.merge_unfinished form rowId (patches true) database
  obtain ⟨first, order, rfl⟩ := finish.nonempty true (merges true ▸ unfinished)
  obtain ⟨conditions, text, -, read⟩ := merge_reads (merges first) (finish first)
  obtain ⟨second, rest, rfl⟩ := (finish.turn read).nonempty first (by rw [Function.update_self]; rfl)
  exact ⟨first, second, rest, rfl⟩

/-- A merge that writes before the other one has read is over when that one begins. -/
theorem merges_in_turn
    (finish : Finish (fun caller => access.merge form rowId (patches caller)) (first :: first :: order) database) :
    let start := fun caller => access.merge form rowId (patches caller)
    ∃ third rest, order = third :: rest ∧ (interleave Database.handler (first :: first :: order) start database).2 =
      ((start !first).run Database.handler ((start first).run Database.handler database).state).state := by
  intro start
  obtain ⟨conditions, text, -, read⟩ := merge_reads (rfl : start first = _) (finish first)
  have after := finish.turn read
  have other : Function.update start first (access.writeBack rowId (patches first) conditions text) (!first) =
      start !first := Function.update_of_ne (by simp) _ _
  obtain ⟨third, rest, rfl, last⟩ := one_by_one (Function.update_self ..)
    (by rw [other]; exact access.merge_unfinished form rowId (patches !first) database) after
  refine ⟨third, rest, rfl, ?_⟩
  rw [interleave_turn read, last, other, Function.update_self, run_of_turn read]

/-- When the other one reads in between, both have read the same document, and only the one that writes last counts. -/
theorem merges_crossed (separate : access.separate database.current form rowId = true)
    (finish : Finish (fun caller => access.merge form rowId (patches caller)) (first :: (!first) :: order) database) :
    let start := fun caller => access.merge form rowId (patches caller)
    ∃ third rest, order = third :: rest ∧ (interleave Database.handler (first :: (!first) :: order) start database).2 =
      ((start !third).run Database.handler database).state := by
  intro start
  obtain ⟨conditions, text, known, read⟩ := merge_reads (rfl : start first = _) (finish first)
  have after := finish.turn read
  have fresh : Function.update start first (access.writeBack rowId (patches first) conditions text) (!first) =
      start !first := Function.update_of_ne (by simp) _ _
  obtain ⟨others, reply, agreed, again⟩ := merge_reads fresh (after !first)
  obtain rfl : conditions = others := Except.ok.inj (known.symm.trans agreed)
  have both := after.turn again
  rw [interleave_turn read, interleave_turn again]
  rw [fresh] at again
  generalize made : Function.update (Function.update start first _) (!first) _ = programs at both ⊢
  have waits : ∀ caller, (start caller).turn Database.handler database = (programs caller, database) ∧
      ∃ text, programs caller = access.writeBack rowId (patches caller) conditions text := by
    subst made
    rw [Bool.forall_bool' first]
    constructor
    · rw [Function.update_of_ne (by simp), Function.update_self]
      exact ⟨read, text, rfl⟩
    · rw [Function.update_self]
      exact ⟨again, reply, rfl⟩
  obtain ⟨-, reply, writes⟩ := waits true
  obtain ⟨third, rest, rfl⟩ := both.nonempty true (by rw [writes]; rfl)
  refine ⟨third, rest, rfl, ?_⟩
  rw [overwritten separate known (fun caller => (waits caller).2) both, run_of_turn (waits !third).1]

end

/-- What merges leave behind whose turns come in a given order. When one of them is over before the other begins, it is
what they leave one after the other. Else both read the same document, and the one that writes first is lost. -/
theorem merges_interleaved (access : Access) (form rowId : Value) (patches : Bool → Fields) (order : List Bool)
    (database : Database) (separate : access.separate database.current form rowId = true)
    (finish : Finish (fun caller => access.merge form rowId (patches caller)) order database) :
    let start := fun caller => access.merge form rowId (patches caller)
    ∃ first second third rest, order = first :: second :: third :: rest ∧
      (interleave Database.handler order start database).2 =
        if first = second then
          ((start !first).run Database.handler ((start first).run Database.handler database).state).state
        else ((start !third).run Database.handler database).state := by
  intro start
  obtain ⟨first, second, rest, rfl⟩ := finish.two_turns fun _ => rfl
  by_cases same : second = first
  · subst same
    obtain ⟨third, rest, rfl, last⟩ := merges_in_turn finish
    exact ⟨second, second, third, rest, rfl, by rw [if_pos rfl, last]⟩
  · obtain rfl : second = !first := Bool.eq_not_of_ne same
    obtain ⟨third, rest, rfl, last⟩ := merges_crossed separate finish
    exact ⟨first, !first, third, rest, rfl, by rw [if_neg (by simp), last]⟩

def twoFields : Database := .ofTables [
  { name := "form_submissions"
    columns := ["form_id", "id", "submitted_by", "created_at", "submission_data"]
    rows := [[.text "f", .text "r", .null, .null, .text "\x7b\"c1\": \"a\", \"c2\": \"b\"\x7d"]] }]

def ownField (caller : Bool) : Fields := if caller then [("c2", .text "y")] else [("c1", .text "x")]

theorem merges_interleaved_serial :
    let start := fun caller => ({} : Access).merge (.text "f") (.text "r") (ownField caller)
    let order := [false, false, true, true]
    ({} : Access).separate twoFields.current (.text "f") (.text "r") = true ∧ Finish start order twoFields ∧
      ∃ first second third rest, order = first :: second :: third :: rest ∧
        (interleave Database.handler order start twoFields).2 =
          if first = second then
            ((start !first).run Database.handler ((start first).run Database.handler twoFields).state).state
          else ((start !third).run Database.handler twoFields).state := by
  intro start order
  have separate : ({} : Access).separate twoFields.current (.text "f") (.text "r") = true := by decide +kernel
  have finish : Finish start order twoFields := by
    unfold Finish
    decide +kernel
  exact ⟨separate, finish, merges_interleaved {} (.text "f") (.text "r") ownField order twoFields separate finish⟩

/-- A field of the stored document of a submission, where it is a text. -/
def storedText (access : Access) (form rowId : Value) (database : Database) (key : String) : Option String :=
  match ((access.submission form rowId).run Database.handler database).result with
  | .ok (some row) =>
    match Fields.get? row access.layout.documentColumn with
    | some (.record document) =>
      match Fields.get? document key with
      | some (.text value) => some value
      | _ => none
    | _ => none
  | _ => none

/-- When both callers read before either writes, the field of the first writer keeps its old value. -/
theorem merges_interleaved_lost :
    let start := fun caller => ({} : Access).merge (.text "f") (.text "r") (ownField caller)
    let order := [false, true, false, true]
    let stored := ({} : Access).storedText (.text "f") (.text "r") (interleave Database.handler order start twoFields).2
    Finish start order twoFields ∧ stored "c1" = some "a" ∧ stored "c2" = some "y" := by
  intro start order stored
  unfold Finish
  decide +kernel

end Access

end FormQuery
