import FormQuery.Proofs.ColumnTypes

/-! Aggregates of groups. A query that lists fields beside aggregates shows one row to each different row of texts that
the wanted records have in these fields, in order of appearance; and what it shows beside them is what the aggregates
alone would show of the records with these texts. -/

namespace FormQuery

open Sql (extracted fieldText)

variable {layout : Layout}

theorem Value.ofText?_injective : Function.Injective Value.ofText? := by
  intro left right same
  cases left <;> cases right <;> cases same <;> rfl

namespace Group

theorem sameKey_ofText? {left right : Option String} :
    sameKey (.ofText? left) (.ofText? right) = true ↔ left = right := by
  cases left <;> cases right <;> simp [sameKey, Value.ofText?, Value.isMissing, Value.isBlankLeaf, Value.same]

theorem usable_ofText? (text? : Option String) : usable (.ofText? text?) = .ok () := by
  cases text? <;> rfl

/-- The key of a group is read back from the different keys of a column of texts. -/
theorem getD_keyIndex {texts : List (Option String)} {text? : Option String} (member : text? ∈ texts) :
    (Value.unifyCells (distinctKeys (texts.map .ofText?))).getD
      (keyIndex (distinctKeys (texts.map .ofText?)) (.ofText? text?)) .null = .ofText? text? := by
  have able : ∀ cell ∈ texts.map Value.ofText?, usable cell = .ok () :=
    List.forall_mem_map.mpr fun text? _ => usable_ofText? text?
  have shape : ∀ cell ∈ distinctKeys (texts.map .ofText?), ∃ text?, cell = .ofText? text? := by
    intro cell known
    obtain ⟨text?, -, rfl⟩ := List.mem_map.mp (mem_of_mem_distinctKeys known)
    exact ⟨text?, rfl⟩
  obtain ⟨key, known, found, same⟩ := exists_getElem_keyIndex able (List.mem_map_of_mem member)
  obtain ⟨own, rfl⟩ := shape key known
  rw [Value.unifyCells_of_texts shape, List.getD_eq_getElem?_getD, found, sameKey_ofText?.mp same]
  rfl

section Texts

variable (rows : List Row) (views : List (Row → Option String))

abbrev textsOf (row : Row) : List (Option String) := views.map (· row)

def columnsOf : List (List Value) := views.map fun view => (rows.map view).map .ofText?

def indicesOf (texts : List (Option String)) : List Nat :=
  List.zipWith (fun view text? => keyIndex (distinctKeys ((rows.map view).map .ofText?)) (.ofText? text?)) views texts

def cellsAt (indices : List Nat) : List Value :=
  List.zipWith (fun keys index => keys.getD index .null)
    (((columnsOf rows views).map distinctKeys).map Value.unifyCells) indices

theorem usable_columnsOf : ((columnsOf rows views).forM fun cells => cells.forM usable) = .ok () := by
  refine forM_eq_ok.mpr fun cells known => forM_eq_ok.mpr ?_
  obtain ⟨view, -, rfl⟩ := List.mem_map.mp known
  exact List.forall_mem_map.mpr fun text? _ => usable_ofText? text?

variable {rows}

theorem cellsAt_indicesOf {row : Row} (member : row ∈ rows) :
    cellsAt rows views (indicesOf rows views (textsOf views row)) = (textsOf views row).map .ofText? := by
  rw [indicesOf, textsOf, List.zipWith_map_right, List.zipWith_self, cellsAt, columnsOf, List.map_map, List.map_map,
    List.zipWith_map, List.zipWith_self, List.map_map]
  exact List.map_congr_left fun view _ => getD_keyIndex (List.mem_map_of_mem member)

/-- Rows of different texts have different indices, since the texts can be read back from them. -/
theorem indicesOf_apart {first second : Row} (one : first ∈ rows) (two : second ∈ rows)
    (same : indicesOf rows views (textsOf views first) = indicesOf rows views (textsOf views second)) :
    textsOf views first = textsOf views second := by
  have cells := congrArg (cellsAt rows views) same
  rw [cellsAt_indicesOf views one, cellsAt_indicesOf views two] at cells
  exact Value.ofText?_injective.list_map cells

variable (rows)

theorem transpose_indices :
    transpose rows.length (List.zipWith (fun keys (cells : List Value) => cells.map (keyIndex keys))
      ((columnsOf rows views).map distinctKeys) (columnsOf rows views)) =
      rows.map fun row => indicesOf rows views (textsOf views row) := by
  have columns : List.zipWith (fun keys (cells : List Value) => cells.map (keyIndex keys))
      ((columnsOf rows views).map distinctKeys) (columnsOf rows views) =
      (views.map fun view row => keyIndex (distinctKeys ((rows.map view).map .ofText?)) (.ofText? (view row))).map
        rows.map := by
    rw [columnsOf, List.map_map, List.zipWith_map, List.zipWith_self, List.map_map]
    exact List.map_congr_left fun view _ => by simp [Function.comp_def]
  rw [columns, transpose_columns]
  refine List.map_congr_left fun row _ => ?_
  rw [indicesOf, textsOf, List.zipWith_map_right, List.zipWith_self, List.map_map]
  rfl

theorem collect_indices :
    collect (rows.map fun row => (indicesOf rows views (textsOf views row), row)) =
      (rows.map (textsOf views)).eraseDups.map fun key =>
        (indicesOf rows views key, rows.filter (textsOf views · = key)) := by
  have apart : ∀ first ∈ rows.map (textsOf views), ∀ second ∈ rows.map (textsOf views),
      indicesOf rows views first = indicesOf rows views second → first = second := by
    simp only [List.forall_mem_map]
    exact fun first one second two => indicesOf_apart views one two
  have keys : (rows.map fun row => indicesOf rows views (textsOf views row)).eraseDups =
      (rows.map (textsOf views)).eraseDups.map (indicesOf rows views) := by
    rw [← eraseDups_map apart, List.map_map]
    rfl
  rw [collect_eq, List.map_map, Function.comp_def, keys, List.map_map]
  refine List.map_congr_left fun key member => ?_
  obtain ⟨row, inside, rfl⟩ := List.mem_map.mp (List.mem_eraseDups.mp member)
  have members : rows.filter (fun other => indicesOf rows views (textsOf views other) =
      indicesOf rows views (textsOf views row)) = rows.filter (textsOf views · = textsOf views row) :=
    List.filter_congr fun other known => by
      rw [decide_eq_decide]
      exact ⟨indicesOf_apart views known inside, congrArg _⟩
  rw [Function.comp_apply, List.filter_map, List.map_map, ← members]
  exact congrArg (Prod.mk _) (List.map_id _)

/-- Rows are grouped by their texts. -/
theorem ofRows_texts : ofRows rows (columnsOf rows views) =
    .ok ((rows.map (textsOf views)).eraseDups.map fun key =>
      (key.map .ofText?, rows.filter (textsOf views · = key))) := by
  have zipped : (rows.map fun row => indicesOf rows views (textsOf views row)).zip rows =
      rows.map fun row => (indicesOf rows views (textsOf views row), row) := by
    rw [List.zip_map_left, List.zip_eq_zipWith, List.zipWith_self, List.map_map]
    rfl
  rw [ofRows, bind_ok (usable_columnsOf rows views)]
  dsimp only
  rw [transpose_indices, zipped, collect_indices, List.map_map]
  refine congrArg Except.ok (List.map_congr_left fun key member => ?_)
  obtain ⟨row, inside, rfl⟩ := List.mem_map.mp (List.mem_eraseDups.mp member)
  exact congrArg (Prod.mk · _) (cellsAt_indicesOf views inside)

end Texts

end Group

theorem Row.column_congr {rows others : List Row} {ref : ColumnRef} (field : ref.pseudo = false)
    (same : rows.map (·.document) = others.map (·.document)) : column rows ref layout = column others ref layout := by
  have told (rows : List Row) :
      rows.mapM (·.answer ref.name) =
        (rows.map (·.document)).mapM fun document => (Row.mk [] document).answer ref.name := by
    rw [List.mapM_map]
    rfl
  simp only [column, field, Bool.false_eq_true, if_false]
  rw [told, told, same]

theorem AggregateCall.evaluate_congr {call : AggregateCall} (fields : ∀ ref ∈ call.argument, ref.pseudo = false)
    {rows others : List Row} (same : rows.map (·.document) = others.map (·.document)) :
    call.evaluate rows layout = call.evaluate others layout := by
  unfold evaluate
  cases argument : call.argument with
  | none =>
    have long : rows.length = others.length := by simpa using congrArg List.length same
    simp only [long]
  | some ref => simp only [Row.column_congr (fields ref argument) same]

theorem AggregateCall.ofNumbers_succeeds {function : Aggregate} (known : function ∈ Aggregate.known)
    (numeric : function ≠ .count) (numbers : List Float) : ∃ value, ofNumbers function numbers = .ok value := by
  unfold ofNumbers
  split
  · exact ⟨_, rfl⟩
  · simp only [Aggregate.known, List.mem_cons, List.not_mem_nil, or_false, numeric, false_or] at known
    rcases known with rfl | rfl | rfl | rfl | rfl <;> exact ⟨_, rfl⟩

theorem AggregateCall.evaluate_succeeds {call : AggregateCall} (valid : call.WellFormed)
    (fields : ∀ ref ∈ call.argument, ref.pseudo = false) {rows : List Row}
    (readable : ∀ row ∈ rows, row.document.IsReadable) : ∃ value, call.evaluate rows layout = .ok value := by
  unfold evaluate
  cases argument : call.argument with
  | none => exact ⟨_, rfl⟩
  | some ref =>
    have field := fields ref argument
    refine bind_succeeds (Row.column_succeeds readable (ColumnRef.isPlaced_of_field field)) fun cells => ?_
    split
    next => exact ⟨_, rfl⟩
    next numeric =>
      simp only [field, Bool.false_eq_true, if_false]
      exact ofNumbers_succeeds valid.known numeric _

namespace Filter

/-- The records that a filter wants. -/
def passing (filter : Filter) (records : List Submission) (layout : Layout) : Except Fault (List Submission) := do
  if records.isEmpty then return []
  else return ((records.zip (← filter.mask (Row.ofSubmissions records layout) layout)).filter Prod.snd).map Prod.fst

theorem rows_all (rows : List Row) : all.rows rows layout = .ok rows := by
  unfold Filter.rows
  split
  next none =>
    rw [List.isEmpty_iff.mp none]
    rfl
  next =>
    have every := filter_eq_masked rows fun _ => true
    rw [List.filter_true] at every
    exact congrArg Except.ok every.symm

theorem rows_eq_passing {filter : Filter} {records : List Submission} {kept : List Row}
    (ran : filter.rows (Row.ofSubmissions records layout) layout = .ok kept) :
    ∃ passing, filter.passing records layout = .ok passing ∧
      kept = passing.map (Row.ofSubmission layout (Row.isFloating records)) := by
  have known := rows_keeps ran
  rw [Row.ofSubmissions_eq, List.filter_map] at known
  refine ⟨_, ?_, known⟩
  unfold Filter.rows at ran
  unfold Filter.passing
  rw [Row.ofSubmissions_eq] at ran ⊢
  rw [List.isEmpty_map] at ran
  split at ran
  next none =>
    rw [List.isEmpty_iff.mp none]
    rfl
  next some_record =>
    obtain ⟨mask, found, ran⟩ := ok_of_bind ran
    rw [if_neg some_record, bind_ok found, mask_keeps found, List.map_map, ← filter_eq_masked]
    rfl

end Filter

namespace Select

variable {wanted : Select}

/-- Plain fields beside aggregates of fields or of whole rows. -/
structure GroupsFields (wanted : Select) : Prop where
  keys : wanted.columns ≠ []
  aggregates : wanted.aggregates ≠ []
  fields : ∀ ref ∈ wanted.items.filterMap (·.expr.column?), ref.pseudo = false

instance (wanted : Select) : Decidable wanted.GroupsFields :=
  decidable_of_iff (wanted.columns ≠ [] ∧ wanted.aggregates ≠ [] ∧
      ∀ ref ∈ wanted.items.filterMap (·.expr.column?), ref.pseudo = false)
    ⟨fun ⟨keys, aggregates, fields⟩ => ⟨keys, aggregates, fields⟩,
      fun mixed => ⟨mixed.keys, mixed.aggregates, mixed.fields⟩⟩

theorem GroupsFields.columns (mixed : wanted.GroupsFields) : ∀ ref ∈ wanted.columns, ref.pseudo = false :=
  fun ref member => mixed.fields ref (column_mem_items member)

theorem GroupsFields.arguments (mixed : wanted.GroupsFields) :
    ∀ call ∈ wanted.aggregates, ∀ ref ∈ call.argument, ref.pseudo = false :=
  fun _ member ref argument => mixed.fields ref (argument_mem_items member argument)

theorem GroupsFields.listed (mixed : wanted.GroupsFields) (valid : wanted.WellFormed) : wanted.star = false := by
  by_contra star
  have none := valid.columns
  rw [if_pos (Bool.eq_true_of_not_eq_false star)] at none
  exact mixed.keys (by rw [Select.columns, none]; rfl)

def keyCells (wanted : Select) (row : List Value) : List Value :=
  (wanted.items.zip row).filterMap fun (item, cell) => match item.expr with
    | .column _ => some cell
    | .aggregate _ => none

def aggregateCells (wanted : Select) (row : List Value) : List Value :=
  (wanted.items.zip row).filterMap fun (item, cell) => match item.expr with
    | .column _ => none
    | .aggregate _ => some cell

theorem groupRow_cells (wanted : Select) {group : List Row} {items : List SelectItem} {keys cells : List Value}
    (ran : groupRow layout group items keys = .ok cells)
    (enough : keys.length = { wanted with items }.columns.length) :
    { wanted with items }.keyCells cells = keys.map Value.orNull ∧
      { wanted with items }.aggregates.mapM (fun call : AggregateCall => call.evaluate group layout) =
        Except.ok ({ wanted with items }.aggregateCells cells) := by
  induction items generalizing keys cells with
  | nil =>
    obtain rfl : keys = [] := by simpa [columns] using enough
    cases ran
    exact ⟨rfl, rfl⟩
  | cons item items ih =>
    unfold groupRow at ran
    split at ran
    next ref shape =>
      obtain ⟨rest, others, ran⟩ := ok_of_bind ran
      cases ran
      cases keys with
      | nil => simp [columns, shape] at enough
      | cons key keys =>
        obtain ⟨same, shown⟩ := ih others (by simpa [columns, shape] using enough)
        constructor
        · simpa [keyCells, shape] using same
        · simpa [aggregates, aggregateCells, shape] using shown
    next call shape =>
      obtain ⟨value, found, ran⟩ := ok_of_bind ran
      obtain ⟨rest, others, ran⟩ := ok_of_bind ran
      cases ran
      obtain ⟨same, shown⟩ := ih others (by simpa [columns, shape] using enough)
      constructor
      · simpa [keyCells, shape] using same
      · rw [mapM_eq_ok] at shown ⊢
        simpa [aggregates, aggregateCells, shape, found] using shown

theorem groupRow_succeeds {group : List Row} {items : List SelectItem} (each : ∀ item ∈ items, ∀ call,
    item.expr = .aggregate call → ∃ value, call.evaluate group layout = .ok value) (keys : List Value) :
    ∃ cells, groupRow layout group items keys = .ok cells := by
  induction items generalizing keys with
  | nil => exact ⟨_, rfl⟩
  | cons item items ih =>
    obtain ⟨first, others⟩ := List.forall_mem_cons.mp each
    unfold groupRow
    split
    next => exact bind_succeeds (ih others _) fun rest => ⟨_, rfl⟩
    next call shape =>
      exact bind_succeeds (first call shape) fun value => bind_succeeds (ih others _) fun rest => ⟨_, rfl⟩

/-- The aggregates of a query, of all records, with nothing beside them. -/
def aggregatesAlone (wanted : Select) : Select :=
  { wanted with
    items := wanted.items.filter fun item => match item.expr with
      | .column _ => false
      | .aggregate _ => true
    filter := .all }

theorem columns_aggregatesAlone (wanted : Select) : wanted.aggregatesAlone.columns = [] := by
  refine List.filterMap_eq_nil_iff.mpr fun item member => ?_
  have known := (List.mem_filter.mp member).2
  cases shape : item.expr with
  | column ref => simp [shape] at known
  | aggregate call => rfl

theorem aggregates_aggregatesAlone (wanted : Select) : wanted.aggregatesAlone.aggregates = wanted.aggregates := by
  unfold aggregates aggregatesAlone
  rw [List.filterMap_filter]
  refine List.filterMap_congr fun item _ => ?_
  cases item.expr <;> rfl

theorem evaluate_aggregatesAlone (listed : wanted.star = false) (some_aggregate : wanted.aggregates ≠ [])
    {submissions : List Submission} {cells : List Value}
    (ran : wanted.aggregates.mapM (·.evaluate (Row.ofSubmissions submissions layout) layout) = .ok cells) :
    wanted.aggregatesAlone.evaluate submissions layout =
      .ok ⟨wanted.aggregatesAlone.items.map (·.outputName), [cells]⟩ := by
  have star : wanted.aggregatesAlone.star = false := listed
  have all : wanted.aggregatesAlone.filter.rows (Row.ofSubmissions submissions layout) layout =
      .ok (Row.ofSubmissions submissions layout) := Filter.rows_all _
  have several : wanted.aggregatesAlone.aggregates.isEmpty = false := by
    simpa [aggregates_aggregatesAlone] using some_aggregate
  have alone : wanted.aggregatesAlone.isGrouped = false := by simp [isGrouped, columns_aggregatesAlone]
  rw [← aggregates_aggregatesAlone] at ran
  rw [evaluate, bind_ok all]
  simp only [star, several, alone, Bool.false_eq_true, if_false, bind_ok ran]
  rfl

end Select

/-- The texts that a record has in the plain columns of a query, each a null where the document has none. -/
def Select.keyTexts (layout : Layout) (wanted : Select) (record : Submission) : List (Option String) :=
  wanted.columns.map fun ref => fieldText (Row.fetched record layout.documentColumn) ref.name

/-- A result of groups by key, over the records that are wanted. -/
structure Select.GroupedByKey (layout : Layout) (wanted : Select) (passing : List Submission) (table : ResultTable) :
    Prop where
  columns : table.columns = wanted.items.map (·.outputName)
  full : ∀ row ∈ table.rows, row.length = wanted.items.length
  distinct : (table.rows.map wanted.keyCells).Nodup
  /-- The keys are those of the records, in order of appearance. -/
  keys : table.rows.map wanted.keyCells =
    (passing.map (wanted.keyTexts layout)).eraseDups.map fun key => key.map .ofText?
  /-- The aggregates of a row are those of the records that have its key. -/
  aggregates : ∀ row ∈ table.rows, ∀ key, wanted.keyCells row = key.map .ofText? →
    wanted.aggregatesAlone.evaluate (passing.filter (wanted.keyTexts layout · = key)) layout =
      .ok ⟨wanted.aggregatesAlone.items.map (·.outputName), [wanted.aggregateCells row]⟩

namespace Select

variable {wanted : Select}

def fieldTexts (wanted : Select) : List (Row → Option String) :=
  wanted.columns.map fun ref row => fieldText row.document ref.name

theorem textsOf_fieldTexts (floating : String → Bool) :
    Group.textsOf wanted.fieldTexts ∘ Row.ofSubmission layout floating = wanted.keyTexts layout := by
  funext record
  rw [Function.comp_apply, Group.textsOf, fieldTexts, List.map_map]
  rfl

theorem columns_texts (fields : ∀ ref ∈ wanted.columns, ref.pseudo = false) {rows : List Row}
    {columns : List (List Value)} (ran : wanted.columns.mapM (Row.column rows · layout) = .ok columns) :
    columns = Group.columnsOf rows wanted.fieldTexts := by
  have cells : columns = wanted.columns.map fun ref => rows.map fun row => .ofText? (fieldText row.document ref.name) :=
    eq_map_of_mapM ran fun ref member cells found => column_fields (fields ref member) found
  rw [cells, Group.columnsOf, fieldTexts, List.map_map]
  exact List.map_congr_left fun ref _ => by rw [Function.comp_apply, List.map_map]; rfl

/-- There is a row to each different key of the records, made of the records that have this key. -/
theorem groupedRows_records (fields : ∀ ref ∈ wanted.columns, ref.pseudo = false) (passing : List Submission)
    (floating : String → Bool) {columns : List (List Value)}
    (ran : wanted.columns.mapM (Row.column (passing.map (Row.ofSubmission layout floating)) · layout) = .ok columns) :
    wanted.groupedRows (passing.map (Row.ofSubmission layout floating)) layout =
      (passing.map (wanted.keyTexts layout)).eraseDups.mapM fun key =>
        groupRow layout ((passing.filter (wanted.keyTexts layout · = key)).map (Row.ofSubmission layout floating))
          wanted.items (key.map .ofText?) := by
  rw [groupedRows, bind_ok ran]
  split
  next none =>
    rw [List.isEmpty_map] at none
    rw [List.isEmpty_iff.mp none]
    rfl
  next =>
    rw [columns_texts fields ran, bind_ok (Group.ofRows_texts _ _), List.mapM_map, List.map_map, textsOf_fieldTexts]
    simp only [List.filter_map]
    have texts (record : Submission) : Group.textsOf wanted.fieldTexts (Row.ofSubmission layout floating record) =
        wanted.keyTexts layout record := congrFun (textsOf_fieldTexts floating) record
    simp only [Function.comp_def, texts]

theorem groupRow_key {group : List Row} {record : Submission} {row : List Value}
    (found : groupRow layout group wanted.items ((wanted.keyTexts layout record).map .ofText?) = .ok row) :
    wanted.keyCells row = (wanted.keyTexts layout record).map .ofText? ∧
      wanted.aggregates.mapM (fun call : AggregateCall => call.evaluate group layout) =
        Except.ok (wanted.aggregateCells row) := by
  have plain : ((wanted.keyTexts layout record).map Value.ofText?).map Value.orNull =
      (wanted.keyTexts layout record).map Value.ofText? := by
    rw [List.map_map]
    exact List.map_congr_left fun text? _ => by cases text? <;> rfl
  have cells := groupRow_cells wanted found (by simp [keyTexts])
  rwa [plain] at cells

theorem groupedByKey_of_groupedRows (valid : wanted.WellFormed) (mixed : wanted.GroupsFields)
    {passing : List Submission} {floating : String → Bool} {cells : List (List Value)}
    (ran : wanted.groupedRows (passing.map (Row.ofSubmission layout floating)) layout = .ok cells) :
    wanted.GroupedByKey layout passing ⟨wanted.items.map (·.outputName), cells⟩ := by
  obtain ⟨columns, read, -⟩ := ok_of_bind ran
  rw [groupedRows_records mixed.columns passing floating read] at ran
  have keys : cells.map wanted.keyCells =
      (passing.map (wanted.keyTexts layout)).eraseDups.map fun key => key.map .ofText? := by
    refine map_of_mapM ran fun key known row found => ?_
    obtain ⟨record, -, rfl⟩ := List.mem_map.mp (List.mem_eraseDups.mp known)
    exact (groupRow_key found).1
  constructor
  case columns => rfl
  case keys => exact keys
  case full =>
    intro row member
    obtain ⟨key, -, found⟩ := mem_of_mapM ran member
    exact length_groupRow found
  case distinct =>
    rw [keys]
    exact (nodup_eraseDups _).map Value.ofText?_injective.list_map
  case aggregates =>
    intro row member key same
    obtain ⟨own, known, found⟩ := mem_of_mapM ran member
    obtain ⟨record, -, rfl⟩ := List.mem_map.mp (List.mem_eraseDups.mp known)
    obtain ⟨shows, aggregates⟩ := groupRow_key found
    obtain rfl : wanted.keyTexts layout record = key := Value.ofText?_injective.list_map (shows.symm.trans same)
    refine evaluate_aggregatesAlone (mixed.listed valid) mixed.aggregates ?_
    -- The types of the columns may differ between the sample and the group, but aggregates look at documents.
    rw [mapM_eq_ok] at aggregates ⊢
    refine Eq.trans (List.map_congr_left fun call inside => ?_) aggregates
    refine AggregateCall.evaluate_congr (mixed.arguments call inside) ?_
    rw [Row.documents_ofSubmissions, List.map_map]
    rfl

theorem groupedRows_succeeds (valid : wanted.WellFormed) (mixed : wanted.GroupsFields) {passing : List Submission}
    {floating : String → Bool}
    (readable : ∀ row ∈ passing.map (Row.ofSubmission layout floating), row.document.IsReadable) :
    ∃ cells, wanted.groupedRows (passing.map (Row.ofSubmission layout floating)) layout = .ok cells := by
  obtain ⟨columns, read⟩ : ∃ columns,
      wanted.columns.mapM (Row.column (passing.map (Row.ofSubmission layout floating)) · layout) = .ok columns :=
    columns_succeed readable fun ref member => ColumnRef.isPlaced_of_field (mixed.columns ref member)
  rw [groupedRows_records mixed.columns passing floating read]
  refine mapM_succeeds fun key _ => groupRow_succeeds (fun item inside call shape => ?_) _
  have own : call ∈ wanted.aggregates := mem_aggregates.mpr ⟨item, inside, shape⟩
  refine AggregateCall.evaluate_succeeds (valid.aggregate own) (mixed.arguments call own) ?_
  exact fun row member => readable row ((List.filter_sublist.map _).subset member)

/-- Aggregates beside fields are those of groups by key. A result exists when every document is JSON or no record, and
every system column has a column behind it. -/
theorem evaluate_grouped {source : String} {wanted : Select} (read : Query.read source = .accepted (.select wanted))
    (mixed : wanted.GroupsFields) (layout : Layout) (records : List Submission) :
    (∀ table, wanted.evaluate records layout = .ok table → ∃ passing,
      wanted.filter.passing records layout = .ok passing ∧ wanted.GroupedByKey layout passing table) ∧
    (layout.Complete → Readable layout records → ∃ table, wanted.evaluate records layout = .ok table) := by
  have valid : wanted.WellFormed := Query.wellFormed_of_read read
  have several : wanted.aggregates.isEmpty = false := by simpa using mixed.aggregates
  have grouped : wanted.isGrouped = true := by simp [isGrouped, mixed.aggregates, mixed.keys]
  constructor
  · intro table ran
    obtain ⟨kept, filtered, ran⟩ := ok_of_bind ran
    obtain ⟨passing, passed, rfl⟩ := Filter.rows_eq_passing filtered
    simp only [mixed.listed valid, several, grouped, Bool.false_eq_true, if_false, if_true] at ran
    obtain ⟨cells, found, ran⟩ := ok_of_bind ran
    cases ran
    exact ⟨passing, passed, groupedByKey_of_groupedRows valid mixed found⟩
  · intro complete readable
    have readable := Row.readable_ofSubmissions readable
    obtain ⟨kept, filtered⟩ := Filter.rows_run readable valid.filter (valid.isPlaced complete).conditions
    have readable : ∀ row ∈ kept, row.document.IsReadable :=
      fun row member => readable row (Filter.mem_of_rows filtered row member)
    rw [evaluate, bind_ok filtered]
    obtain ⟨passing, -, rfl⟩ := Filter.rows_eq_passing filtered
    simp only [mixed.listed valid, several, grouped, Bool.false_eq_true, if_false, if_true]
    exact bind_succeeds (groupedRows_succeeds valid mixed readable) fun cells => ⟨_, rfl⟩

/-- An aggregate before, between and behind two fields, of the records that a system column tells. -/
theorem evaluate_grouped_interleaved :
    let source := "SELECT COUNT(*), FIELD('a'), SUM(FIELD('n')) AS 'total', FIELD('b'), MAX(FIELD('n')) FROM 'f' " ++
      "WHERE submission_id != 'r0'"
    ∃ wanted, Query.read source = .accepted (.select wanted) ∧ wanted.GroupsFields ∧
      ∀ records, Readable {} records → ∃ table passing, wanted.evaluate records {} = .ok table ∧
        wanted.filter.passing records {} = .ok passing ∧ wanted.GroupedByKey {} passing table := by
  intro source
  have shown : readsSelect (fun wanted => decide wanted.GroupsFields) (Query.read source) = true := by decide +kernel
  obtain ⟨wanted, read, mixed⟩ := select_of_reads shown
  have mixed := of_decide_eq_true mixed
  refine ⟨wanted, read, mixed, fun records readable => ?_⟩
  obtain ⟨grouped, succeeds⟩ := evaluate_grouped read mixed {} records
  obtain ⟨table, ran⟩ := succeeds (by decide) readable
  obtain ⟨passing, passed, groups⟩ := grouped table ran
  exact ⟨table, passing, ran, passed, groups⟩

end Select

end FormQuery
