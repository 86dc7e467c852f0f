import FormQuery.Proofs.CompilationOutcome
import FormQuery.Query.Skeleton
import FormQuery.Sql.Scan

/-! What a user writes stays between quotes. SQL outside of its quotes depends on the skeleton of a query alone, and the
texts between the quotes are those of the query, in order. Both are found again in the text of the SQL. -/

namespace FormQuery

open Sql

namespace Sql

variable {layout : Layout}

/-- Leaves the place of a text between quotes, but not the text. -/
def Piece.hollow : Piece → Piece
  | .literal _ => .literal ""
  | .label _ => .label ""
  | piece => piece

def hollow (sql : Sql) : Sql := sql.map Piece.hollow

@[simp] theorem hollow_append (first second : Sql) : hollow (first ++ second) = hollow first ++ hollow second :=
  List.map_append

@[simp] theorem hollow_cons (piece : Piece) (sql : Sql) : hollow (piece :: sql) = piece.hollow :: hollow sql := rfl

@[simp] theorem hollow_nil : hollow [] = [] := rfl

@[simp] theorem hollow_separated (separator : String) (parts : List Sql) :
    hollow (separated separator parts) = separated separator (parts.map hollow) := by
  induction parts with
  | nil => rfl
  | cons part rest ih =>
    cases rest with
    | nil => rfl
    | cons other rest =>
      simp only [separated, hollow_append, hollow_cons, ih, List.map_cons]
      rfl

theorem marks_hollow (sql : Sql) : marks (hollow sql) = (marks sql).map Mark.hollow := by
  induction sql with
  | nil => rfl
  | cons piece rest ih =>
    have own : piece.hollow.marks = piece.marks.map Mark.hollow := by
      cases piece <;> simp [Piece.hollow, Piece.marks, Mark.hollow]
    calc marks (hollow (piece :: rest)) = piece.hollow.marks ++ marks (hollow rest) := rfl
      _ = piece.marks.map Mark.hollow ++ (marks rest).map Mark.hollow := by rw [own, ih]
      _ = (marks (piece :: rest)).map Mark.hollow := by simp [marks]

/-- A run gives the same hollow SQL as another one, or the same fault. -/
abbrev Alike (first second : Except Fault Sql) : Prop := first.map hollow = second.map hollow

theorem column_hollow (ref : ColumnRef) : Alike (column ref layout) (column ref.skeleton layout) := by
  unfold column ColumnRef.skeleton
  cases ref.pseudo <;> rfl

theorem isNumber_skeleton (literal : Literal) : literal.skeleton.isNumber = literal.isNumber := by
  unfold Literal.skeleton
  split
  next number => rfl
  next plain => exact (Bool.eq_false_iff.mpr plain).symm

theorem ofLiteral_hollow (literal : Literal) : hollow (ofLiteral literal) = hollow (ofLiteral literal.skeleton) := by
  unfold ofLiteral
  rw [isNumber_skeleton]
  split
  next number => simp [Literal.skeleton, number, Literal.text]
  next => rfl

theorem pseudo_skeleton (ref : ColumnRef) : ref.skeleton.pseudo = ref.pseudo := by
  unfold ColumnRef.skeleton
  cases ref.pseudo <;> rfl

theorem alike_ok {first second : Sql} (same : hollow first = hollow second) : Alike (.ok first) (.ok second) :=
  congrArg Except.ok same

theorem guardedCast_alike {first second : Sql} (same : hollow first = hollow second) :
    hollow (guardedCast first) = hollow (guardedCast second) := by
  simp [guardedCast, same]

theorem condition_alike (wanted : Condition) : Alike (condition layout wanted) (condition layout wanted.skeleton) := by
  refine bind_alike (column_hollow wanted.column) fun left right same => alike_ok ?_
  have operand := guardedCast_alike same
  have constant := ofLiteral_hollow wanted.value
  simp only [Condition.skeleton, isNumber_skeleton, pseudo_skeleton, hollow_append, hollow_cons, constant]
  split <;> simp [same, operand]

theorem chain_alike (rest : List (Connector × Condition)) {first second : Sql} (same : hollow first = hollow second) :
    Alike (chain layout first rest)
      (chain layout second (rest.map fun (connector, next) => (connector, next.skeleton))) := by
  induction rest generalizing first second with
  | nil => exact alike_ok same
  | cons link rest ih =>
    obtain ⟨connector, next⟩ := link
    refine bind_alike (condition_alike next) fun left right alike => ih ?_
    simp [same, alike]

theorem filter_alike (wanted : Filter) :
    (filter layout wanted).map (List.map hollow) = (filter layout wanted.skeleton).map (List.map hollow) := by
  cases wanted with
  | all | empty => rfl
  | chain first rest =>
    refine bind_alike (condition_alike first) fun left right same => ?_
    refine bind_alike (chain_alike rest same) fun left right alike => ?_
    exact congrArg (fun sql => Except.ok [sql]) alike

theorem aggregate_alike (call : AggregateCall) : Alike (aggregate call layout) (aggregate call.skeleton layout) := by
  obtain ⟨function, argument, position⟩ := call
  cases argument with
  | none => rfl
  | some ref =>
    refine bind_alike (column_hollow ref) fun left right same => ?_
    have operand := guardedCast_alike same
    simp only [AggregateCall.skeleton, pseudo_skeleton]
    split <;> refine alike_ok ?_ <;> split <;> simp [same, operand]

theorem selectItem_alike (item : SelectItem) : Alike (selectItem layout item) (selectItem layout item.skeleton) := by
  obtain ⟨expr, alias?⟩ := item
  cases expr with
  | aggregate call =>
    refine bind_alike (aggregate_alike call) fun left right same => alike_ok ?_
    simp [same, Piece.hollow]
  | column ref =>
    obtain ⟨name, position, pseudo⟩ := ref
    cases pseudo with
    | true => rfl
    | false =>
      refine bind_alike (column_hollow ⟨name, position, false⟩) fun left right same => alike_ok ?_
      simp [same, Piece.hollow]

theorem columns_skeleton (wanted : Select) : wanted.skeleton.columns = wanted.columns.map ColumnRef.skeleton := by
  simp only [Select.columns, Select.skeleton, List.filterMap_map, List.map_filterMap]
  congr 1
  funext item
  obtain ⟨expr, alias?⟩ := item
  cases expr <;> rfl

theorem aggregates_skeleton (wanted : Select) :
    wanted.skeleton.aggregates = wanted.aggregates.map AggregateCall.skeleton := by
  simp only [Select.aggregates, Select.skeleton, List.filterMap_map, List.map_filterMap]
  congr 1
  funext item
  obtain ⟨expr, alias?⟩ := item
  cases expr <;> rfl

theorem isGrouped_skeleton (wanted : Select) : wanted.skeleton.isGrouped = wanted.isGrouped := by
  simp [Select.isGrouped, columns_skeleton, aggregates_skeleton]

theorem resultColumns_alike (wanted : Select) : (resultColumns layout wanted).map (List.map hollow) =
    (resultColumns layout wanted.skeleton).map (List.map hollow) := by
  unfold resultColumns
  cases shown : wanted.star with
  | true => simp [Select.skeleton, shown]
  | false => simpa [Select.skeleton, shown] using mapM_alike fun item _ => selectItem_alike item

theorem groupKeys_alike (wanted : Select) : (groupKeys layout wanted).map (List.map hollow) =
    (groupKeys layout wanted.skeleton).map (List.map hollow) := by
  unfold groupKeys
  rw [isGrouped_skeleton, columns_skeleton]
  split
  · exact mapM_alike fun ref _ => column_hollow ref
  · rfl

theorem select_alike (wanted : Select) : Alike (select layout wanted) (select layout wanted.skeleton) := by
  rw [select_eq, select_eq]
  refine bind_alike (resultColumns_alike wanted) fun columns others listed => ?_
  refine bind_alike (filter_alike wanted.filter) fun conditions changed filtered => ?_
  refine bind_alike (groupKeys_alike wanted) fun keys same grouped => alike_ok ?_
  have table : (partition wanted.table.name layout).hollow = (partition wanted.skeleton.table.name layout).hollow := rfl
  have grouping : (grouping wanted keys).hollow = (grouping wanted.skeleton same).hollow := by
    unfold Sql.grouping
    rw [isGrouped_skeleton]
    split <;> simp [grouped]
  simp [statement, listed, filtered, table, grouping]

theorem call_alike (function : StringFunction) {first second : List Sql} (same : first.map hollow = second.map hollow) :
    Alike (call function first) (call function second) := by
  cases function with
  | substring =>
    rcases first with _ | ⟨text, _ | ⟨start, _ | ⟨size, _ | ⟨more, rest⟩⟩⟩⟩ <;>
      rcases second with _ | ⟨text', _ | ⟨start', _ | ⟨size', _ | ⟨more', rest'⟩⟩⟩⟩ <;>
        simp at same
    · rfl
    · rfl
    · exact alike_ok (by simp [same])
    · exact alike_ok (by simp [same])
    · exact alike_ok (by simp [same])
  | left | right | upper | lower | trim | length | concat | replace => exact alike_ok (by simp [same])

mutual
theorem value_alike (expr : ValueExpr) : Alike (value layout expr) (value layout expr.skeleton) := by
  cases expr with
  | literal constant => exact alike_ok (ofLiteral_hollow constant)
  | field ref =>
    refine bind_alike (column_hollow ref) fun left right same => alike_ok ?_
    simp [same]
  | call callee arguments position =>
    rw [ValueExpr.skeleton, value, value]
    split
    next function found => exact bind_alike (values_alike arguments) fun left right same => call_alike function same
    next => rfl
  | foreign kind => rfl

theorem values_alike (arguments : List ValueExpr) : (values layout arguments).map (List.map hollow) =
    (values layout (ValueExpr.skeletons arguments)).map (List.map hollow) := by
  cases arguments with
  | nil => rfl
  | cons argument rest =>
    rw [ValueExpr.skeletons, values, values]
    refine bind_alike (value_alike argument) fun left right first => ?_
    refine bind_alike (values_alike rest) fun lefts rights others => ?_
    simp [pure, Except.pure, Except.map, first, others]
end

theorem newValue_alike (expr : ValueExpr) : Alike (newValue layout expr) (newValue layout expr.skeleton) := by
  have read : Alike (value layout expr) (value layout expr.skeleton) := value_alike expr
  cases expr with
  | literal constant | foreign kind => rfl
  | field ref | call callee arguments position =>
    rw [ValueExpr.skeleton] at read ⊢
    refine bind_alike read fun left right same => alike_ok ?_
    simp [same]

theorem update_alike (change : Update) : Alike (update layout change) (update layout change.skeleton) := by
  refine bind_alike (newValue_alike change.value) fun left right same => ?_
  have known : layout.rowIdColumn.map id = layout.rowIdColumn.map id := rfl
  refine bind_alike known fun row other equal => alike_ok ?_
  obtain rfl : row = other := equal
  simp [same, Update.skeleton, partition, Piece.hollow]

/-- SQL outside of its quotes depends on the skeleton of a query alone, and so does whether there is SQL. -/
theorem ofQuery_alike (query : Query) : Alike (ofQuery layout query) (ofQuery layout query.skeleton) := by
  cases query with
  | select wanted => exact select_alike wanted
  | update change => exact update_alike change

def Piece.spans : Piece → List Mark
  | .literal content => [.literal content]
  | .label content => [.label content]
  | .code _ | .name _ | .number _ => []

def spans (sql : Sql) : List Mark := sql.flatMap Piece.spans

@[simp] theorem spans_append (first second : Sql) : spans (first ++ second) = spans first ++ spans second := by
  simp [spans]

@[simp] theorem spans_cons (piece : Piece) (sql : Sql) : spans (piece :: sql) = piece.spans ++ spans sql := by
  simp [spans]

@[simp] theorem spans_nil : spans [] = [] := rfl

theorem spans_marks (sql : Sql) : (marks sql).filter Mark.isSpan = spans sql := by
  induction sql with
  | nil => rfl
  | cons piece rest ih =>
    have own : piece.marks.filter Mark.isSpan = piece.spans := by
      cases piece <;> simp [Piece.marks, Piece.spans, Mark.isSpan, List.filter_map, Function.comp_def]
    calc (marks (piece :: rest)).filter Mark.isSpan
        = piece.marks.filter Mark.isSpan ++ (marks rest).filter Mark.isSpan := by simp [marks]
      _ = spans (piece :: rest) := by rw [own, ih, spans_cons]

@[simp] theorem spans_separated (separator : String) (parts : List Sql) :
    spans (separated separator parts) = parts.flatMap spans := by
  induction parts with
  | nil => rfl
  | cons part rest ih =>
    cases rest with
    | nil => simp [separated]
    | cons other rest =>
      simp only [separated, spans_append, spans_cons, ih, List.flatMap_cons, Piece.spans, List.nil_append]

theorem spans_column {ref : ColumnRef} {sql : Sql} (ran : column ref layout = .ok sql) : spans sql = ref.quotes := by
  unfold column at ran
  unfold ColumnRef.quotes
  split at ran
  next pseudo =>
    obtain ⟨physical, _, ran⟩ := ok_of_bind ran
    cases ran
    simp [pseudo, Piece.spans]
  next plain =>
    cases ran
    simp [plain, extraction, Piece.spans]

/-- A cast shows the key on both sides of its test; system columns are not cast. -/
theorem spans_operand {ref : ColumnRef} {sql : Sql} (ran : column ref layout = .ok sql) (casts : Bool) :
    spans (if casts && !ref.pseudo then guardedCast sql else sql) = if casts then ref.castQuotes else ref.quotes := by
  have own := spans_column ran
  unfold ColumnRef.castQuotes
  unfold ColumnRef.quotes at own ⊢
  cases casts with
  | false => simpa using own
  | true =>
    cases pseudo : ref.pseudo with
    | true => simpa [pseudo] using own
    | false =>
      have key : spans sql = [.literal ref.name] := by simpa [pseudo] using own
      simp [guardedCast, key, Piece.spans]

theorem spans_ofLiteral (literal : Literal) : spans (ofLiteral literal) = literal.quotes := by
  unfold ofLiteral Literal.quotes
  split <;> rfl

theorem spans_condition {wanted : Condition} {sql : Sql} (ran : condition layout wanted = .ok sql) :
    spans sql = wanted.quotes := by
  obtain ⟨operand, found, ran⟩ := ok_of_bind ran
  cases ran
  rw [spans_append, spans_operand found, spans_cons, spans_ofLiteral]
  rfl

theorem spans_chain {rest : List (Connector × Condition)} {first sql : Sql} (ran : chain layout first rest = .ok sql) :
    spans sql = spans first ++ rest.flatMap (·.2.quotes) := by
  induction rest generalizing first with
  | nil =>
    cases ran
    simp
  | cons link rest ih =>
    obtain ⟨connector, condition⟩ := link
    obtain ⟨next, found, ran⟩ := ok_of_bind ran
    simp [ih ran, spans_condition found, Piece.spans]

theorem spans_filter {wanted : Filter} {conditions : List Sql} (ran : filter layout wanted = .ok conditions) :
    conditions.flatMap spans = wanted.conditions.flatMap Condition.quotes := by
  cases wanted with
  | all =>
    cases ran
    rfl
  | empty => cases ran
  | chain first rest =>
    obtain ⟨start, found, ran⟩ := ok_of_bind ran
    obtain ⟨sql, chained, ran⟩ := ok_of_bind ran
    cases ran
    simp [spans_chain chained, spans_condition found, Filter.conditions, List.flatMap_map]

theorem spans_aggregate {call : AggregateCall} {sql : Sql} (ran : aggregate call layout = .ok sql) :
    spans sql = call.quotes := by
  obtain ⟨function, argument, position⟩ := call
  cases argument with
  | none =>
    cases ran
    rfl
  | some ref =>
    obtain ⟨plain, found, ran⟩ := ok_of_bind ran
    have argument := spans_operand found (castsArgument function)
    simp only at ran
    split at ran
    all_goals
      cases ran
      rw [spans_append, spans_cons, argument]
      simp [Piece.spans, AggregateCall.quotes]

theorem name_of_pseudo {ref : ColumnRef} (pseudo : ref.pseudo = true) {sql : Sql} (ran : column ref layout = .ok sql) :
    ∃ physical, Fields.get? layout.pseudoColumns ref.name = some physical ∧ sql = [.name physical] := by
  rw [column, if_pos pseudo] at ran
  obtain ⟨physical, found, ran⟩ := ok_of_bind ran
  cases ran
  rw [Layout.physical] at found
  split at found
  next held =>
    cases found
    exact ⟨_, held, rfl⟩
  next => cases found

theorem spans_selectItem {item : SelectItem} {sql : Sql} (ran : selectItem layout item = .ok sql) :
    spans sql = item.quotes layout := by
  obtain ⟨expr, alias?⟩ := item
  cases expr with
  | aggregate call =>
    obtain ⟨summary, found, ran⟩ := ok_of_bind ran
    cases ran
    simp [spans_aggregate found, SelectItem.quotes, Piece.spans]
  | column ref =>
    obtain ⟨plain, found, ran⟩ := ok_of_bind ran
    have own := spans_column found
    have same : (ref.pseudo && text plain = SelectItem.outputName ⟨.column ref, alias?⟩) = true ↔
        ref.pseudo = true ∧
          Fields.get? layout.pseudoColumns ref.name = some (SelectItem.outputName ⟨.column ref, alias?⟩) := by
      rw [Bool.and_eq_true, decide_eq_true_eq]
      refine and_congr_right fun pseudo => ?_
      obtain ⟨physical, held, rfl⟩ := name_of_pseudo pseudo found
      rw [held, Option.some.injEq]
      simp [text, Piece.text, String.join]
    simp only [SelectItem.quotes]
    split at ran
    next bare =>
      cases ran
      rw [if_pos (same.mp bare), own, ColumnRef.quotes, if_pos (same.mp bare).1]
    next named =>
      cases ran
      rw [if_neg fun bare => named (same.mpr bare), spans_append, own]
      rfl

private theorem flatMap_of_mapM {α : Type} {f : α → Except Fault Sql} {quotes : α → List Mark} {items : List α}
    {results : List Sql} (ran : items.mapM f = .ok results)
    (each : ∀ item ∈ items, ∀ sql, f item = .ok sql → spans sql = quotes item) :
    results.flatMap spans = items.flatMap quotes := by
  rw [List.flatMap_def, List.flatMap_def, map_of_mapM ran each]

theorem spans_resultColumns {wanted : Select} {columns : List Sql} (ran : resultColumns layout wanted = .ok columns) :
    columns.flatMap spans =
      if wanted.star then starQuotes layout else wanted.items.flatMap (SelectItem.quotes layout) := by
  unfold resultColumns at ran
  split at ran
  next star =>
    cases ran
    have document : spans [.name layout.documentColumn] = [] := rfl
    rw [if_pos star, starColumns, List.flatMap_append, List.flatMap_map, starQuotes, List.flatMap_singleton, document,
      List.append_nil]
    congr 1
    funext ⟨pseudo, physical⟩
    simp only
    split <;> rfl
  next listed =>
    rw [if_neg listed]
    exact flatMap_of_mapM ran fun item _ sql found => spans_selectItem found

theorem spans_select {wanted : Select} {sql : Sql} (ran : select layout wanted = .ok sql) :
    spans sql = wanted.quotes layout := by
  obtain ⟨columns, conditions, keys, listed, filtered, grouped, rfl⟩ := select_eq_ok.mp ran
  have table : spans (partition wanted.table.name layout) = [.literal wanted.table.name] := rfl
  have keys : spans (grouping wanted keys) =
      if wanted.isGrouped then wanted.columns.flatMap ColumnRef.quotes else [] := by
    unfold grouping
    unfold groupKeys at grouped
    split at grouped
    next several =>
      rw [if_pos several, if_pos several, spans_cons, spans_separated,
        flatMap_of_mapM grouped fun ref _ sql found => spans_column found]
      rfl
    next single => rw [if_neg single, if_neg single]; rfl
  simp only [statement, List.cons_append, spans_cons, spans_append, spans_separated, spans_resultColumns listed, keys,
    List.flatMap_cons, table, spans_filter filtered, Piece.spans, List.nil_append, Select.quotes, List.append_assoc]

theorem spans_call {function : StringFunction} {arguments : List Sql} {sql : Sql}
    (accepted : function.accepts arguments.length = true) (ran : call function arguments = .ok sql) :
    spans sql = arguments.flatMap spans := by
  unfold call at ran
  split at ran
  next =>
    cases ran
    simp [Piece.spans]
  next text start rest unsized =>
    obtain rfl := eq_nil_of_substring accepted unsized
    cases ran
    simp [Piece.spans]
  next => cases ran
  next =>
    cases ran
    simp [Piece.spans]

mutual
theorem spans_value {expr : ValueExpr} (valid : expr.WellFormed) {sql : Sql} (ran : value layout expr = .ok sql) :
    spans sql = expr.quotes := by
  cases expr with
  | literal constant =>
    cases ran
    rw [ValueExpr.quotes, spans_ofLiteral]
  | field ref =>
    obtain ⟨plain, found, ran⟩ := ok_of_bind ran
    cases ran
    simp [ValueExpr.quotes, spans_column found, Piece.spans]
  | call callee arguments position =>
    rw [ValueExpr.WellFormed] at valid
    obtain ⟨⟨function, named, accepted⟩, known⟩ := valid
    rw [value, StringFunction.find?_of_ofName? named] at ran
    obtain ⟨shown, found, ran⟩ := ok_of_bind ran
    rw [ValueExpr.quotes, spans_call (length_values found ▸ accepted) ran, spans_values known found]
  | foreign kind => cases ran

theorem spans_values {arguments : List ValueExpr} (valid : ValueExpr.AllWellFormed arguments) {shown : List Sql}
    (ran : values layout arguments = .ok shown) : shown.flatMap spans = ValueExpr.allQuotes arguments := by
  cases arguments with
  | nil =>
    cases ran
    rfl
  | cons argument rest =>
    rw [ValueExpr.AllWellFormed] at valid
    obtain ⟨first, found, ran⟩ := ok_of_bind ran
    obtain ⟨others, known, ran⟩ := ok_of_bind ran
    cases ran
    rw [ValueExpr.allQuotes, List.flatMap_cons, spans_value valid.1 found, spans_values valid.2 known]
end

theorem spans_newValue {expr : ValueExpr} (valid : expr.WellFormed) {sql : Sql} (ran : newValue layout expr = .ok sql) :
    spans sql = expr.newQuotes := by
  cases expr with
  | literal constant =>
    cases ran
    rfl
  | field ref | call callee arguments position =>
    obtain ⟨shown, found, ran⟩ := ok_of_bind ran
    cases ran
    simp [ValueExpr.newQuotes, spans_value valid found, Piece.spans]
  | foreign kind => cases ran

theorem spans_update {change : Update} (valid : change.WellFormed) {sql : Sql} (ran : update layout change = .ok sql) :
    spans sql = change.quotes := by
  obtain ⟨assigned, found, ran⟩ := ok_of_bind ran
  obtain ⟨row, _, ran⟩ := ok_of_bind ran
  cases ran
  simp [spans_newValue valid.value found, Update.quotes, partition, Piece.spans]

/-- Between the quotes of generated SQL stand the texts of the query, in order. -/
theorem spans_ofQuery {query : Query} (valid : query.WellFormed) {sql : Sql} (ran : ofQuery layout query = .ok sql) :
    spans sql = query.quotes layout := by
  cases query with
  | select wanted => exact spans_select ran
  | update change => exact spans_update valid ran

end Sql

/-- SQL text as a scan takes it apart: every text between quotes ends, and these texts are the ones of the query. -/
theorem Sql.scan_ofQuery {layout : Layout} (named : ∀ name ∈ layout.names, Settings.isIdentifier name.toList = true)
    {query : Query} (valid : query.WellFormed) {sql : Sql} (ran : Sql.ofQuery layout query = .ok sql) :
    Sql.scan sql.text = some sql.marks ∧ sql.marks.filter Mark.isSpan = query.quotes layout := by
  have names (name : String) (member : name ∈ layout.names) : (Piece.name name).isClean :=
    isClean_name (named name member)
  exact ⟨scan_marks_ofQuery names valid ran, (spans_marks sql).trans (spans_ofQuery valid ran)⟩

/-- What a user writes stays between quotes. Of two queries with one skeleton either both have SQL or none has, and both
have it when the layout has the system columns. Taken apart, the texts agree in everything but what stands between
quotes, every text between quotes ends, and between the quotes each holds the texts of its own query, in order. -/
theorem Query.texts_stay_quoted {layout : Layout}
    (named : ∀ name ∈ layout.names, Settings.isIdentifier name.toList = true) {source other : String}
    {first second : Query} (read : Query.read source = .accepted first) (again : Query.read other = .accepted second)
    (same : first.skeleton = second.skeleton) :
    (layout.Complete → ∃ sql, Sql.ofQuery layout first = .ok sql) ∧
      ∀ sql, Sql.ofQuery layout first = .ok sql → ∃ changed, Sql.ofQuery layout second = .ok changed ∧
        ∃ marks others, Sql.scan sql.text = some marks ∧ Sql.scan changed.text = some others ∧
          marks.map Mark.hollow = others.map Mark.hollow ∧
          marks.filter Mark.isSpan = first.quotes layout ∧ others.filter Mark.isSpan = second.quotes layout := by
  have valid := Query.wellFormed_of_read read
  have known := Query.wellFormed_of_read again
  refine ⟨fun complete => Sql.ofQuery_succeeds complete valid, fun sql ran => ?_⟩
  have alike : (Sql.ofQuery layout first).map Sql.hollow = (Sql.ofQuery layout second).map Sql.hollow := by
    rw [Sql.ofQuery_alike first, Sql.ofQuery_alike second, same]
  rw [ran] at alike
  cases changed : Sql.ofQuery layout second with
  | error fault =>
    rw [changed] at alike
    cases alike
  | ok written =>
    rw [changed] at alike
    obtain ⟨scanned, spans⟩ := Sql.scan_ofQuery named valid ran
    obtain ⟨scanned', spans'⟩ := Sql.scan_ofQuery named known changed
    refine ⟨written, rfl, sql.marks, written.marks, scanned, scanned', ?_, spans, spans'⟩
    rw [← Sql.marks_hollow, ← Sql.marks_hollow, Except.ok.inj alike]

private theorem skeleton_of_sum (source : String)
    (shown : (match Query.read source with
      | .accepted (.select ⟨false, [⟨.aggregate ⟨.sum, some ⟨_, _, false⟩, _⟩, _⟩], _,
          .chain ⟨⟨_, _, false⟩, .equal, ⟨.text _, _, none⟩⟩ []⟩) => true
      | _ => false) = true) :
    ∃ query, Query.read source = .accepted query ∧
      query.skeleton = .select ⟨false, [⟨.aggregate ⟨.sum, some ⟨"", 0, false⟩, 0⟩, none⟩], ⟨"", 0⟩,
        .chain ⟨⟨"", 0, false⟩, .equal, ⟨.text "", 0, none⟩⟩ []⟩ := by
  split at shown
  · next read => exact ⟨_, read, rfl⟩
  · cases shown

/-- An attempt to leave the quotes, at every place where this query has a text of its user. -/
theorem Query.texts_stay_quoted_attempt : ∃ first second,
    (∀ name ∈ ({} : Layout).names, Settings.isIdentifier name.toList = true) ∧
      Query.read "SELECT SUM(FIELD('a')) FROM 'f' WHERE FIELD('b') = 'x'" = .accepted first ∧
      Query.read "SELECT SUM(FIELD('a'')')) AS \"\"\"--\" FROM 'f''' WHERE FIELD('\"') = ''' OR 1=1'" =
        .accepted second ∧
      first.skeleton = second.skeleton ∧
      ((({} : Layout).Complete → ∃ sql, Sql.ofQuery {} first = .ok sql) ∧
        ∀ sql, Sql.ofQuery {} first = .ok sql → ∃ changed, Sql.ofQuery {} second = .ok changed ∧
          ∃ marks others, Sql.scan sql.text = some marks ∧ Sql.scan changed.text = some others ∧
            marks.map Mark.hollow = others.map Mark.hollow ∧
            marks.filter Mark.isSpan = first.quotes {} ∧
            others.filter Mark.isSpan = second.quotes {}) := by
  have named : ∀ name ∈ ({} : Layout).names, Settings.isIdentifier name.toList = true := by decide +kernel
  obtain ⟨first, read, skeleton⟩ := skeleton_of_sum
    "SELECT SUM(FIELD('a')) FROM 'f' WHERE FIELD('b') = 'x'" (by decide +kernel)
  obtain ⟨second, again, skeleton'⟩ := skeleton_of_sum
    "SELECT SUM(FIELD('a'')')) AS \"\"\"--\" FROM 'f''' WHERE FIELD('\"') = ''' OR 1=1'" (by decide +kernel)
  have same : first.skeleton = second.skeleton := skeleton.trans skeleton'.symm
  exact ⟨first, second, named, read, again, same, Query.texts_stay_quoted named read again same⟩

end FormQuery
