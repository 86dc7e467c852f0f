import FormQuery.Proofs.GeneratedSql
import FormQuery.Sql.Scan
import Mathlib.Data.List.Forall2

/-! Keys of generated SQL. The generator reads and writes exactly the fields that the traversal of a query meets, and
its partition filter names the form of the query. -/

namespace FormQuery

def fieldNames (refs : List ColumnRef) : List String := (refs.filter (!·.pseudo)).map (·.name)

theorem mem_fieldNames {refs : List ColumnRef} {key : String} :
    key ∈ fieldNames refs ↔ ∃ ref ∈ refs, ref.pseudo = false ∧ ref.name = key := by
  simp [fieldNames, and_assoc]

theorem fieldNames_append (refs others : List ColumnRef) :
    fieldNames (refs ++ others) = fieldNames refs ++ fieldNames others := by
  simp [fieldNames]

namespace Sql

open Piece

/-- Code of the generator that leads to no key and to no form. -/
def plainCode : List String :=
  ["SELECT ", "UPDATE ", " SET ", " = COALESCE(", ", ", " FROM ", " FOR ", "CASE WHEN (", ") ~ ", " THEN (", " AS ",
    "percentile_cont(0.5) WITHIN GROUP (ORDER BY "] ++
    Aggregate.known.map (·.name ++ "(") ++ StringFunction.all.map (functionName · ++ "(")

def arrow : List Char := " ->> ".toList.reverse

/-- Nothing is led to, and a parenthesis behind leads to nothing either. -/
def Idle (leads : List Char → Bool) (before : List Char) : Prop := leads before = false ∧ leads ('(' :: before) = false

/-- Whatever stands before it, some code leads nowhere. -/
def Dull (leads : List Char → Bool) (text : String) : Prop := ∀ before, Idle leads (text.toList.reverse ++ before)

/-- Whatever stands before it, some code leads where an arrow does. -/
def Keyed (leads : List Char → Bool) (text : String) : Prop := ∀ before, leads (text.toList.reverse ++ before) = leads arrow

/-- What code leads to is told by its end, and the end of the code of the generator is always enough. -/
structure Tells (leads : List Char → Bool) : Prop where
  start : Idle leads []
  parenthesis : ∀ before, leads ('(' :: '(' :: before) = false
  plain : ∀ text ∈ plainCode, Dull leads text
  read : Keyed leads " ->> "
  written : Keyed leads "::jsonb) || jsonb_build_object("

/-- If nothing was led to before it, SQL leads to the names of the fields among some columns. -/
def Finds (leads : List Char → Bool) (sql : Sql) (refs : List ColumnRef) : Prop :=
  ∀ before, Idle leads before → ∃ keys after,
    (∀ rest, ledTo leads before (sql.marks ++ rest) = keys ++ ledTo leads after rest) ∧
      ∀ key, key ∈ keys ↔ leads arrow = true ∧ key ∈ fieldNames refs

theorem ledTo_plain (leads : List Char → Bool) (before text : List Char) (rest : List Mark) :
    ledTo leads before (text.map .plain ++ rest) = ledTo leads (text.reverse ++ before) rest := by
  induction text generalizing before with
  | nil => rfl
  | cons c text ih => simp [ledTo, ih]

theorem marks_append (first second : Sql) : (first ++ second).marks = first.marks ++ second.marks :=
  List.flatMap_append

theorem marks_cons (piece : Piece) (sql : Sql) : marks (piece :: sql) = piece.marks ++ sql.marks := List.flatMap_cons

theorem marks_singleton (piece : Piece) : marks [piece] = piece.marks := List.flatMap_singleton _ _

variable {leads : List Char → Bool} {layout : Layout}

namespace Finds

variable {sql first second : Sql} {refs others : List ColumnRef}

theorem congr (finds : Finds leads sql refs) (same : ∀ key, key ∈ fieldNames refs ↔ key ∈ fieldNames others) :
    Finds leads sql others := by
  intro before idle
  obtain ⟨keys, after, found, named⟩ := finds before idle
  refine ⟨keys, after, found, ?_⟩
  intro key
  rw [named, same]

theorem nil : Finds leads [] [] := fun before _ => ⟨[], before, fun _ => rfl, by simp [fieldNames]⟩

theorem name (text : String) : Finds leads [.name text] [] := by
  intro before idle
  refine ⟨[], text.toList.reverse ++ before, ?_, by simp [fieldNames]⟩
  intro rest
  rw [marks_singleton, Piece.marks, ledTo_plain, List.nil_append]

theorem number (text : String) : Finds leads [.number text] [] := name text

theorem label (content : String) : Finds leads [.label content] [] :=
  fun _ _ => ⟨[], [], fun _ => rfl, by simp [fieldNames]⟩

theorem literal (content : String) : Finds leads [.literal content] [] := by
  intro before idle
  refine ⟨[], [], ?_, by simp [fieldNames]⟩
  intro rest
  simp [marks_singleton, Piece.marks, ledTo, idle.1]

/-- Code may stand behind any SQL. -/
theorem concat (finds : Finds leads sql refs) (text : String) : Finds leads (sql ++ [.code text]) refs := by
  intro before idle
  obtain ⟨keys, after, found, named⟩ := finds before idle
  refine ⟨keys, text.toList.reverse ++ after, ?_, named⟩
  intro rest
  rw [marks_append, List.append_assoc, found, marks_singleton, Piece.marks, ledTo_plain]

theorem between {text : String} (dull : Dull leads text) (left : Finds leads first refs)
    (right : Finds leads second others) : Finds leads (first ++ .code text :: second) (refs ++ others) := by
  intro before idle
  obtain ⟨keys, middle, found, named⟩ := left before idle
  obtain ⟨more, after, met, known⟩ := right (text.toList.reverse ++ middle) (dull middle)
  refine ⟨keys ++ more, after, ?_, ?_⟩
  · intro rest
    rw [marks_append, marks_cons, List.append_assoc, List.append_assoc, found, Piece.marks, ledTo_plain, met,
      List.append_assoc]
  · intro key
    rw [List.mem_append, named, known]
    simp [fieldNames, and_or_left]

theorem cons {text : String} (dull : Dull leads text) (finds : Finds leads sql refs) :
    Finds leads (.code text :: sql) refs := between dull nil finds

theorem opened (tells : Tells leads) (finds : Finds leads sql refs) : Finds leads (.code "(" :: sql) refs := by
  intro before idle
  obtain ⟨keys, after, found, named⟩ := finds ('(' :: before) ⟨idle.2, tells.parenthesis before⟩
  refine ⟨keys, after, ?_, named⟩
  intro rest
  rw [marks_cons, List.append_assoc, ← found]
  rfl

theorem key {text : String} (keyed : Keyed leads text) (finds : Finds leads sql refs) {ref : ColumnRef}
    (plain : ref.pseudo = false) : Finds leads (sql ++ [.code text, .literal ref.name]) (refs ++ [ref]) := by
  intro before idle
  obtain ⟨keys, after, found, named⟩ := finds before idle
  refine ⟨keys ++ if leads arrow then [ref.name] else [], [], ?_, ?_⟩
  · intro rest
    rw [marks_append, marks_cons, List.append_assoc, List.append_assoc, found, Piece.marks, ledTo_plain,
      List.append_assoc]
    exact congrArg (fun led => keys ++ ((if led then [ref.name] else []) ++ ledTo leads [] rest)) (keyed after)
  · intro key
    rw [List.mem_append, named]
    cases leads arrow <;> simp [fieldNames, plain]

theorem separated {separator : String} (dull : Dull leads separator) {parts : List Sql}
    {met : List (List ColumnRef)} (each : List.Forall₂ (Finds leads) parts met) :
    Finds leads (Sql.separated separator parts) met.flatten := by
  induction each with
  | nil => exact nil
  | cons finds rest ih =>
    cases rest with
    | nil => simpa [Sql.separated] using finds
    | cons other rest => exact between dull finds ih

end Finds

theorem forall₂_of_mapM {α β γ : Type} {f : α → Except Fault β} {rel : β → γ → Prop} {view : α → γ} {items : List α}
    {results : List β} (ran : items.mapM f = .ok results)
    (each : ∀ item ∈ items, ∀ result, f item = .ok result → rel result (view item)) :
    List.Forall₂ rel results (items.map view) := by
  induction items generalizing results with
  | nil =>
    cases ran
    exact .nil
  | cons item items ih =>
    rw [List.mapM_cons] at ran
    obtain ⟨result, first, ran⟩ := ok_of_bind ran
    obtain ⟨rest, others, ran⟩ := ok_of_bind ran
    cases ran
    apply List.Forall₂.cons
    · exact each item List.mem_cons_self result first
    · exact ih others fun item member => each item (List.mem_cons_of_mem _ member)

section Parts

variable (tells : Tells leads)

include tells

theorem finds_column {ref : ColumnRef} {sql : Sql} (ran : column ref layout = .ok sql) : Finds leads sql [ref] := by
  unfold column at ran
  split at ran
  next pseudo =>
    obtain ⟨physical, _, ran⟩ := ok_of_bind ran
    cases ran
    exact (Finds.name physical).congr (by simp [fieldNames, pseudo])
  next plain =>
    cases ran
    exact .key tells.read (.name layout.documentColumn) (Bool.eq_false_iff.mpr plain)

/-- A cast shows a field on both sides of its test. -/
theorem finds_guardedCast {sql : Sql} {refs : List ColumnRef} (finds : Finds leads sql refs) :
    Finds leads (guardedCast sql) refs := by
  have tested : Finds leads ([literal numericTextPattern] ++ code " THEN (" :: sql) ([] ++ refs) :=
    .between (tells.plain _ (by decide)) (.literal _) finds
  have twice : Finds leads (guardedCast sql) (refs ++ ([] ++ refs)) := by
    rw [guardedCast_eq]
    apply Finds.concat
    apply Finds.cons (tells.plain _ (by decide))
    exact .between (tells.plain _ (by decide)) finds tested
  exact twice.congr (by simp [fieldNames])

theorem finds_operand {ref : ColumnRef} {sql : Sql} (ran : column ref layout = .ok sql) (casts : Bool) :
    Finds leads (if casts && !ref.pseudo then guardedCast sql else sql) [ref] := by
  have column := finds_column tells ran
  split
  · exact finds_guardedCast tells column
  · exact column

omit tells in
theorem finds_ofLiteral (value : Literal) : Finds leads (ofLiteral value) [] := by
  unfold ofLiteral
  split
  · exact .number _
  · exact .literal _

theorem finds_aggregate {call : AggregateCall} {sql : Sql} (valid : call.WellFormed)
    (ran : aggregate call layout = .ok sql) : Finds leads sql call.argument.toList := by
  unfold aggregate at ran
  split at ran
  next none =>
    cases ran
    rw [none]
    exact .concat .nil _
  next ref shown =>
    obtain ⟨plain, found, ran⟩ := ok_of_bind ran
    have argument := finds_operand tells found (castsArgument call.function)
    have name : call.function.name ++ "(" ∈ plainCode := by
      have each : ∀ function ∈ Aggregate.known, function.name ++ "(" ∈ plainCode := by decide
      exact each _ valid.known
    rw [shown]
    simp only at ran
    split at ran
    · cases ran
      exact .concat (.cons (tells.plain _ (by decide)) argument) _
    · cases ran
      exact .concat (.cons (tells.plain _ name) argument) _

theorem finds_selectItem {item : SelectItem} {sql : Sql} (valid : item.expr.WellFormed)
    (ran : selectItem layout item = .ok sql) : Finds leads sql item.expr.column?.toList := by
  have titled {sql : Sql} {refs : List ColumnRef} (finds : Finds leads sql refs) :
      Finds leads (sql ++ [code " AS ", label item.outputName]) refs := by
    have both : Finds leads (sql ++ code " AS " :: [label item.outputName]) (refs ++ []) :=
      .between (tells.plain _ (by decide)) finds (.label _)
    simpa using both
  unfold selectItem at ran
  split at ran
  next call shown =>
    obtain ⟨summary, found, ran⟩ := ok_of_bind ran
    cases ran
    rw [shown] at valid ⊢
    exact titled (finds_aggregate tells valid found)
  next ref shown =>
    obtain ⟨plain, found, ran⟩ := ok_of_bind ran
    have plain := finds_column tells found
    rw [shown]
    split at ran
    · cases ran
      exact plain
    · cases ran
      exact titled plain

theorem finds_starColumns : Finds leads (separated ", " (starColumns layout)) [] := by
  have system (pseudo physical : String) : Finds leads
      (if pseudo = physical then [name physical] else [name physical, code " AS ", label pseudo]) [] := by
    split
    · exact .name physical
    · exact .between (tells.plain " AS " (by decide)) (.name physical) (.label pseudo)
  have each : List.Forall₂ (Finds leads) (starColumns layout) ((starColumns layout).map fun _ => []) := by
    rw [List.forall₂_map_right_iff, List.forall₂_same]
    intro sql member
    obtain member | member := List.mem_append.mp member
    · obtain ⟨⟨pseudo, physical⟩, _, rfl⟩ := List.mem_map.mp member
      exact system pseudo physical
    · obtain rfl := List.mem_singleton.mp member
      exact .name layout.documentColumn
  have all := Finds.separated (tells.plain ", " (by decide)) each
  exact all.congr (by simp)

theorem finds_resultColumns {wanted : Select} {columns : List Sql} (valid : wanted.WellFormed)
    (ran : resultColumns layout wanted = .ok columns) :
    Finds leads (separated ", " columns) (wanted.items.filterMap (·.expr.column?)) := by
  have whole := valid.columns
  unfold resultColumns at ran
  split at ran
  next star =>
    cases ran
    rw [if_pos star] at whole
    rw [whole]
    exact finds_starColumns tells
  next listed =>
    have each : List.Forall₂ (Finds leads) columns (wanted.items.map fun item => item.expr.column?.toList) :=
      forall₂_of_mapM ran fun item member sql found => finds_selectItem tells (valid.items item member) found
    have all := Finds.separated (tells.plain ", " (by decide)) each
    rwa [← List.flatMap_def, ← List.filterMap_eq_flatMap_toList] at all

theorem finds_call {function : StringFunction} {arguments : List Sql} {met : List (List ColumnRef)} {sql : Sql}
    (accepted : function.accepts arguments.length = true) (each : List.Forall₂ (Finds leads) arguments met)
    (ran : call function arguments = .ok sql) : Finds leads sql met.flatten := by
  unfold call at ran
  split at ran
  next text start size =>
    cases ran
    obtain _ | ⟨text, _ | ⟨start, _ | ⟨size, _ | _⟩⟩⟩ := each
    have two := Finds.between (tells.plain " FROM " (by decide)) (text.cons (tells.plain "SUBSTRING(" (by decide))) start
    have three := Finds.between (tells.plain " FOR " (by decide)) two size
    simpa using three.concat ")"
  next text start rest unsized =>
    obtain rfl := eq_nil_of_substring accepted unsized
    cases ran
    obtain _ | ⟨text, _ | ⟨start, _ | _⟩⟩ := each
    have two := Finds.between (tells.plain " FROM " (by decide)) (text.cons (tells.plain "SUBSTRING(" (by decide))) start
    simpa using two.concat ")"
  next => cases ran
  next =>
    cases ran
    have name : functionName function ++ "(" ∈ plainCode := by cases function <;> decide
    exact .concat (.cons (tells.plain _ name) (.separated (tells.plain ", " (by decide)) each)) _

end Parts

mutual
theorem finds_value (tells : Tells leads) {expr : ValueExpr} (valid : expr.WellFormed) {sql : Sql}
    (ran : value layout expr = .ok sql) : Finds leads sql expr.columnRefs := by
  cases expr with
  | literal constant =>
    cases ran
    rw [ValueExpr.columnRefs]
    exact finds_ofLiteral constant
  | field ref =>
    obtain ⟨plain, found, ran⟩ := ok_of_bind ran
    cases ran
    rw [ValueExpr.columnRefs]
    exact .concat (.opened tells (finds_column tells found)) _
  | call callee arguments position =>
    rw [ValueExpr.WellFormed] at valid
    obtain ⟨⟨function, named, accepted⟩, known⟩ := valid
    rw [value, StringFunction.find?_of_ofName? named] at ran
    obtain ⟨shown, found, ran⟩ := ok_of_bind ran
    obtain ⟨met, all, each⟩ := finds_values tells known found
    rw [ValueExpr.columnRefs, all]
    exact finds_call tells (length_values found ▸ accepted) each ran
  | foreign kind => cases ran

theorem finds_values (tells : Tells leads) {arguments : List ValueExpr} (valid : ValueExpr.AllWellFormed arguments)
    {shown : List Sql} (ran : values layout arguments = .ok shown) :
    ∃ met : List (List ColumnRef), ValueExpr.columnRefsAll arguments = met.flatten ∧
      List.Forall₂ (Finds leads) shown met := by
  cases arguments with
  | nil =>
    cases ran
    exact ⟨[], by rw [ValueExpr.columnRefsAll, List.flatten_nil], .nil⟩
  | cons argument rest =>
    rw [ValueExpr.AllWellFormed] at valid
    obtain ⟨first, found, ran⟩ := ok_of_bind ran
    obtain ⟨others, known, ran⟩ := ok_of_bind ran
    cases ran
    obtain ⟨met, all, each⟩ := finds_values tells valid.2 known
    refine ⟨argument.columnRefs :: met, ?_, .cons (finds_value tells valid.1 found) each⟩
    rw [ValueExpr.columnRefsAll, all, List.flatten_cons]
end

theorem finds_newValue (tells : Tells leads) {expr : ValueExpr} (valid : expr.WellFormed) {sql : Sql}
    (ran : newValue layout expr = .ok sql) : Finds leads sql expr.columnRefs := by
  unfold newValue at ran
  split at ran
  next constant =>
    cases ran
    rw [ValueExpr.columnRefs]
    exact .literal _
  next =>
    obtain ⟨shown, found, ran⟩ := ok_of_bind ran
    cases ran
    exact .concat (.opened tells (finds_value tells valid found)) _

/-- Two texts differ where both have a character. -/
def clash : List Char → List Char → Bool
  | c :: first, d :: second => c != d || clash first second
  | _, _ => false

theorem isPrefixOf_of_clash {first second : List Char} (clashes : clash first second = true) (more rest : List Char) :
    (first ++ more).isPrefixOf (second ++ rest) = false := by
  induction first generalizing second with
  | nil => cases clashes
  | cons c first ih =>
    cases second with
    | nil => cases clashes
    | cons d second =>
      by_cases same : c = d
      · subst same
        simpa [clash] using ih (by simpa [clash] using clashes)
      · have apart : (c == d) = false := beq_false_of_ne same
        simp [List.isPrefixOf, apart]

def ending (text : String) : List Char := text.toList.reverse.dropWhile Char.isWhitespace

theorem endsWith_of_clash {text code : String} {last more : List Char} (shape : text.toList.reverse = last ++ more)
    (clashes : clash last (ending code) = true) (before : List Char) :
    endsWith text (code.toList.reverse ++ before) = false := by
  have visible : (ending code).isEmpty = false := by
    rw [← Bool.not_eq_true, List.isEmpty_iff]
    intro empty
    rw [empty] at clashes
    cases last <;> cases clashes
  unfold endsWith
  rw [shape, List.dropWhile_append]
  unfold ending at visible clashes
  rw [visible]
  exact isPrefixOf_of_clash clashes more before

/-- The end of some code differs from a text, with or without a parenthesis behind the code. -/
def Clears (last : List Char) (code : String) : Prop := ∀ behind ∈ ["", "("], clash last (ending (code ++ behind)) = true

instance (last : List Char) (code : String) : Decidable (Clears last code) :=
  inferInstanceAs (Decidable (∀ _ ∈ _, _))

theorem Clears.dull {text code : String} {last more : List Char} (clears : Clears last code)
    (shape : text.toList.reverse = last ++ more) : Dull (endsWith text) code := by
  intro before
  constructor
  · simpa using endsWith_of_clash shape (clears "" (by simp)) before
  · simpa using endsWith_of_clash shape (clears "(" (by simp)) before

/-- The end of some code is neither an arrow nor the beginning of an object. -/
def NoKey (code : String) : Prop :=
  Clears "->>".toList.reverse code ∧ Clears "jsonb_build_object(".toList.reverse code

instance (code : String) : Decidable (NoKey code) := inferInstanceAs (Decidable (_ ∧ _))

theorem NoKey.dull {code : String} (none : NoKey code) : Dull beforeKey code := by
  have read : Dull (endsWith "->>") code := none.1.dull (List.append_nil _).symm
  have written : Dull (endsWith "jsonb_build_object(") code := none.2.dull (List.append_nil _).symm
  intro before
  constructor
  · rw [beforeKey, (read before).1, (written before).1, Bool.false_or]
  · rw [beforeKey, (read before).2, (written before).2, Bool.false_or]

theorem tells_beforeKey : Tells beforeKey := by
  constructor
  · exact ⟨rfl, rfl⟩
  · intro before
    rfl
  · have each : ∀ code ∈ plainCode, NoKey code := by decide +kernel
    intro code member
    exact (each code member).dull
  · intro before
    rfl
  · intro before
    rfl

theorem finds_partition (layout : Layout) (table : String) : Finds beforeKey (partition table layout) [] :=
  .between (NoKey.dull (by decide : NoKey " = ")) (.name layout.partitionColumn) (.literal table)

theorem finds_condition {wanted : Condition} (valid : wanted.WellFormed) {sql : Sql}
    (ran : condition layout wanted = .ok sql) : Finds beforeKey sql [wanted.column] := by
  obtain ⟨operand, found, ran⟩ := ok_of_bind ran
  cases ran
  have operator : NoKey s!" {wanted.operator.symbol} " := by
    have each : ∀ operator ∈ Comparison.known, NoKey s!" {operator.symbol} " := by decide
    exact each _ valid.known
  exact .between operator.dull (finds_operand tells_beforeKey found _) (finds_ofLiteral wanted.value)

theorem finds_chain {rest : List (Connector × Condition)}
    (valid : ∀ link ∈ rest, (link.1 = .and ∨ link.1 = .or) ∧ link.2.WellFormed) {first sql : Sql}
    {refs : List ColumnRef} (finds : Finds beforeKey first refs) (ran : chain layout first rest = .ok sql) :
    Finds beforeKey sql (refs ++ rest.map (·.2.column)) := by
  induction rest generalizing first refs with
  | nil =>
    cases ran
    simpa using finds
  | cons link rest ih =>
    obtain ⟨connector, condition⟩ := link
    obtain ⟨⟨word, known⟩, others⟩ := List.forall_mem_cons.mp valid
    obtain ⟨next, found, ran⟩ := ok_of_bind ran
    have joins : NoKey s!" {connector.word} " := by
      obtain rfl | rfl := word
      · decide
      · decide
    have both := Finds.between joins.dull (finds.opened tells_beforeKey) (finds_condition known found)
    have all := ih others (both.concat ")") ran
    rwa [List.append_assoc] at all

theorem finds_filter {wanted : Filter} (valid : wanted.WellFormed) {conditions : List Sql}
    (ran : filter layout wanted = .ok conditions) {first : Sql} (finds : Finds beforeKey first []) :
    Finds beforeKey (separated " AND " (first :: conditions)) (wanted.conditions.map (·.column)) := by
  cases wanted with
  | all =>
    cases ran
    exact finds
  | empty => cases ran
  | chain start rest =>
    obtain ⟨begun, found, ran⟩ := ok_of_bind ran
    obtain ⟨sql, chained, ran⟩ := ok_of_bind ran
    cases ran
    have whole := finds_chain valid.2 (finds_condition valid.1 found) chained
    have both := finds.between (NoKey.dull (by decide : NoKey " AND ")) whole
    simpa [Filter.conditions, separated, Function.comp_def] using both

theorem finds_grouping {wanted : Select} {keys : List Sql} (ran : groupKeys layout wanted = .ok keys) {sql : Sql}
    {refs : List ColumnRef} (finds : Finds beforeKey sql refs) :
    Finds beforeKey (sql ++ grouping wanted keys) (refs ++ if wanted.isGrouped then wanted.columns else []) := by
  unfold groupKeys at ran
  unfold grouping
  split at ran
  next several =>
    have each : List.Forall₂ (Finds beforeKey) keys (wanted.columns.map fun ref => [ref]) :=
      forall₂_of_mapM ran fun ref _ sql found => finds_column tells_beforeKey found
    have all := Finds.separated (tells_beforeKey.plain ", " (by decide)) each
    have both := finds.between (NoKey.dull (by decide : NoKey " GROUP BY ")) all
    rw [if_pos several, if_pos several]
    rwa [← List.flatMap_def, List.flatMap_singleton'] at both
  next single =>
    rw [if_neg single, if_neg single, List.append_nil, List.append_nil]
    exact finds

/-- A SELECT as far as its WHERE. -/
def selection (layout : Layout) (columns : List Sql) : Sql :=
  code "SELECT " :: separated ", " columns ++ [code " FROM ", name layout.table]

/-- An UPDATE as far as its WHERE, without the parenthesis that closes the object. -/
def assignment (layout : Layout) (target : ColumnRef) (assigned : Sql) : Sql :=
  [code "UPDATE ", name layout.table, code " SET ", name layout.documentColumn, code " = COALESCE(",
    name layout.documentColumn, code ", ", literal "\x7b\x7d", code "::jsonb) || jsonb_build_object(",
    literal target.name] ++ code ", " :: assigned

theorem finds_selection (tells : Tells leads) {wanted : Select} (valid : wanted.WellFormed) {columns : List Sql}
    (ran : resultColumns layout wanted = .ok columns) :
    Finds leads (selection layout columns) (wanted.items.filterMap (·.expr.column?)) := by
  have listed := (finds_resultColumns tells valid ran).cons (tells.plain "SELECT " (by decide))
  have both := listed.between (tells.plain " FROM " (by decide)) (.name layout.table)
  simpa [selection] using both

theorem finds_assignment (tells : Tells leads) {change : Update} (valid : change.WellFormed) {assigned : Sql}
    (ran : newValue layout change.value = .ok assigned) :
    Finds leads (assignment layout change.target assigned) (Query.update change).columnRefs := by
  have table : Finds leads [code "UPDATE ", name layout.table] [] :=
    .cons (tells.plain "UPDATE " (by decide)) (.name layout.table)
  have document := table.between (tells.plain " SET " (by decide)) (.name layout.documentColumn)
  have again := document.between (tells.plain " = COALESCE(" (by decide)) (.name layout.documentColumn)
  have object := again.between (tells.plain ", " (by decide)) (.literal "\x7b\x7d")
  have target := object.key tells.written valid.target
  exact target.between (tells.plain ", " (by decide)) (finds_newValue tells valid.value ran)

theorem select_shape {wanted : Select} {sql : Sql} (ran : select layout wanted = .ok sql) :
    ∃ columns conditions keys, resultColumns layout wanted = .ok columns ∧
      filter layout wanted.filter = .ok conditions ∧ groupKeys layout wanted = .ok keys ∧
      sql = selection layout columns ++ code " WHERE " ::
        (separated " AND " (partition wanted.table.name layout :: conditions) ++ grouping wanted keys) := by
  obtain ⟨columns, conditions, keys, listed, filtered, grouped, rfl⟩ := select_eq_ok.mp ran
  exact ⟨columns, conditions, keys, listed, filtered, grouped, by simp [statement, selection]⟩

theorem update_shape {change : Update} {sql : Sql} (ran : update layout change = .ok sql) :
    ∃ assigned row, newValue layout change.value = .ok assigned ∧ layout.rowIdColumn = .ok row ∧
      sql = assignment layout change.target assigned ++ code ") WHERE " ::
        (partition change.table.name layout ++ code " AND " :: [name row, code " = ", literal change.rowId.text]) := by
  obtain ⟨assigned, found, ran⟩ := ok_of_bind ran
  obtain ⟨row, known, ran⟩ := ok_of_bind ran
  cases ran
  exact ⟨assigned, row, found, known, by simp [assignment]⟩

theorem finds_select {wanted : Select} (valid : wanted.WellFormed) {sql : Sql} (ran : select layout wanted = .ok sql) :
    Finds beforeKey sql (Query.select wanted).columnRefs := by
  obtain ⟨columns, conditions, keys, listed, filtered, grouped, rfl⟩ := select_shape ran
  have selection := finds_selection tells_beforeKey valid listed
  have wheres := finds_filter valid.filter filtered (finds_partition layout wanted.table.name)
  have all := selection.between (NoKey.dull (by decide : NoKey " WHERE ")) (finds_grouping grouped wheres)
  apply all.congr
  intro key
  rw [Query.columnRefs, fieldNames_append, fieldNames_append, fieldNames_append, List.mem_append, List.mem_append,
    List.mem_append]
  constructor
  · rintro (shown | tested | again)
    · exact .inl shown
    · exact .inr tested
    · -- Rows are grouped by columns that are shown as well.
      left
      obtain ⟨ref, member, named⟩ := mem_fieldNames.mp again
      split at member
      · exact mem_fieldNames.mpr ⟨ref, Select.column_mem_items member, named⟩
      · cases member
  · rintro (shown | tested)
    · exact .inl shown
    · exact .inr (.inl tested)

theorem finds_update {change : Update} (valid : change.WellFormed) {sql : Sql} (ran : update layout change = .ok sql) :
    Finds beforeKey sql (Query.update change).columnRefs := by
  obtain ⟨assigned, row, found, -, rfl⟩ := update_shape ran
  have assignment := finds_assignment tells_beforeKey valid found
  have rowId : Finds beforeKey [name row, code " = ", literal change.rowId.text] [] :=
    .between (NoKey.dull (by decide : NoKey " = ")) (.name row) (.literal change.rowId.text)
  have scope := (finds_partition layout change.table.name).between (NoKey.dull (by decide : NoKey " AND ")) rowId
  have all := assignment.between (NoKey.dull (by decide : NoKey ") WHERE ")) scope
  simpa using all

/-- SQL reads and writes the fields that the traversal of its query meets. -/
theorem mem_documentKeys {query : Query} (valid : query.WellFormed) {sql : Sql} (ran : ofQuery layout query = .ok sql)
    (key : String) : key ∈ documentKeys sql.marks ↔ key ∈ fieldNames query.columnRefs := by
  have finds : Finds beforeKey sql query.columnRefs := by
    cases query with
    | select wanted => exact finds_select valid ran
    | update change => exact finds_update valid ran
  obtain ⟨keys, after, found, named⟩ := finds [] tells_beforeKey.start
  have whole : documentKeys sql.marks = keys := by simpa [documentKeys, ledTo] using found []
  rw [whole, named]
  exact and_iff_right rfl

theorem beforeTable_shape (layout : Layout) : s!"WHERE {layout.partitionColumn} =".toList.reverse =
    ['='] ++ ' ' :: (layout.partitionColumn.toList.reverse ++ "WHERE ".toList.reverse) := by
  have parts : s!"WHERE {layout.partitionColumn} =".toList =
      "WHERE ".toList ++ layout.partitionColumn.toList ++ " =".toList := by
    simp [toString]
  rw [parts, List.reverse_append, List.reverse_append]
  rfl

theorem beforeTable_eq (layout : Layout) (before : List Char) : beforeTable layout before =
    (['='] ++ ' ' :: (layout.partitionColumn.toList.reverse ++ "WHERE ".toList.reverse)).isPrefixOf
      (before.dropWhile Char.isWhitespace) := by
  rw [beforeTable, endsWith, beforeTable_shape]

theorem tells_beforeTable (layout : Layout) : Tells (beforeTable layout) := by
  constructor
  · exact ⟨beforeTable_eq layout _, beforeTable_eq layout _⟩
  · intro before
    exact beforeTable_eq layout _
  · have each : ∀ code ∈ plainCode, Clears ['='] code := by decide +kernel
    intro code member
    exact (each code member).dull (beforeTable_shape layout)
  · intro before
    rw [beforeTable_eq, beforeTable_eq]
    rfl
  · intro before
    rw [beforeTable_eq, beforeTable_eq]
    rfl

theorem beforeTable_partition (layout : Layout) (before : List Char) :
    beforeTable layout (" = ".toList.reverse ++ (layout.partitionColumn.toList.reverse ++
      ("WHERE ".toList.reverse ++ before))) = true := by
  rw [beforeTable_eq, List.isPrefixOf_iff_prefix]
  exact ⟨before, by simp [List.dropWhile]⟩

/-- The first text that the column of forms is compared with comes right after WHERE. -/
theorem filteredTable?_of_scope {start : Sql} {refs : List ColumnRef} (finds : Finds (beforeTable layout) start refs)
    (before : String) {word : String} (scope : word = before ++ "WHERE ") (table : String) (rest : Sql) :
    filteredTable? layout (start ++ code word :: (partition table layout ++ rest)).marks = some table := by
  obtain ⟨keys, after, found, named⟩ := finds [] (tells_beforeTable layout).start
  have nothing : keys = [] := by
    rw [List.eq_nil_iff_forall_not_mem]
    intro key member
    have led : beforeTable layout arrow = true := ((named key).mp member).1
    rw [beforeTable_eq] at led
    cases led
  have filtered := beforeTable_partition layout (before.toList.reverse ++ after)
  have parts : (partition table layout ++ rest).marks = layout.partitionColumn.toList.map .plain ++
      (" = ".toList.map .plain ++ .literal table :: rest.marks) := rfl
  rw [filteredTable?, marks_append, found, nothing, marks_cons, Piece.marks, ledTo_plain, parts, ledTo_plain,
    ledTo_plain, ledTo, scope, String.toList_append, List.reverse_append, List.append_assoc, filtered]
  rfl

theorem filteredTable?_eq {query : Query} (valid : query.WellFormed) {sql : Sql}
    (ran : ofQuery layout query = .ok sql) : filteredTable? layout sql.marks = some query.table.name := by
  cases query with
  | select wanted =>
    obtain ⟨columns, conditions, keys, listed, filtered, grouped, rfl⟩ := select_shape ran
    have tail : ∃ rest, separated " AND " (partition wanted.table.name layout :: conditions) ++ grouping wanted keys =
        partition wanted.table.name layout ++ rest := by
      cases conditions with
      | nil => exact ⟨_, rfl⟩
      | cons next more => exact ⟨_, List.append_assoc _ _ _⟩
    obtain ⟨rest, shape⟩ := tail
    rw [shape]
    exact filteredTable?_of_scope (finds_selection (tells_beforeTable layout) valid listed) " " rfl _ _
  | update change =>
    obtain ⟨assigned, row, found, -, rfl⟩ := update_shape ran
    exact filteredTable?_of_scope (finds_assignment (tells_beforeTable layout) valid found) ") " rfl _ _

end Sql

end FormQuery
