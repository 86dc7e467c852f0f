import FormQuery.Proofs.ParserLogic
import FormQuery.Proofs.SpelledNumber

/-! Well-formed queries. These are the queries that a text can ask for: what later steps index, look up or write out
without a second look is there and is of the language. Every query that is read from a text is well formed. -/

namespace FormQuery

variable {α : Type}

namespace Literal

/-- A text between quotes; it has no other spelling. -/
def Quoted (literal : Literal) : Prop := ∃ content, literal.value = .text content ∧ literal.raw = none

/-- A number with the spelling that it was typed with. -/
def Numeric (literal : Literal) : Prop :=
  ∃ raw number, literal.raw = some raw ∧ SpellsNumber raw.toList ∧ Decimal.ofText? raw = some number ∧
    literal.value = .decimal number

def WellFormed (literal : Literal) : Prop := literal.Quoted ∨ literal.Numeric

theorem Quoted.isNumber {literal : Literal} (quoted : literal.Quoted) : literal.isNumber = false := by
  obtain ⟨content, value, _⟩ := quoted
  simp [Literal.isNumber, value]

theorem Numeric.isNumber {literal : Literal} (numeric : literal.Numeric) : literal.isNumber = true := by
  obtain ⟨raw, number, _, _, _, value⟩ := numeric
  simp [Literal.isNumber, value]

theorem WellFormed.quoted {literal : Literal} (valid : literal.WellFormed) (plain : literal.isNumber = false) :
    literal.Quoted :=
  valid.resolve_right fun numeric => by simp [numeric.isNumber] at plain

theorem WellFormed.numeric {literal : Literal} (valid : literal.WellFormed) (number : literal.isNumber = true) :
    literal.Numeric :=
  valid.resolve_left fun quoted => by simp [quoted.isNumber] at number

end Literal

/-- A system column has one of the names of the language. -/
def ColumnRef.WellFormed (ref : ColumnRef) : Prop := ref.pseudo = true → ref.name ∈ pseudoColumns.map Prod.fst

/-- Only COUNT does without a column. -/
structure AggregateCall.WellFormed (call : AggregateCall) : Prop where
  known : call.function ∈ Aggregate.known
  counts : call.argument = none → call.function = .count
  argument : ∀ ref ∈ call.argument, ref.WellFormed

def SelectExpr.WellFormed : SelectExpr → Prop
  | .column ref => ref.WellFormed
  | .aggregate call => call.WellFormed

structure Condition.WellFormed (condition : Condition) : Prop where
  column : condition.column.WellFormed
  known : condition.operator ∈ Comparison.known
  value : condition.value.WellFormed
  pattern : condition.operator.isPattern = true → condition.value.Quoted

/-- A chain has one connector between each two conditions by its type; a WHERE has at least one condition. -/
def Filter.WellFormed : Filter → Prop
  | .all => True
  | .empty => False
  | .chain first rest =>
    first.WellFormed ∧ ∀ link ∈ rest, (link.1 = .and ∨ link.1 = .or) ∧ link.2.WellFormed

structure Select.WellFormed (select : Select) : Prop where
  columns : if select.star then select.items = [] else select.items ≠ []
  items : ∀ item ∈ select.items, item.expr.WellFormed
  filter : select.filter.WellFormed

mutual
/-- A value is built of literals, fields and known functions with as many arguments as they take. -/
def ValueExpr.WellFormed : ValueExpr → Prop
  | .literal constant => constant.WellFormed
  | .field column => column.pseudo = false
  | .call name arguments _ =>
    (∃ function, StringFunction.ofName? name = some function ∧ function.accepts arguments.length = true) ∧
      ValueExpr.AllWellFormed arguments
  | .foreign _ => False

def ValueExpr.AllWellFormed : List ValueExpr → Prop
  | [] => True
  | argument :: rest => argument.WellFormed ∧ ValueExpr.AllWellFormed rest
end

structure Update.WellFormed (update : Update) : Prop where
  target : update.target.pseudo = false
  value : update.value.WellFormed
  rowId : update.rowId.WellFormed

def Query.WellFormed : Query → Prop
  | .select wanted => wanted.WellFormed
  | .update change => change.WellFormed

namespace Select

variable {wanted : Select} {ref : ColumnRef} {call : AggregateCall}

theorem mem_columns : ref ∈ wanted.columns ↔ ∃ item ∈ wanted.items, item.expr = .column ref := by
  rw [columns, List.mem_filterMap]
  refine exists_congr fun item => and_congr_right fun _ => ?_
  cases item.expr <;> simp

theorem mem_aggregates : call ∈ wanted.aggregates ↔ ∃ item ∈ wanted.items, item.expr = .aggregate call := by
  rw [aggregates, List.mem_filterMap]
  refine exists_congr fun item => and_congr_right fun _ => ?_
  cases item.expr <;> simp

theorem column_mem_items (member : ref ∈ wanted.columns) : ref ∈ wanted.items.filterMap (·.expr.column?) := by
  obtain ⟨item, inside, shape⟩ := mem_columns.mp member
  exact List.mem_filterMap.mpr ⟨item, inside, by rw [shape]; rfl⟩

theorem argument_mem_items (member : call ∈ wanted.aggregates) (argument : ref ∈ call.argument) :
    ref ∈ wanted.items.filterMap (·.expr.column?) := by
  obtain ⟨item, inside, shape⟩ := mem_aggregates.mp member
  exact List.mem_filterMap.mpr ⟨item, inside, by rw [shape]; exact argument⟩

namespace WellFormed

variable (valid : wanted.WellFormed)

include valid

theorem column (member : ref ∈ wanted.columns) : ref.WellFormed := by
  obtain ⟨item, inside, shape⟩ := mem_columns.mp member
  have known := valid.items item inside
  rwa [shape] at known

theorem aggregate (member : call ∈ wanted.aggregates) : call.WellFormed := by
  obtain ⟨item, inside, shape⟩ := mem_aggregates.mp member
  have known := valid.items item inside
  rwa [shape] at known

end WellFormed

end Select

theorem StringFunction.eq_name_of_ofName? {name : String} {function : StringFunction}
    (found : ofName? name = some function) : name = function.name := by
  simpa [eq_comm] using List.find?_some found

/-- Names of functions are in capitals already. -/
theorem StringFunction.find?_name (function : StringFunction) : find? function.name = some function := by
  cases function <;> decide +kernel

theorem StringFunction.find?_of_ofName? {name : String} {function : StringFunction}
    (found : ofName? name = some function) : find? name = some function := by
  rw [eq_name_of_ofName? found]
  exact find?_name function

theorem Aggregate.ofName_mem_known {name : String} (known : name ∈ aggregateNames) : ofName name ∈ Aggregate.known := by
  have each : ∀ name ∈ aggregateNames, ofName name ∈ Aggregate.known := by decide
  exact each name known

theorem Comparison.ofSymbol_mem_known {symbol : String} (known : symbol ∈ operatorSymbols ++ operatorWords) :
    ofSymbol symbol ∈ Comparison.known := by
  have each : ∀ symbol ∈ operatorSymbols ++ operatorWords, ofSymbol symbol ∈ Comparison.known := by decide
  exact each symbol known

/-- What is known of the error of a text of at most `most` characters: a number is refused only when it has more digits
than the power of ten of a number can count, and there is always a token to refuse. -/
def SyntaxError.Told (most : Nat) (error : SyntaxError) : Prop :=
  error.cause ≠ .noTokens ∧ (error.cause = .malformedNumber → Decimal.readableDigits < most)

namespace Parser

theorem told_refusal (most : Nat) (token : Token) (expected : String) : (refusal token expected).Told most := by
  simp only [refusal]
  generalize (if token.kind = .unrecognized || token.kind = .function then capitals token.value else "") = word
  split
  · exact ⟨by simp, by simp⟩
  · split <;> exact ⟨by simp, by simp⟩

def terms (most : Nat) : Terms where
  holds := Token.Fits most
  told := SyntaxError.Told most
  refused token expected _ := told_refusal most token expected

variable {most : Nat}

theorem bareColumn_wellFormed (token : Token) : (bareColumn token).WellFormed := by
  unfold bareColumn ColumnRef.WellFormed
  simp only
  split
  next found =>
    intro _
    obtain ⟨column, found⟩ := Option.isSome_iff_exists.mp found
    exact List.mem_map.mpr ⟨_, mem_of_lookup found, rfl⟩
  next => simp

theorem column_ensures : Ensures (terms most) column ColumnRef.WellFormed := by
  refine .bind .current fun token fits => ?_
  split
  · refine .bind .advance fun _ _ => .bind (.expect _ _) fun _ _ => .bind (.expect _ _) fun _ _ =>
      .bind (.expect _ _) fun _ _ => .pure ?_
    exact fun impossible => by cases impossible
  · refine .bind .advance fun _ _ => .pure ?_
    exact fun impossible => by cases impossible
  · refine .ite (fun _ => .ite (fun _ => .refuse _) fun _ => ?_) fun _ => .refuse _
    exact .bind .advance fun _ _ => .pure (bareColumn_wellFormed token)
  · exact .refuse _

/-- After FIELD stands a field, never a system column, whatever its name. The rule knows the token ahead. -/
theorem column_answers_field {cursor : Cursor} (field : cursor.current.kind = .fieldWord)
    (all : cursor.All (terms most).holds) :
    Answers (terms most) (fun ref : ColumnRef => ref.pseudo = false) (column.run cursor) := by
  have plain : Ensures (terms most)
      (do
        let _ ← advance
        let _ ← expect .leftParen "'(' after FIELD"
        let name ← expect .columnRef "quoted field id inside FIELD()"
        let _ ← expect .rightParen "')' to close FIELD"
        return (⟨name.value, cursor.current.position, false⟩ : ColumnRef)) (fun ref => ref.pseudo = false) :=
    .bind .advance fun _ _ => .bind (.expect _ _) fun _ _ => .bind (.expect _ _) fun _ _ =>
      .bind (.expect _ _) fun _ _ => .pure rfl
  rw [column, run_bind, run_current]
  simp only [field]
  exact plain cursor all

theorem table_ensures : Ensures (terms most) table fun _ => True :=
  .bind (.expect _ _) fun _ _ => .pure trivial

theorem literal_ensures : Ensures (terms most) literal Literal.WellFormed := by
  refine .bind .current fun token fits => ?_
  have quoted : Ensures (terms most)
      (if token.isQuoted then do
        let _ ← advance
        return (⟨.text token.value, token.position, none⟩ : Literal)
      else refuse "string or number literal") Literal.WellFormed :=
    .ite (fun _ => .bind .advance fun _ _ => .pure (Or.inl ⟨token.value, rfl, rfl⟩)) fun _ => .refuse _
  split
  next kind =>
    have spelled := fits.1.number kind
    split
    next number found =>
      exact .bind .advance fun _ _ => .pure (Or.inr ⟨token.value, number, rfl, spelled, found, rfl⟩)
    next missed =>
      refine .throw ⟨by simp, fun _ => Nat.lt_of_not_le fun short => ?_⟩
      obtain ⟨number, found⟩ := Decimal.ofText?_succeeds spelled (Nat.le_trans fits.2 short)
      simp [missed] at found
  next => exact quoted
  next => exact quoted
  next => exact quoted
  next => exact .refuse _

theorem argumentOf_ensures (function : Token) : Ensures (terms most) (aggregateCall.argumentOf function) fun argument =>
    (argument = none → function.value = "COUNT") ∧ ∀ ref ∈ argument, ref.WellFormed := by
  refine .atKind_ite ?_ ?_
  · refine .bind .advance fun _ _ => .ite (fun whole => .pure ⟨fun _ => whole, by simp⟩) fun _ => ?_
    exact .throw ⟨by simp, by simp⟩
  · exact .bind column_ensures fun ref valid => .pure ⟨by simp, by simpa using valid⟩

theorem aggregateCall_ensures : Ensures (terms most) aggregateCall AggregateCall.WellFormed := by
  refine .bind (.expect _ _) fun function ⟨kind, fits⟩ => .bind (.expect _ _) fun _ _ => ?_
  refine .bind (argumentOf_ensures function) fun argument ⟨counts, valid⟩ => .bind (.expect _ _) fun _ _ => .pure ?_
  refine ⟨Aggregate.ofName_mem_known (fits.1.aggregate kind), fun none => ?_, valid⟩
  simp only [counts none]
  rfl

theorem aliasName_ensures : Ensures (terms most) aliasName fun _ => True := by
  refine .bind .current fun token _ => .ite (fun _ => ?_) fun _ => .refuse _
  exact .bind .advance fun _ _ => .pure trivial

theorem selectItem_ensures : Ensures (terms most) selectItem fun item => item.expr.WellFormed := by
  have named (expr : SelectExpr) (valid : expr.WellFormed) : Ensures (terms most) (do
      if ← atKind .asWord then
        let _ ← advance
        return (⟨expr, some (← aliasName)⟩ : SelectItem)
      else return ⟨expr, none⟩) fun item => item.expr.WellFormed :=
    .atKind_ite (.bind .advance fun _ _ => .bind aliasName_ensures fun _ _ => .pure valid) (.pure valid)
  refine .bind (.atKind _) fun _ _ => .ite (fun _ => ?_) fun _ => ?_
  · exact .bind aggregateCall_ensures fun call valid => .bind (.pure valid) named
  · exact .bind column_ensures fun ref valid => .bind (.pure valid) named

theorem moreItems_ensures (fuel : Nat) :
    Ensures (terms most) (moreItems fuel) fun items => ∀ item ∈ items, item.expr.WellFormed := by
  induction fuel with
  | zero => exact .pure (by simp)
  | succ left ih =>
    refine .atKind_ite ?_ (.pure (by simp))
    refine .bind .advance fun _ _ => .bind selectItem_ensures fun item valid => .bind ih fun items others => .pure ?_
    simpa using ⟨valid, others⟩

theorem condition_ensures : Ensures (terms most) condition Condition.WellFormed := by
  refine .bind column_ensures fun column valid => .bind (.expect _ _) fun operator ⟨kind, fits⟩ =>
    .bind literal_ensures fun value written => .ite (fun _ => .throw ⟨by simp, by simp⟩) fun refused => .pure ?_
  refine ⟨valid, Comparison.ofSymbol_mem_known (fits.1.operator kind), written, fun pattern => ?_⟩
  exact written.quoted (by simpa [pattern] using refused)

theorem moreConditions_ensures (fuel : Nat) : Ensures (terms most) (moreConditions fuel) fun links =>
    ∀ link ∈ links, (link.1 = .and ∨ link.1 = .or) ∧ link.2.WellFormed := by
  induction fuel with
  | zero => exact .pure (by simp)
  | succ left ih =>
    refine .bind .current fun token fits => .ite (fun kind => ?_) fun _ => .pure (by simp)
    refine .bind .advance fun _ _ => .bind condition_ensures fun condition valid => ?_
    refine .bind ih fun links others => .pure ?_
    have word := fits.1.connector (by simpa using kind)
    have connector : Connector.ofWord token.value = .and ∨ Connector.ofWord token.value = .or := by
      rcases word with word | word <;> simp [word, Connector.ofWord]
    simpa using ⟨⟨connector, valid⟩, fun first last member => others (first, last) member⟩

theorem filter_ensures (fuel : Nat) : Ensures (terms most) (filter fuel) Filter.WellFormed := by
  refine .atKind_ite ?_ (.pure trivial)
  exact .bind .advance fun _ _ => .bind condition_ensures fun first valid =>
    .bind (moreConditions_ensures fuel) fun rest others => .pure ⟨valid, others⟩

theorem select_ensures (fuel : Nat) : Ensures (terms most) (select fuel) Select.WellFormed := by
  refine .bind (.expect _ _) fun _ _ => .bind (.atKind _) fun star _ => ?_
  have rest (items : List SelectItem)
      (valid : (if star then items = [] else items ≠ []) ∧ ∀ item ∈ items, item.expr.WellFormed) :
      Ensures (terms most) (do
        let _ ← expect .fromWord "FROM"
        let table ← table
        return (⟨star, items, table, ← filter fuel⟩ : Select)) Select.WellFormed :=
    .bind (.expect _ _) fun _ _ => .bind table_ensures fun table _ =>
      .bind (filter_ensures fuel) fun filter known => .pure ⟨valid.1, valid.2, known⟩
  refine .ite (fun whole => ?_) fun listed => ?_
  · exact .bind .advance fun _ _ => .bind (.pure (by simp [whole])) rest
  · refine .bind selectItem_ensures fun first valid => .bind (moreItems_ensures fuel) fun others known => ?_
    exact .bind (.pure (by simpa [listed] using ⟨valid, known⟩)) rest

private theorem constant_ensures :
    Ensures (terms most) (do return ValueExpr.literal (← literal)) ValueExpr.WellFormed :=
  .bind literal_ensures fun _ valid => .pure (by simpa only [ValueExpr.WellFormed] using valid)

private theorem value_step {left : Nat} (call : Ensures (terms most) (functionCall left) ValueExpr.WellFormed) :
    Ensures (terms most) (value (left + 1)) ValueExpr.WellFormed := by
  intro cursor all
  rw [value, run_bind, run_current]
  simp only [run_bind, run_next]
  split
  next kind =>
    refine Answers.bind (column_answers_field kind all) fun ref plain => .pure ?_
    simpa only [ValueExpr.WellFormed] using plain
  next => exact call cursor all
  next =>
    have refused : Ensures (terms most) (throw ⟨.unsupportedFunction (capitals cursor.current.value),
        cursor.current.position⟩) ValueExpr.WellFormed := .throw ⟨by simp, by simp⟩
    exact Ensures.ite (fun _ => refused) (fun _ => constant_ensures) cursor all
  next => exact ⟨by simp, by simp⟩
  next => exact constant_ensures cursor all

private theorem functionCall_step {left : Nat} (argument : Ensures (terms most) (value left) ValueExpr.WellFormed)
    (more : Ensures (terms most) (moreArguments left) ValueExpr.AllWellFormed) :
    Ensures (terms most) (functionCall (left + 1)) ValueExpr.WellFormed := by
  rw [functionCall]
  refine .bind (.expect _ _) fun name ⟨kind, fits⟩ => .bind (.expect _ _) fun _ _ => .bind argument fun first valid =>
    .bind more fun others known => .bind (.expect _ _) fun _ _ => ?_
  obtain ⟨function, named⟩ := Option.isSome_iff_exists.mp (fits.1.function kind)
  rw [StringFunction.find?_of_ofName? named]
  refine .ite (fun accepted => .pure ?_) fun _ => .throw ⟨by simp, by simp⟩
  simp only [ValueExpr.WellFormed, ValueExpr.AllWellFormed]
  exact ⟨⟨function, named, accepted⟩, valid, known⟩

private theorem moreArguments_step {left : Nat} (argument : Ensures (terms most) (value left) ValueExpr.WellFormed)
    (more : Ensures (terms most) (moreArguments left) ValueExpr.AllWellFormed) :
    Ensures (terms most) (moreArguments (left + 1)) ValueExpr.AllWellFormed := by
  rw [moreArguments]
  refine .atKind_ite ?_ (.pure (by simp only [ValueExpr.AllWellFormed]))
  refine .bind .advance fun _ _ => .bind argument fun first valid => .bind more fun others known => .pure ?_
  simpa only [ValueExpr.AllWellFormed] using ⟨valid, known⟩

/-- The three readers call each other with less fuel, so their rules go by one induction. -/
theorem value_ensures (fuel : Nat) :
    Ensures (terms most) (value fuel) ValueExpr.WellFormed ∧
      Ensures (terms most) (functionCall fuel) ValueExpr.WellFormed ∧
      Ensures (terms most) (moreArguments fuel) ValueExpr.AllWellFormed := by
  induction fuel with
  | zero =>
    refine ⟨?_, ?_, ?_⟩
    · rw [value]; exact .refuse _
    · rw [functionCall]; exact .refuse _
    · rw [moreArguments]; exact .pure (by simp only [ValueExpr.AllWellFormed])
  | succ left ih =>
    obtain ⟨argument, call, more⟩ := ih
    exact ⟨value_step call, functionCall_step argument more, moreArguments_step argument more⟩

theorem equals_ensures : Ensures (terms most) equals fun _ => True :=
  .bind (.expect _ _) fun _ _ => .ite (fun _ => .pure trivial) fun _ => .throw (told_refusal _ _ _)

theorem update_ensures (fuel : Nat) : Ensures (terms most) (update fuel) Update.WellFormed := by
  refine .bind (.expect _ _) fun _ _ => .bind (.expect _ _) fun _ _ => .bind table_ensures fun table _ =>
    .bind (.expect _ _) fun _ _ => ?_
  have rest (target : ColumnRef) (plain : target.pseudo = false) : Ensures (terms most) (do
      equals
      let value ← value fuel
      let _ ← expect .whereWord "WHERE submission_id = '<id>'"
      let rowColumn ← current
      if rowColumn.kind = .unrecognized && smallLetters rowColumn.value = rowIdColumn then
        let _ ← advance
        equals
        return (⟨table, target, value, ← literal⟩ : Update)
      else refuse "submission_id") Update.WellFormed := by
    refine .bind equals_ensures fun _ _ => .bind (value_ensures fuel).1 fun value valid => ?_
    refine .bind (.expect _ _) fun _ _ => .bind .current fun _ _ => .ite (fun _ => ?_) fun _ => .refuse _
    exact .bind .advance fun _ _ => .bind equals_ensures fun _ _ => .bind literal_ensures fun rowId written =>
      .pure ⟨plain, valid, written⟩
  intro cursor all
  rw [run_bind, run_atKind]
  simp only [decide_eq_true_eq]
  split
  next field => exact Answers.bind (column_answers_field field all) rest
  next => exact Answers.bind (Ensures.refuse _ cursor all) rest

theorem statement_ensures (fuel : Nat) : Ensures (terms most) (statement fuel) Query.WellFormed := by
  refine .bind .current fun token _ => ?_
  have rest (query : Query) (valid : query.WellFormed) : Ensures (terms most)
      (do if ← atKind .endOfInput then return query else refuse "end of input") Query.WellFormed :=
    .atKind_ite (.pure valid) (.refuse _)
  split
  · exact .bind (select_ensures fuel) fun wanted valid => .bind (.pure valid) rest
  · exact .bind (update_ensures fuel) fun change valid => .bind (.pure valid) rest
  · exact .bind (.refuse _) rest

end Parser

theorem Query.ofTokens_answers {most : Nat} {tokens : List Token} (some_token : tokens ≠ [])
    (fits : ∀ token ∈ tokens, token.Fits most) :
    (∀ query, Query.ofTokens tokens = .ok query → query.WellFormed) ∧
      ∀ error, Query.ofTokens tokens = .error error → error.Told most := by
  cases tokens with
  | nil => exact absurd rfl some_token
  | cons token rest =>
    have all : Cursor.All (Parser.terms most).holds ⟨token, rest⟩ :=
      ⟨fits token (by simp), fun other member => fits other (by simp [member])⟩
    have answers := Parser.statement_ensures (2 * (token :: rest).length) _ all
    have outcome : Query.ofTokens (token :: rest) =
        ((Parser.statement (2 * (token :: rest).length)).run ⟨token, rest⟩).map Prod.fst := rfl
    rw [outcome]
    cases ran : (Parser.statement (2 * (token :: rest).length)).run ⟨token, rest⟩ with
    | error error =>
      rw [ran] at answers
      refine ⟨fun query found => (by cases found), fun other found => ?_⟩
      cases found
      exact answers
    | ok result =>
      rw [ran] at answers
      refine ⟨fun query found => ?_, fun other found => (by cases found)⟩
      cases found
      exact answers.1

theorem tokenize_ne_nil (source : String) : tokenize source ≠ [] := by
  have each (before : List TokenKind) (position : Nat) (text : List Char) : tokensFrom before position text ≠ [] := by
    fun_induction tokensFrom before position text <;> simp_all
  exact each [] 0 source.toList

theorem length_prepareInput (source : String) : (prepareInput source).toList.length ≤ source.toList.length := by
  have shorter := (List.dropWhile_sublist (fun c => Text.isBlank c || c = ';') (l := source.toList.reverse)).length_le
  simpa [prepareInput, dropClosing] using shorter

/-- What is known of a reading of a text of at most `most` characters. -/
inductive Reading.Known (most : Nat) : Reading → Prop where
  | refused (reason : String) : Known most (.refused reason)
  | rejected {error : SyntaxError} (told : error.Told most) : Known most (.rejected error)
  | accepted {query : Query} (valid : query.WellFormed) : Known most (.accepted query)

theorem Query.read_known (source : String) : (Query.read source).Known source.toList.length := by
  have fits (token : Token) (member : token ∈ tokenize (prepareInput source)) : token.Fits source.toList.length := by
    have known := fits_of_mem_tokenize member
    exact ⟨known.1, Nat.le_trans known.2 (length_prepareInput source)⟩
  obtain ⟨valid, told⟩ := Query.ofTokens_answers (tokenize_ne_nil _) fits
  simp only [Query.read]
  split
  · exact .refused _
  · split
    next query ran => exact .accepted (valid query ran)
    next error ran => exact .rejected (told error ran)

theorem Query.wellFormed_of_read {source : String} {query : Query} (found : Query.read source = .accepted query) :
    query.WellFormed := by
  have known := Query.read_known source
  rw [found] at known
  cases known with
  | accepted valid => exact valid

end FormQuery
