import FormQuery.Proofs.PlainNames
import FormQuery.Proofs.Runs
import FormQuery.Proofs.SpelledNumber
import FormQuery.Proofs.SqlText
import FormQuery.Proofs.WellFormed
import FormQuery.Settings

/-! What the generator writes. The SQL of a well-formed query is legible when the names of the layout and the numbers of
the query are, whatever the texts between quotes hold. -/

namespace FormQuery

namespace Layout

/-- Every name that is written bare. -/
def names (layout : Layout) : List String :=
  layout.table :: layout.documentColumn :: layout.partitionColumn :: layout.pseudoColumns.map Prod.snd

theorem physical_mem_names {layout : Layout} {name column : String} (ran : layout.physical name = .ok column) :
    column ∈ layout.names := by
  rw [physical] at ran
  split at ran
  next found =>
    cases ran
    have inside := List.mem_map_of_mem (f := Prod.snd) (Fields.mem_of_get? found)
    simp [names, inside]
  next => cases ran

end Layout

theorem isWordPart_of_isWordStart {c : Char} (start : isWordStart c = true) : isWordPart c = true := by
  simp only [isWordStart, isWordPart, Char.isAlphanum, Bool.or_eq_true] at start ⊢
  exact start.imp_left Or.inl

namespace Settings

/-- An identifier starts like a word, and goes on with words and points; only a line end may follow. -/
theorem isIdentifier_cons {text : List Char} (named : isIdentifier text = true) :
    ∃ c rest, text = c :: rest ∧ isWordStart c = true ∧ ∀ d ∈ rest, isWordPart d = true ∨ d = '.' ∨ d = '\n' := by
  obtain ⟨c, rest, shape, start, more⟩ := (isIdentifier_iff.mp named).cons
  refine ⟨c, rest, shape, by simpa [isWordStart] using start, ?_⟩
  intro d member
  refine (more d member).imp_left ?_
  intro part
  simpa [isWordPart, Char.isAlphanum, IsNameCharacter, or_assoc] using part

end Settings

/-- Every name of a layout is a plain identifier, with nothing behind it. -/
def Layout.IsPlain (layout : Layout) : Prop :=
  ∀ name ∈ layout.names, Settings.isIdentifier name.toList = true ∧ '\n' ∉ name.toList

instance (layout : Layout) : Decidable layout.IsPlain := inferInstanceAs (Decidable (∀ name ∈ _, _))

theorem Sql.isClean_name {name : String} (named : Settings.isIdentifier name.toList = true) :
    (Piece.name name).isClean := by
  obtain ⟨c, rest, shape, start, parts⟩ := Settings.isIdentifier_cons named
  have bare {d : Char} (part : isWordPart d = true ∨ d = '.' ∨ d = '\n') : isQuote d = false := by
    rw [← Bool.not_eq_true]
    intro quote
    have quote : d = '\'' ∨ d = '"' := by simpa [isQuote] using quote
    rcases quote with rfl | rfl <;> rcases part with part | part | part <;> cases part
  have first := bare (Or.inl (isWordPart_of_isWordStart start))
  simpa [Piece.isClean, shape, first] using fun d member => bare (parts d member)

theorem Sql.isWhole_name {name : String} (named : Settings.isIdentifier name.toList = true)
    (line : '\n' ∉ name.toList) : (Piece.name name).isWhole := by
  obtain ⟨c, rest, shape, start, parts⟩ := Settings.isIdentifier_cons named
  simp only [Piece.isWhole, shape, start, Bool.true_and, List.all_eq_true]
  intro d member
  rcases parts d member with part | point | rfl
  · simp [joins, start, part]
  · simp [joins, start, point]
  · exact absurd (shape ▸ List.mem_cons_of_mem c member) line

mutual
def ValueExpr.literals : ValueExpr → List Literal
  | .literal constant => [constant]
  | .field _ | .foreign _ => []
  | .call _ arguments _ => ValueExpr.literalsAll arguments

def ValueExpr.literalsAll : List ValueExpr → List Literal
  | [] => []
  | argument :: rest => argument.literals ++ ValueExpr.literalsAll rest
end

/-- The literals of a query but for the row identifier, which is always written between quotes. -/
def Query.literals : Query → List Literal
  | .select wanted => wanted.filter.conditions.map (·.value)
  | .update change => change.value.literals

theorem Filter.conditions_wellFormed {filter : Filter} (valid : filter.WellFormed) :
    ∀ condition ∈ filter.conditions, condition.WellFormed := by
  cases filter with
  | all => simp [Filter.conditions]
  | empty => cases valid
  | chain first rest =>
    simp only [Filter.conditions, List.forall_mem_cons, List.forall_mem_map]
    exact ⟨valid.1, fun link member => (valid.2 link member).2⟩

mutual
theorem ValueExpr.literals_wellFormed {expr : ValueExpr} (valid : expr.WellFormed) :
    ∀ literal ∈ expr.literals, literal.WellFormed := by
  cases expr with
  | literal constant => simpa [ValueExpr.literals, ValueExpr.WellFormed] using valid
  | field column => simp [ValueExpr.literals]
  | call name arguments position =>
    rw [ValueExpr.WellFormed] at valid
    rw [ValueExpr.literals]
    exact ValueExpr.literalsAll_wellFormed valid.2
  | foreign kind => simp [ValueExpr.literals]

theorem ValueExpr.literalsAll_wellFormed {arguments : List ValueExpr} (valid : ValueExpr.AllWellFormed arguments) :
    ∀ literal ∈ ValueExpr.literalsAll arguments, literal.WellFormed := by
  cases arguments with
  | nil => simp [ValueExpr.literalsAll]
  | cons argument rest =>
    rw [ValueExpr.AllWellFormed] at valid
    rw [ValueExpr.literalsAll]
    exact List.forall_mem_append.mpr
      ⟨ValueExpr.literals_wellFormed valid.1, ValueExpr.literalsAll_wellFormed valid.2⟩
end

theorem Query.literals_wellFormed {query : Query} (valid : query.WellFormed) :
    ∀ literal ∈ query.literals, literal.WellFormed := by
  cases query with
  | select wanted =>
    simp only [Query.literals, List.forall_mem_map]
    exact fun condition member => (Filter.conditions_wellFormed valid.filter condition member).value
  | update change => exact ValueExpr.literals_wellFormed valid.value

/-- Whether a number is spelled with the digits of ASCII. -/
def Literal.IsAscii (literal : Literal) : Prop := ∀ c ∈ literal.text.toList, c.toNat < 128

instance (literal : Literal) : Decidable literal.IsAscii := List.decidableBAll _ _

theorem Literal.Numeric.text_eq {literal : Literal} (numeric : literal.Numeric) : SpellsNumber literal.text.toList := by
  obtain ⟨raw, number, typed, spelled, _⟩ := numeric
  simpa [Literal.text, typed] using spelled

namespace Sql

open Piece

variable {good : Piece → Prop} {layout : Layout}

theorem isClean_number {literal : Literal} (numeric : literal.Numeric) : (Piece.number literal.text).isClean := by
  have spelled := numeric.text_eq
  simp only [Piece.isClean, Bool.and_eq_true, Bool.not_eq_true', List.isEmpty_eq_false_iff, List.any_eq_false]
  refine ⟨spelled.ne_nil, fun c member quote => ?_⟩
  have quote : c = '\'' ∨ c = '"' := by simpa [isQuote] using quote
  rcases spelled.digit_or_point member with digit | point
  · have := code_of_isDigit digit
    rcases quote with rfl | rfl <;> simp at this
  · rcases quote with rfl | rfl <;> cases point

/-- A number is one symbol when it is spelled in ASCII. -/
theorem isWhole_number {literal : Literal} (numeric : literal.Numeric) (ascii : literal.IsAscii) :
    (Piece.number literal.text).isWhole := by
  have spelled := numeric.text_eq
  obtain ⟨c, rest, shape, first⟩ := spelled.head_isDigit
  have low {d : Char} (member : d ∈ literal.text.toList) (digit : Text.isDigit d = true) :
      Value.isAsciiDigit d = true := by
    have code := code_of_isDigit digit
    have small := ascii d member
    have range : 48 ≤ d.toNat ∧ d.toNat ≤ 57 := by omega
    simpa [Value.isAsciiDigit, Char.le_def, UInt32.le_iff_toNat_le] using range
  have digit := low (by simp [shape]) first
  have apart := (not_blank_of_isAsciiDigit digit).2
  simp only [Piece.isWhole, shape, digit, Bool.true_and, List.all_eq_true]
  intro d member
  have inside : d ∈ literal.text.toList := by simp [shape, member]
  rcases spelled.digit_or_point inside with digit' | point
  · simp [joins, apart, digit, low inside digit']
  · simp [joins, apart, digit, point]

theorem plain_column (ref : ColumnRef) (plain : ref.pseudo = false) :
    column ref layout = .ok (extraction ref.name layout) := by
  rw [column, plain]
  rfl

def resultColumns (layout : Layout) (wanted : Select) : Except Fault (List Sql) :=
  if wanted.star then .ok (starColumns layout) else wanted.items.mapM (selectItem layout)

def groupKeys (layout : Layout) (wanted : Select) : Except Fault (List Sql) :=
  if wanted.isGrouped then wanted.columns.mapM (column · layout) else .ok []

def grouping (wanted : Select) (keys : List Sql) : Sql :=
  if wanted.isGrouped then code " GROUP BY " :: separated ", " keys else []

def statement (layout : Layout) (wanted : Select) (columns conditions keys : List Sql) : Sql :=
  code "SELECT " :: separated ", " columns ++ code " FROM " :: name layout.table :: code " WHERE " ::
    separated " AND " (partition wanted.table.name layout :: conditions) ++ grouping wanted keys

theorem select_eq (layout : Layout) (wanted : Select) : select layout wanted = (do
    let columns ← resultColumns layout wanted
    let conditions ← filter layout wanted.filter
    let keys ← groupKeys layout wanted
    return statement layout wanted columns conditions keys) := by
  unfold select resultColumns groupKeys
  simp only [statement, grouping, List.cons_append, List.nil_append, List.append_assoc]
  split <;> split <;> rfl

theorem select_eq_ok {layout : Layout} {wanted : Select} {sql : Sql} :
    select layout wanted = .ok sql ↔ ∃ columns conditions keys,
      resultColumns layout wanted = .ok columns ∧ filter layout wanted.filter = .ok conditions ∧
        groupKeys layout wanted = .ok keys ∧ sql = statement layout wanted columns conditions keys := by
  rw [select_eq]
  constructor
  · intro ran
    obtain ⟨columns, listed, ran⟩ := ok_of_bind ran
    obtain ⟨conditions, filtered, ran⟩ := ok_of_bind ran
    obtain ⟨keys, grouped, ran⟩ := ok_of_bind ran
    cases ran
    exact ⟨columns, conditions, keys, listed, filtered, grouped, rfl⟩
  · rintro ⟨columns, conditions, keys, listed, filtered, grouped, rfl⟩
    rw [bind_ok listed, bind_ok filtered, bind_ok grouped]
    rfl

/-- The numbers among some literals are good where they are written bare. -/
def NumbersGood (good : Piece → Prop) (literals : List Literal) : Prop :=
  ∀ literal ∈ literals, literal.isNumber = true → good (.number literal.text)

theorem suits_whole : Suits fun piece => piece.isClean ∧ piece.isWhole :=
  ⟨fun _ clean => ⟨clean, rfl⟩, fun _ => ⟨rfl, rfl⟩, fun _ => ⟨rfl, rfl⟩⟩

theorem whole_names (plain : layout.IsPlain) :
    ∀ name ∈ layout.names, (Piece.name name).isClean ∧ (Piece.name name).isWhole := fun name member =>
  ⟨isClean_name (plain name member).1, isWhole_name (plain name member).1 (plain name member).2⟩

theorem whole_numbers {literals : List Literal} (valid : ∀ literal ∈ literals, literal.WellFormed)
    (ascii : ∀ literal ∈ literals, literal.isNumber = true → literal.IsAscii) :
    NumbersGood (fun piece => piece.isClean ∧ piece.isWhole) literals := fun literal member number =>
  have numeric := (valid literal member).numeric number
  ⟨isClean_number numeric, isWhole_number numeric (ascii literal member number)⟩

/-- A cast as code around its operand, which stands on both sides of the test. -/
theorem guardedCast_eq (sql : Sql) : guardedCast sql = (code "CASE WHEN (" :: (sql ++ code ") ~ " ::
    ([literal numericTextPattern] ++ code " THEN (" :: sql))) ++ [code ")::numeric END"] := by
  simp [guardedCast]

/-- Without a length `SUBSTRING` takes two arguments and no more. -/
theorem eq_nil_of_substring {text start : Sql} {rest : List Sql}
    (accepted : StringFunction.substring.accepts (text :: start :: rest).length = true)
    (unsized : ∀ size, rest ≠ [size]) : rest = [] := by
  simp only [StringFunction.accepts, StringFunction.mostArguments?, Option.all_some, Bool.and_eq_true,
    decide_eq_true_eq, List.length_cons] at accepted
  obtain _ | ⟨size, _ | ⟨other, rest⟩⟩ := rest
  · rfl
  · exact absurd rfl (unsized size)
  · simp only [List.length_cons] at accepted
    omega

theorem length_values {arguments : List ValueExpr} {shown : List Sql} (ran : values layout arguments = .ok shown) :
    shown.length = arguments.length := by
  induction arguments generalizing shown with
  | nil =>
    cases ran
    rfl
  | cons argument rest ih =>
    obtain ⟨first, _, ran⟩ := ok_of_bind ran
    obtain ⟨others, known, ran⟩ := ok_of_bind ran
    cases ran
    simp [ih known]

section Legible

variable (suits : Suits good) (named : ∀ name ∈ layout.names, good (.name name))

include suits

theorem legible_ofLiteral {value : Literal} (number : value.isNumber = true → good (.number value.text)) :
    Legible good (ofLiteral value) := by
  unfold ofLiteral
  split
  next shown => exact .single (number shown)
  next => exact .single (suits.literal _)

theorem legible_guardedCast {sql : Sql} (legible : Legible good sql) : Legible good (guardedCast sql) := by
  rw [guardedCast_eq]
  refine .concat suits (by decide) (.cons suits (by decide) (.between suits (by decide) legible ?_))
  exact .between suits (by decide) (.single (suits.literal _)) legible

/-- A text between quotes ends by itself, so any code may follow. -/
theorem legible_literal_cons (content : String) {text : String} {sql : Sql} (leads : Leads text)
    (legible : Legible good sql) : Legible good (literal content :: code text :: sql) := by
  refine ⟨suits.literal content, fun next member => ?_, legible.cons suits leads⟩
  obtain rfl : code text = next := by simpa using member
  rfl

include named

theorem legible_column {ref : ColumnRef} {sql : Sql} (ran : column ref layout = .ok sql) : Legible good sql := by
  unfold column at ran
  split at ran
  · obtain ⟨physical, found, ran⟩ := ok_of_bind ran
    cases ran
    exact .single (named physical (Layout.physical_mem_names found))
  · cases ran
    have document : good (.name layout.documentColumn) := named _ (by simp [Layout.names])
    exact .between suits (by decide : Separates " ->> ") (.single document) (.single (suits.literal ref.name))

theorem legible_partition (table : String) : Legible good (partition table layout) := by
  have own : good (.name layout.partitionColumn) := named _ (by simp [Layout.names])
  exact .between suits (by decide : Separates " = ") (.single own) (.single (suits.literal table))

theorem legible_condition {condition : Condition} {sql : Sql} (valid : condition.WellFormed)
    (number : condition.value.isNumber = true → good (.number condition.value.text))
    (ran : Sql.condition layout condition = .ok sql) : Legible good sql := by
  obtain ⟨operand, found, ran⟩ := ok_of_bind ran
  cases ran
  have operator : Separates s!" {condition.operator.symbol} " := by
    have each : ∀ operator ∈ Comparison.known, Separates s!" {operator.symbol} " := by decide
    exact each _ valid.known
  have operand := legible_column suits named found
  refine .between suits operator ?_ (legible_ofLiteral suits number)
  split
  · exact legible_guardedCast suits operand
  · exact operand

theorem legible_chain {rest : List (Connector × Condition)}
    (valid : ∀ link ∈ rest, (link.1 = .and ∨ link.1 = .or) ∧ link.2.WellFormed)
    (numbers : NumbersGood good (rest.map (·.2.value))) {first sql : Sql} (legible : Legible good first)
    (ran : chain layout first rest = .ok sql) : Legible good sql := by
  induction rest generalizing first with
  | nil =>
    cases ran
    exact legible
  | cons link rest ih =>
    obtain ⟨connector, condition⟩ := link
    obtain ⟨⟨word, known⟩, others⟩ := List.forall_mem_cons.mp valid
    obtain ⟨next, found, ran⟩ := ok_of_bind ran
    obtain ⟨number, numbers⟩ := List.forall_mem_cons.mp numbers
    refine ih others numbers ?_ ran
    have separates : Separates s!" {connector.word} " := by rcases word with rfl | rfl <;> decide
    have next := legible_condition suits named known number found
    exact .concat suits (by decide) (.between suits separates (.cons suits (by decide) legible) next)

theorem legible_filter {filter : Filter} {conditions : List Sql} (valid : filter.WellFormed)
    (numbers : NumbersGood good (filter.conditions.map (·.value))) (ran : Sql.filter layout filter = .ok conditions) :
    ∀ sql ∈ conditions, Legible good sql := by
  cases filter with
  | all =>
    cases ran
    simp
  | empty => cases valid
  | chain first rest =>
    obtain ⟨start, found, ran⟩ := ok_of_bind ran
    obtain ⟨sql, chained, ran⟩ := ok_of_bind ran
    cases ran
    simp only [Filter.conditions, List.map_cons, List.map_map] at numbers
    obtain ⟨number, numbers⟩ := List.forall_mem_cons.mp numbers
    have start := legible_condition suits named valid.1 number found
    simpa using legible_chain suits named valid.2 numbers start chained

theorem legible_aggregate {call : AggregateCall} {sql : Sql} (valid : call.WellFormed)
    (ran : aggregate call layout = .ok sql) : Legible good sql := by
  unfold aggregate at ran
  split at ran
  next =>
    cases ran
    exact .single (suits.code _ (by decide))
  next ref shown =>
    obtain ⟨plain, found, ran⟩ := ok_of_bind ran
    have argument : Legible good
        (if castsArgument call.function && !ref.pseudo then guardedCast plain else plain) := by
      have plain := legible_column suits named found
      split
      · exact legible_guardedCast suits plain
      · exact plain
    have name : Leads (call.function.name ++ "(") := by
      have each : ∀ function ∈ Aggregate.known, Leads (function.name ++ "(") := by decide
      exact each _ valid.known
    simp only at ran
    split at ran
    all_goals
      cases ran
      exact .concat suits (by decide) (.cons suits (by first | exact name | decide) argument)

theorem legible_selectItem {item : SelectItem} {sql : Sql} (valid : item.expr.WellFormed)
    (ran : selectItem layout item = .ok sql) : Legible good sql := by
  have titled {sql : Sql} (legible : Legible good sql) :
      Legible good (sql ++ [code " AS ", label item.outputName]) :=
    .between suits (by decide) legible (.single (suits.label _))
  unfold selectItem at ran
  split at ran
  next call shown =>
    obtain ⟨summary, found, ran⟩ := ok_of_bind ran
    cases ran
    rw [shown] at valid
    exact titled (legible_aggregate suits named valid found)
  next ref shown =>
    obtain ⟨plain, found, ran⟩ := ok_of_bind ran
    have plain := legible_column suits named found
    split at ran
    · cases ran
      exact plain
    · cases ran
      exact titled plain

theorem legible_starColumns : ∀ sql ∈ starColumns layout, Legible good sql := by
  have document : good (.name layout.documentColumn) := named _ (by simp [Layout.names])
  intro sql member
  rcases List.mem_append.mp member with member | member
  · obtain ⟨⟨pseudo, physical⟩, inside, rfl⟩ := List.mem_map.mp member
    have column : Legible good [name physical] :=
      .single (named _ (by simpa [Layout.names] using Or.inr (Or.inr (Or.inr ⟨_, inside⟩))))
    simp only
    split
    · exact column
    · exact .between suits (by decide : Separates " AS ") column (.single (suits.label pseudo))
  · obtain rfl : sql = [name layout.documentColumn] := by simpa using member
    exact .single document

theorem legible_resultColumns {wanted : Select} {columns : List Sql} (valid : wanted.WellFormed)
    (ran : resultColumns layout wanted = .ok columns) : ∀ sql ∈ columns, Legible good sql := by
  unfold resultColumns at ran
  split at ran
  · cases ran
    exact legible_starColumns suits named
  · intro sql member
    obtain ⟨item, inside, found⟩ := mem_of_mapM ran member
    exact legible_selectItem suits named (valid.items item inside) found

theorem legible_grouping {wanted : Select} {keys : List Sql} {sql : Sql} (ran : groupKeys layout wanted = .ok keys)
    (legible : Legible good sql) : Legible good (sql ++ grouping wanted keys) := by
  unfold groupKeys at ran
  unfold grouping
  split at ran
  next several =>
    have each : ∀ sql ∈ keys, Legible good sql := by
      intro sql member
      obtain ⟨ref, _, found⟩ := mem_of_mapM ran member
      exact legible_column suits named found
    rw [if_pos several]
    exact .between suits (by decide) legible (.separated suits (by decide) each)
  next single =>
    rw [if_neg single, List.append_nil]
    exact legible

theorem legible_select {wanted : Select} {sql : Sql} (valid : wanted.WellFormed)
    (numbers : NumbersGood good (wanted.filter.conditions.map (·.value))) (ran : select layout wanted = .ok sql) :
    Legible good sql := by
  obtain ⟨columns, conditions, keys, listed, filtered, grouped, rfl⟩ := select_eq_ok.mp ran
  have table : good (.name layout.table) := named _ (by simp [Layout.names])
  have first : Legible good (partition wanted.table.name layout) := legible_partition suits named _
  have wheres : ∀ sql ∈ partition wanted.table.name layout :: conditions, Legible good sql :=
    List.forall_mem_cons.mpr ⟨first, legible_filter suits named valid.filter numbers filtered⟩
  have shape : statement layout wanted columns conditions keys =
      code "SELECT " :: (separated ", " columns ++ code " FROM " :: ([name layout.table] ++ code " WHERE " ::
        (separated " AND " (partition wanted.table.name layout :: conditions) ++ grouping wanted keys))) := by
    simp [statement]
  rw [shape]
  refine .cons suits (by decide) (.between suits (by decide) ?_ (.between suits (by decide) (.single table) ?_))
  · exact .separated suits (by decide) (legible_resultColumns suits named valid listed)
  · exact legible_grouping suits named grouped (.separated suits (by decide) wheres)

omit named in
theorem legible_call {function : StringFunction} {arguments : List Sql} {sql : Sql}
    (legible : ∀ argument ∈ arguments, Legible good argument) (ran : call function arguments = .ok sql) :
    Legible good sql := by
  unfold call at ran
  split at ran
  · cases ran
    simp only [List.forall_mem_cons] at legible
    obtain ⟨text, start, size, _⟩ := legible
    exact .concat suits (by decide) (.between suits (by decide) (.between suits (by decide)
      (.cons suits (by decide) text) start) size)
  · cases ran
    simp only [List.forall_mem_cons] at legible
    obtain ⟨text, start, _⟩ := legible
    exact .concat suits (by decide) (.between suits (by decide) (.cons suits (by decide) text) start)
  · cases ran
  · cases ran
    have name : Leads (functionName function ++ "(") := by cases function <;> decide
    exact .concat suits (by decide) (.cons suits name (.separated suits (by decide) legible))

end Legible

mutual
theorem legible_value (suits : Suits good) (named : ∀ name ∈ layout.names, good (.name name))
    {expr : ValueExpr} {sql : Sql} (numbers : NumbersGood good expr.literals) (ran : value layout expr = .ok sql) :
    Legible good sql := by
  cases expr with
  | literal constant =>
    cases ran
    exact legible_ofLiteral suits (numbers constant (by simp [ValueExpr.literals]))
  | field ref =>
    obtain ⟨plain, found, ran⟩ := ok_of_bind ran
    cases ran
    exact .concat suits (by decide) (.cons suits (by decide) (legible_column suits named found))
  | call callee arguments position =>
    rw [value] at ran
    split at ran
    · obtain ⟨shown, found, ran⟩ := ok_of_bind ran
      rw [ValueExpr.literals] at numbers
      exact legible_call suits (legible_values suits named numbers found) ran
    · cases ran
  | foreign kind => cases ran

theorem legible_values (suits : Suits good) (named : ∀ name ∈ layout.names, good (.name name))
    {arguments : List ValueExpr} {shown : List Sql}
    (numbers : NumbersGood good (ValueExpr.literalsAll arguments)) (ran : values layout arguments = .ok shown) :
    ∀ sql ∈ shown, Legible good sql := by
  cases arguments with
  | nil =>
    cases ran
    simp
  | cons argument rest =>
    obtain ⟨first, found, ran⟩ := ok_of_bind ran
    obtain ⟨others, known, ran⟩ := ok_of_bind ran
    cases ran
    obtain ⟨own, numbers⟩ := List.forall_mem_append.mp numbers
    exact List.forall_mem_cons.mpr ⟨legible_value suits named own found, legible_values suits named numbers known⟩
end

section Legible

variable (suits : Suits good) (named : ∀ name ∈ layout.names, good (.name name))

include suits named

theorem legible_newValue {expr : ValueExpr} {sql : Sql} (numbers : NumbersGood good expr.literals)
    (ran : newValue layout expr = .ok sql) : Legible good sql := by
  unfold newValue at ran
  split at ran
  · cases ran
    exact .single (suits.literal _)
  · obtain ⟨shown, found, ran⟩ := ok_of_bind ran
    cases ran
    exact .concat suits (by decide) (.cons suits (by decide) (legible_value suits named numbers found))

theorem legible_update {change : Update} {sql : Sql} (numbers : NumbersGood good change.value.literals)
    (ran : update layout change = .ok sql) : Legible good sql := by
  obtain ⟨assigned, found, ran⟩ := ok_of_bind ran
  obtain ⟨rowId, known, ran⟩ := ok_of_bind ran
  cases ran
  have table : good (.name layout.table) := named _ (by simp [Layout.names])
  have document : good (.name layout.documentColumn) := named _ (by simp [Layout.names])
  have row : good (.name rowId) := named _ (Layout.physical_mem_names known)
  have assignment := legible_newValue suits named numbers found
  have patch := legible_literal_cons suits "\x7b\x7d" (by decide : Leads "::jsonb) || jsonb_build_object(")
    (legible_literal_cons suits change.target.name (by decide : Leads ", ") assignment)
  have scope : Legible good [name rowId, code " = ", literal change.rowId.text] :=
    .between suits (by decide : Separates " = ") (.single row) (.single (suits.literal _))
  refine .between suits (by decide : Separates " AND ") (.between suits (by decide : Separates ") WHERE ") ?_
    (legible_partition suits named _)) scope
  refine .cons suits (by decide : Leads "UPDATE ") (.between suits (by decide : Separates " SET ") (.single table) ?_)
  exact .between suits (by decide : Separates " = COALESCE(") (.single document)
    (.between suits (by decide : Separates ", ") (.single document) patch)

theorem legible_ofQuery {query : Query} {sql : Sql} (valid : query.WellFormed)
    (numbers : NumbersGood good query.literals) (ran : ofQuery layout query = .ok sql) : Legible good sql := by
  cases query with
  | select wanted => exact legible_select suits named valid numbers ran
  | update change => exact legible_update suits named numbers ran

end Legible

theorem scan_marks_ofQuery (named : ∀ name ∈ layout.names, (Piece.name name).isClean) {query : Query}
    (valid : query.WellFormed) {sql : Sql} (ran : ofQuery layout query = .ok sql) : scan sql.text = some sql.marks := by
  have suits : Suits fun piece => piece.isClean := ⟨fun _ clean => clean, fun _ => rfl, fun _ => rfl⟩
  have numbers : NumbersGood (fun piece => piece.isClean) query.literals := fun literal member number =>
    isClean_number ((Query.literals_wellFormed valid literal member).numeric number)
  exact scan_text (legible_ofQuery suits named valid numbers ran)

end Sql

end FormQuery
