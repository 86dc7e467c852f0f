import FormQuery.Proofs.WellFormed
import FormQuery.Proofs.WrittenText
import FormQuery.Query.Skeleton

/-! Writing a query and reading it again. A well-formed query comes back as it was, up to positions, and what is read
from any text is well formed, so it comes back as well. Readers are taken one after the other: each takes the parts of
its own phrase off the front, whatever stands behind them, unless what stands there would continue the phrase. -/

namespace FormQuery

variable {α β : Type} {behind : List TokenKind} {part : Part} {parts rest : List Part}

theorem Part.kind_ne_endOfInput (behind : List TokenKind) (part : Part) : part.kind behind ≠ .endOfInput := by
  cases part with
  | word text =>
    rw [kind]
    cases reserved : reservedKind? (String.ofList (text.toList.map Char.toUpper)) with
    | none => simp
    | some kind =>
      rintro rfl
      have cases := reservedKind?_cases reserved
      simp [keywords] at cases
  | sign c =>
    rw [kind]
    cases found : punctuation.lookup c with
    | none => simp
    | some kind =>
      rintro rfl
      have member := mem_of_lookup found
      simp [punctuation] at member
  | quoted content =>
    rw [kind]
    rcases quotedKind_cases behind content.toList with kind | kind | kind <;> simp [kind]
  | operator | number => simp [kind]

/-- Only what a quoted text stands for is settled by what stands before it. -/
theorem Part.kind_bare (bare : part.isQuoted = false) (behind : List TokenKind) : part.kind behind = part.kind [] := by
  cases part with
  | quoted => cases bare
  | word | operator | sign | number => rfl

/-- The kind of the token that comes next. -/
def firstKind (behind : List TokenKind) : List Part → TokenKind
  | [] => .endOfInput
  | part :: _ => part.kind behind

theorem Stands.kind_eq {token : Token} {tokens : List Token} (stands : Stands behind parts (token :: tokens)) :
    token.kind = firstKind behind parts := by
  cases stands with
  | done ended => exact ended
  | part shows => exact shows.kind

namespace Parser

/-- From the tokens of `parts` the parser gives a value with a property, and leaves the tokens of `rest`. -/
def Takes (behind : List TokenKind) (parser : Parser α) (parts rest : List Part) (post : α → Prop) : Prop :=
  ∀ cursor : Cursor, Stands behind parts (cursor.current :: cursor.ahead) → ∃ value after kinds,
    parser.run cursor = .ok (value, after) ∧ post value ∧ Stands kinds rest (after.current :: after.ahead)

namespace Takes

variable {post : α → Prop} {next : Token → Parser α}

theorem pure {value : α} (known : post value) : Takes behind (pure value) rest rest post :=
  fun cursor stands => ⟨value, cursor, behind, rfl, known, stands⟩

theorem bind {parser : Parser β} {resume : β → Parser α} {middle : List Part} {first : β → Prop}
    (takes : Takes behind parser parts middle first)
    (others : ∀ value, first value → ∀ kinds, Takes kinds (resume value) middle rest post) :
    Takes behind (parser >>= resume) parts rest post := by
  intro cursor stands
  obtain ⟨value, after, kinds, ran, known, stands⟩ := takes cursor stands
  rw [run_bind, ran]
  exact others value known kinds after stands

theorem current (resume : ∀ token, token.Shows behind part → Takes behind (next token) (part :: parts) rest post) :
    Takes behind (current >>= next) (part :: parts) rest post := by
  intro cursor stands
  rw [run_bind, run_current]
  cases stands with
  | part shows others => exact resume cursor.current shows cursor (.part shows others)

/-- What may be the end of the text is known by its kind only. -/
theorem glance (resume : ∀ token, token.kind = firstKind behind parts → Takes behind (next token) parts rest post) :
    Takes behind (Parser.current >>= next) parts rest post := by
  intro cursor stands
  rw [run_bind, run_current]
  exact resume cursor.current stands.kind_eq cursor stands

theorem ahead (resume : ∀ token, Takes behind (next token) parts rest post) :
    Takes behind (Parser.next >>= next) parts rest post := by
  intro cursor stands
  rw [run_bind, run_next]
  exact resume cursor.next cursor stands

theorem advance
    (resume : ∀ token, token.Shows behind part → Takes (part.kind behind :: behind) (next token) parts rest post) :
    Takes behind (advance >>= next) (part :: parts) rest post := by
  intro cursor stands
  rw [run_bind, run_advance]
  obtain ⟨token, ahead⟩ := cursor
  cases stands with
  | part shows others =>
    have moves : token.kind ≠ .endOfInput := shows.kind ▸ part.kind_ne_endOfInput behind
    simp only [Cursor.advance, moves, if_false]
    cases ahead with
    | nil => cases others
    | cons following ahead => exact resume token shows ⟨following, ahead⟩ others

theorem expect {kind : TokenKind} {expected : String} (same : part.kind behind = kind)
    (resume : ∀ token, token.Shows behind part → Takes (part.kind behind :: behind) (next token) parts rest post) :
    Takes behind (expect kind expected >>= next) (part :: parts) rest post := by
  intro cursor stands
  have shown : cursor.current.kind = kind := stands.kind_eq.trans same
  have steps := advance resume cursor stands
  rw [run_bind, run_advance] at steps
  rw [run_bind, run_expect, if_pos shown]
  exact steps

theorem atKind {kind : TokenKind} {next : Bool → Parser α}
    (resume : Takes behind (next (decide (firstKind behind parts = kind))) parts rest post) :
    Takes behind (atKind kind >>= next) parts rest post := by
  intro cursor stands
  rw [run_bind, run_atKind, stands.kind_eq]
  exact resume cursor stands

theorem here {kind : TokenKind} {first second : Parser α} (same : firstKind behind parts = kind)
    (takes : Takes behind first parts rest post) :
    Takes behind (do if ← Parser.atKind kind then first else second) parts rest post :=
  atKind (by simpa [same] using takes)

theorem elsewhere {kind : TokenKind} {first second : Parser α} (other : firstKind behind parts ≠ kind)
    (takes : Takes behind second parts rest post) :
    Takes behind (do if ← Parser.atKind kind then first else second) parts rest post :=
  atKind (by simpa [other] using takes)

end Takes

/-- System columns are read as they are written: their names are words of no other meaning, in small letters. -/
private theorem bareColumn_pseudo {name : String} (system : name ∈ pseudoColumns.map Prod.fst) :
    (∀ behind, (Part.word name).kind behind = .unrecognized) ∧ startsName name = true ∧
      capitals name ∉ unsupportedWords ∧ smallLetters name = name ∧ (pseudoColumns.lookup name).isSome := by
  have each : ∀ name ∈ pseudoColumns.map Prod.fst, (Part.word name).kind [] = .unrecognized ∧ startsName name = true ∧
      capitals name ∉ unsupportedWords ∧ smallLetters name = name ∧ (pseudoColumns.lookup name).isSome := by
    decide +kernel
  obtain ⟨kind, others⟩ := each name system
  exact ⟨fun _ => kind, others⟩

theorem firstKind_column {ref : ColumnRef} (valid : ref.WellFormed) (behind : List TokenKind) (rest : List Part) :
    firstKind behind (ref.parts ++ rest) = .fieldWord ∨ firstKind behind (ref.parts ++ rest) = .unrecognized := by
  rw [ColumnRef.parts]
  split
  next pseudo => exact .inr ((bareColumn_pseudo (valid pseudo)).1 behind)
  next => exact .inl rfl

theorem column_takes {ref : ColumnRef} (valid : ref.WellFormed) :
    Takes behind column (ref.parts ++ rest) rest fun found => found.unplaced = ref.unplaced := by
  obtain ⟨name, position, pseudo⟩ := ref
  cases pseudo with
  | false =>
    refine .current fun token shows => ?_
    have kind : token.kind = .fieldWord := shows.kind
    simp only [kind]
    refine .advance fun _ _ => .expect rfl fun _ _ => .expect rfl fun named shown => .expect rfl fun _ _ => .pure ?_
    simp [ColumnRef.unplaced, shown.value, Part.value]
  | true =>
    obtain ⟨unrecognized, starts, allowed, small, system⟩ := bareColumn_pseudo (valid rfl)
    refine .current fun token shows => ?_
    have kind : token.kind = .unrecognized := shows.kind.trans (unrecognized behind)
    have value : token.value = name := shows.value
    simp only [kind, value, starts, allowed, if_true, if_false]
    refine .advance fun _ _ => .pure ?_
    simp [bareColumn, value, small, system, ColumnRef.unplaced]

theorem table_takes {table : TableRef} (kind : table.part.kind behind = .tableRef) :
    Takes behind Parser.table (table.part :: rest) rest fun found => found.unplaced = table.unplaced :=
  .expect kind fun token shows => .pure (by simp [TableRef.unplaced, shows.value, TableRef.part, Part.value])

/-- What stands for a literal starts no column, no function and no repetition. -/
theorem kind_literal {constant : Literal} (valid : constant.WellFormed) (behind : List TokenKind) :
    constant.part.kind behind = .number ∨ constant.part.kind behind = .tableRef ∨
      constant.part.kind behind = .columnRef ∨ constant.part.kind behind = .string := by
  rcases valid with ⟨content, value, raw⟩ | ⟨raw, number, spelling, _⟩
  · rw [Literal.part, raw]
    exact .inr (quotedKind_cases behind _)
  · rw [Literal.part, spelling]
    exact .inl rfl

theorem literal_takes {constant : Literal} (valid : constant.WellFormed) :
    Takes behind literal (constant.part :: rest) rest fun found => found.unplaced = constant.unplaced := by
  refine .current fun token shows => ?_
  obtain ⟨stored, position, raw⟩ := constant
  rcases valid with ⟨content, rfl, rfl⟩ | ⟨raw, number, rfl, _, read, rfl⟩
  · have quoted : token.isQuoted = true := shows.isQuoted rfl
    have value : token.value = content := shows.value
    have takes : Takes behind (if token.isQuoted then do
        let _ ← advance
        return (⟨.text token.value, token.position, none⟩ : Literal)
      else refuse "string or number literal") (.quoted content :: rest) rest
        fun found => found.unplaced = Literal.unplaced ⟨.text content, position, none⟩ := by
      rw [if_pos quoted]
      exact .advance fun _ _ => .pure (by simp [Literal.unplaced, value])
    rcases quotedKind_cases behind content.toList with kind | kind | kind
    all_goals
      have shown : token.kind = _ := shows.kind.trans kind
      simp only [shown]
      exact takes
  · have kind : token.kind = .number := shows.kind
    have value : token.value = raw := shows.value
    simp only [kind, value, read]
    exact .advance fun _ _ => .pure rfl

private theorem kind_aggregate {function : Aggregate} (known : function ∈ Aggregate.known) (behind : List TokenKind) :
    (Part.word function.name).kind behind = .aggregate ∧ Aggregate.ofName function.name = function := by
  have each : ∀ function ∈ Aggregate.known,
      (Part.word function.name).kind [] = .aggregate ∧ Aggregate.ofName function.name = function := by decide +kernel
  exact each function known

theorem argumentOf_takes {call : AggregateCall} (valid : call.WellFormed) {function : Token}
    (named : function.value = call.function.name) :
    Takes behind (aggregateCall.argumentOf function) (call.argumentParts ++ rest) rest
      fun found => found.map ColumnRef.unplaced = call.argument.map ColumnRef.unplaced := by
  rw [AggregateCall.argumentParts]
  cases argument : call.argument with
  | none =>
    have counts : function.value = "COUNT" := by rw [named, valid.counts argument]; rfl
    refine .here rfl (.advance fun _ _ => ?_)
    rw [if_pos counts]
    exact .pure rfl
  | some ref =>
    have known : ref.WellFormed := valid.argument ref argument
    refine .elsewhere ?_ (.bind (column_takes known) fun found same _ => .pure (by simp [same]))
    rcases firstKind_column known behind rest with kind | kind <;> simp [kind]

theorem aggregateCall_takes {call : AggregateCall} (valid : call.WellFormed) :
    Takes behind aggregateCall (call.parts ++ rest) rest fun found => found.unplaced = call.unplaced := by
  obtain ⟨kind, known⟩ := kind_aggregate valid.known behind
  rw [AggregateCall.parts, List.cons_append, List.cons_append, List.append_assoc]
  refine .expect kind fun function shows => .expect rfl fun _ _ => ?_
  refine .bind (argumentOf_takes valid shows.value) fun argument same _ => .expect rfl fun _ _ => .pure ?_
  have named : function.value = call.function.name := shows.value
  simp [AggregateCall.unplaced, same, named, known]

theorem aliasName_takes (name : String) :
    Takes behind aliasName (.quoted name :: rest) rest fun found => found = name := by
  refine .current fun token shows => ?_
  have other : token.kind ≠ .unrecognized := by
    rw [shows.kind]
    rcases quotedKind_cases behind name.toList with kind | kind | kind <;> simp [Part.kind, kind]
  simp only [other, if_false, shows.isQuoted rfl, if_true]
  exact .advance fun _ _ => .pure shows.value

theorem selectItem_takes {item : SelectItem} (valid : item.expr.WellFormed)
    (stops : ∀ kinds, firstKind kinds rest ≠ .asWord) :
    Takes behind selectItem (item.parts ++ rest) rest fun found => found.unplaced = item.unplaced := by
  obtain ⟨expr, alias?⟩ := item
  have named (found : SelectExpr) (same : found.unplaced = expr.unplaced) (kinds : List TokenKind) :
      Takes kinds (do
        if ← atKind .asWord then
          let _ ← advance
          return (⟨found, some (← aliasName)⟩ : SelectItem)
        else return ⟨found, none⟩)
      (aliasParts alias? ++ rest) rest fun item => item.unplaced = SelectItem.unplaced ⟨expr, alias?⟩ := by
    cases alias? with
    | none => exact .elsewhere (stops kinds) (.pure (by simp [SelectItem.unplaced, same]))
    | some name =>
      refine .here rfl (.advance fun _ _ => .bind (aliasName_takes name) fun shown written _ => .pure ?_)
      simp [SelectItem.unplaced, same, written]
  rw [SelectItem.parts, List.append_assoc]
  cases expr with
  | column ref =>
    have other : firstKind behind (ref.parts ++ (aliasParts alias? ++ rest)) ≠ .aggregate := by
      rcases firstKind_column valid behind (aliasParts alias? ++ rest) with kind | kind <;> simp [kind]
    refine .elsewhere other (.bind (column_takes valid) fun found same kinds => ?_)
    exact named (.column found) (by simp [SelectExpr.unplaced, same]) kinds
  | aggregate call =>
    refine .here (kind_aggregate valid.known behind).1 (.bind (aggregateCall_takes valid) fun found same kinds => ?_)
    exact named (.aggregate found) (by simp [SelectExpr.unplaced, same]) kinds

/-- Behind a phrase stands either a comma with a further one, or what stands behind all of them. -/
private theorem firstKind_more {kind : TokenKind} (other : kind ≠ .comma) (stops : ∀ kinds, firstKind kinds rest ≠ kind)
    (lists : List (List Part)) (kinds : List TokenKind) :
    firstKind kinds (lists.flatMap (.sign ',' :: ·) ++ rest) ≠ kind := by
  cases lists with
  | nil => exact stops kinds
  | cons => exact other.symm

theorem moreItems_takes {items : List SelectItem} (valid : ∀ item ∈ items, item.expr.WellFormed) {fuel : Nat}
    (enough : ((items.map SelectItem.parts).flatMap (.sign ',' :: ·)).length ≤ fuel)
    (stops : ∀ kinds, firstKind kinds rest ≠ .asWord) (ends : ∀ kinds, firstKind kinds rest ≠ .comma) :
    Takes behind (moreItems fuel) ((items.map SelectItem.parts).flatMap (.sign ',' :: ·) ++ rest) rest
      fun found => found.map SelectItem.unplaced = items.map SelectItem.unplaced := by
  induction items generalizing behind fuel with
  | nil =>
    cases fuel with
    | zero => exact .pure rfl
    | succ left => exact .elsewhere (ends behind) (.pure rfl)
  | cons item items ih =>
    simp only [List.map_cons, List.flatMap_cons, List.length_append, List.length_cons] at enough
    obtain ⟨left, rfl⟩ : ∃ left, fuel = left + 1 := ⟨fuel - 1, by omega⟩
    rw [List.map_cons, List.flatMap_cons, List.append_assoc, List.cons_append]
    refine .here rfl (.advance fun _ _ => ?_)
    refine .bind (selectItem_takes (valid item (by simp)) (firstKind_more (by decide) stops _)) fun found same _ => ?_
    refine .bind (ih (fun item member => valid item (by simp [member])) (by omega)) fun others known _ => .pure ?_
    simp [same, known]

private theorem kind_comparison {comparison : Comparison} (known : comparison ∈ Comparison.known)
    (behind : List TokenKind) : comparison.part.kind behind = .operator ∧ comparison.part.value = comparison.symbol ∧
      Comparison.ofSymbol comparison.symbol = comparison := by
  have each : ∀ comparison ∈ Comparison.known, comparison.part.isQuoted = false ∧
      comparison.part.kind [] = .operator ∧ comparison.part.value = comparison.symbol ∧
      Comparison.ofSymbol comparison.symbol = comparison := by decide +kernel
  obtain ⟨bare, kind, others⟩ := each comparison known
  exact ⟨(Part.kind_bare bare behind).trans kind, others⟩

theorem isNumber_unplaced (constant : Literal) : constant.unplaced.isNumber = constant.isNumber := rfl

theorem condition_takes {wanted : Condition} (valid : wanted.WellFormed) :
    Takes behind condition (wanted.parts ++ rest) rest fun found => found.unplaced = wanted.unplaced := by
  rw [Condition.parts, List.append_assoc]
  refine .bind (column_takes valid.column) fun column same kinds => ?_
  obtain ⟨kind, value, known⟩ := kind_comparison valid.known kinds
  refine .expect kind fun operator shows => .bind (literal_takes valid.value) fun constant written _ => ?_
  have comparison : Comparison.ofSymbol operator.value = wanted.operator := by rw [shows.value, value, known]
  have number : constant.isNumber = wanted.value.isNumber := by
    rw [← isNumber_unplaced, written, isNumber_unplaced]
  have allowed : (wanted.operator.isPattern && constant.isNumber) = false := by
    cases pattern : wanted.operator.isPattern with
    | false => rfl
    | true => rw [number, (valid.pattern pattern).isNumber]; rfl
  simp only [comparison, allowed]
  exact .pure (by simp [Condition.unplaced, same, written])

private theorem kind_connector {connector : Connector} (known : connector = .and ∨ connector = .or)
    (behind : List TokenKind) : ((Part.word connector.word).kind behind = .andWord ∨
      (Part.word connector.word).kind behind = .orWord) ∧ Connector.ofWord connector.word = connector := by
  rcases known with rfl | rfl
  · exact ⟨.inl rfl, rfl⟩
  · exact ⟨.inr rfl, rfl⟩

/-- The conditions end where the text does. -/
theorem moreConditions_takes {links : List (Connector × Condition)}
    (valid : ∀ link ∈ links, (link.1 = .and ∨ link.1 = .or) ∧ link.2.WellFormed) {fuel : Nat}
    (enough : (links.flatMap linkParts).length ≤ fuel) :
    Takes behind (moreConditions fuel) (links.flatMap linkParts) [] fun found =>
      found.map unplacedLink = links.map unplacedLink := by
  induction links generalizing behind fuel with
  | nil =>
    cases fuel with
    | zero => exact .pure rfl
    | succ left => exact .glance fun token ended => by simpa [ended, firstKind] using .pure rfl
  | cons link links ih =>
    obtain ⟨⟨known, wellFormed⟩, others⟩ := List.forall_mem_cons.mp valid
    simp only [List.flatMap_cons, List.length_append, linkParts, List.length_cons] at enough
    obtain ⟨left, rfl⟩ : ∃ left, fuel = left + 1 := ⟨fuel - 1, by omega⟩
    obtain ⟨kind, connects⟩ := kind_connector known behind
    refine .current fun token shows => ?_
    have shown : (decide (token.kind = .andWord) || decide (token.kind = .orWord)) = true := by
      rw [shows.kind]
      simpa using kind
    have value : token.value = link.1.word := shows.value
    rw [if_pos shown]
    refine .advance fun _ _ => .bind (condition_takes wellFormed) fun condition same _ => ?_
    refine .bind (ih others (by omega)) fun more following _ => .pure ?_
    simp [unplacedLink, same, following, value, connects]

theorem filter_takes {wanted : Filter} (valid : wanted.WellFormed) {fuel : Nat} (enough : wanted.parts.length ≤ fuel) :
    Takes behind (filter fuel) wanted.parts [] fun found => found.unplaced = wanted.unplaced := by
  cases wanted with
  | all => exact .elsewhere (by simp [Filter.parts, firstKind]) (.pure rfl)
  | empty => cases valid
  | chain first links =>
    simp only [Filter.parts, List.length_append, List.length_cons] at enough
    refine .here rfl (.advance fun _ _ => .bind (condition_takes valid.1) fun condition same _ => ?_)
    refine .bind (moreConditions_takes valid.2 (by omega)) fun others known _ => .pure ?_
    simp [Filter.unplaced, same, known]

private theorem firstKind_item {item : SelectItem} (valid : item.expr.WellFormed) (behind : List TokenKind)
    (rest : List Part) : firstKind behind (item.parts ++ rest) ≠ .star := by
  obtain ⟨expr, alias?⟩ := item
  rw [SelectItem.parts, List.append_assoc]
  cases expr with
  | column ref =>
    rw [SelectExpr.parts]
    rcases firstKind_column valid behind (aliasParts alias? ++ rest) with kind | kind <;> simp [kind]
  | aggregate call =>
    have kind : firstKind behind (call.parts ++ (aliasParts alias? ++ rest)) = .aggregate :=
      (kind_aggregate valid.known behind).1
    simp [SelectExpr.parts, kind]

theorem select_takes {wanted : Select} (valid : wanted.WellFormed) {fuel : Nat} (enough : wanted.parts.length ≤ fuel) :
    Takes behind (select fuel) wanted.parts [] fun found => found.unplaced = wanted.unplaced := by
  obtain ⟨star, items, table, filter⟩ := wanted
  have tail (found : List SelectItem) (same : found.map SelectItem.unplaced = items.map SelectItem.unplaced)
      (kinds : List TokenKind) : Takes kinds (do
        let _ ← expect .fromWord "FROM"
        let table ← Parser.table
        return (⟨star, found, table, ← Parser.filter fuel⟩ : Select))
      ([.word "FROM", table.part] ++ filter.parts) []
      fun found => found.unplaced = Select.unplaced ⟨star, items, table, filter⟩ := by
    have short : filter.parts.length ≤ fuel := by
      simp only [Select.parts, List.length_append, List.length_cons] at enough
      omega
    refine .expect rfl fun _ _ => .bind (table_takes rfl) fun found named _ => ?_
    refine .bind (filter_takes valid.filter short) fun conditions known _ => .pure ?_
    simp [Select.unplaced, same, named, known]
  cases star with
  | true =>
    obtain rfl : items = [] := valid.columns
    exact .expect rfl fun _ _ => .atKind (.advance fun _ _ => tail [] rfl _)
  | false =>
    cases items with
    | nil => exact absurd rfl valid.columns
    | cons item items =>
      obtain ⟨known, others⟩ := List.forall_mem_cons.mp valid.items
      have listed : Select.parts ⟨false, item :: items, table, filter⟩ =
          .word "SELECT" :: (item.parts ++ ((items.map SelectItem.parts).flatMap (.sign ',' :: ·) ++
            ([.word "FROM", table.part] ++ filter.parts))) := by
        simp [Select.parts, Part.commas]
      rw [listed] at enough ⊢
      simp only [List.length_append, List.length_cons] at enough
      have stops {kind : TokenKind} (other : .fromWord ≠ kind) (kinds : List TokenKind) :
          firstKind kinds ([.word "FROM", table.part] ++ filter.parts) ≠ kind := other
      refine .expect rfl fun _ _ => .atKind ?_
      rw [decide_eq_false (firstKind_item known _ _)]
      refine .bind (selectItem_takes known (firstKind_more (by decide) (stops (by decide)) _)) fun found same _ => ?_
      refine .bind (moreItems_takes others (by omega) (stops (by decide)) (stops (by decide)))
        fun more following _ => ?_
      exact tail (found :: more) (by simp [same, following]) _

private theorem kind_function (function : StringFunction) (behind : List TokenKind) :
    (Part.word function.name).kind behind = .function := by
  have each : (Part.word function.name).kind [] = .function := by cases function <;> decide +kernel
  exact each

theorem length_unplacedAll (arguments : List ValueExpr) :
    (ValueExpr.unplacedAll arguments).length = arguments.length := by
  induction arguments with
  | nil => rfl
  | cons argument rest ih => simp [ValueExpr.unplacedAll, ih]

private theorem constant_takes {constant : Literal} (valid : constant.WellFormed) :
    Takes behind (do return ValueExpr.literal (← literal)) (constant.part :: rest) rest fun found =>
      found.unplaced = (ValueExpr.literal constant).unplaced :=
  .bind (literal_takes valid) fun found same _ => .pure (by simp [ValueExpr.unplaced, same])

private theorem value_takes_literal {constant : Literal} (valid : constant.WellFormed) (left : Nat) :
    Takes behind (value (left + 1)) (constant.part :: rest) rest fun found =>
      found.unplaced = (ValueExpr.literal constant).unplaced := by
  rw [value]
  refine .current fun token shows => .ahead fun _ => ?_
  have takes : Takes behind (do return ValueExpr.literal (← literal)) (constant.part :: rest) rest fun found =>
      found.unplaced = (ValueExpr.literal constant).unplaced := constant_takes valid
  rcases kind_literal valid behind with kind | kind | kind | kind
  all_goals
    have shown : token.kind = _ := shows.kind.trans kind
    simp only [shown]
    exact takes

private theorem value_takes_field {ref : ColumnRef} (plain : ref.pseudo = false) (left : Nat) :
    Takes behind (value (left + 1)) (ref.parts ++ rest) rest fun found =>
      found.unplaced = (ValueExpr.field ref).unplaced := by
  have takes : Takes behind column (ref.parts ++ rest) rest fun found => found.unplaced = ref.unplaced :=
    column_takes (by simp [ColumnRef.WellFormed, plain])
  rw [value]
  rw [ColumnRef.parts, if_neg (by simp [plain])] at takes ⊢
  refine .current fun token shows => .ahead fun _ => ?_
  have kind : token.kind = .fieldWord := shows.kind
  simp only [kind]
  exact .bind takes fun found same _ => .pure (by simp [ValueExpr.unplaced, same])

private theorem parts_call (name : String) (first : ValueExpr) (others : List ValueExpr) (position : Nat)
    (rest : List Part) : (ValueExpr.call name (first :: others) position).parts ++ rest =
      .word name :: .sign '(' :: (first.parts ++ ((ValueExpr.partsAll others).flatMap (.sign ',' :: ·) ++
        .sign ')' :: rest)) := by
  simp [ValueExpr.parts, ValueExpr.partsAll, Part.commas]

private theorem functionCall_takes {function : StringFunction} {first : ValueExpr} {others : List ValueExpr}
    {left : Nat} (accepted : function.accepts (first :: others).length = true)
    (argument : ∀ {behind : List TokenKind} {rest : List Part},
      Takes behind (value left) (first.parts ++ rest) rest fun found => found.unplaced = first.unplaced)
    (more : ∀ {behind : List TokenKind} {rest : List Part}, (∀ kinds, firstKind kinds rest ≠ .comma) →
      Takes behind (moreArguments left) ((ValueExpr.partsAll others).flatMap (.sign ',' :: ·) ++ rest) rest
        fun found => ValueExpr.unplacedAll found = ValueExpr.unplacedAll others) (position : Nat) :
    Takes behind (functionCall (left + 1))
      ((ValueExpr.call function.name (first :: others) position).parts ++ rest) rest
      fun found => found.unplaced = (ValueExpr.call function.name (first :: others) position).unplaced := by
  rw [functionCall, parts_call]
  refine .expect (kind_function function behind) fun name shows => .expect rfl fun _ _ => ?_
  have closes (kinds : List TokenKind) : firstKind kinds (.sign ')' :: rest) ≠ .comma := by
    have kind : firstKind kinds (.sign ')' :: rest) = .rightParen := rfl
    simp [kind]
  refine .bind argument fun value same _ => .bind (more closes) fun values following _ => .expect rfl fun _ _ => ?_
  have named : name.value = function.name := shows.value
  have arguments : ValueExpr.unplacedAll (value :: values) = ValueExpr.unplacedAll (first :: others) := by
    simp [ValueExpr.unplacedAll, same, following]
  have count : (value :: values).length = (first :: others).length := by
    rw [← length_unplacedAll, arguments, length_unplacedAll]
  rw [named, StringFunction.find?_name]
  simp only [count, accepted, if_true]
  exact .pure (by simp [ValueExpr.unplaced, arguments])

mutual
/-- A value takes two steps of fuel for each function around it. -/
theorem value_takes {expr : ValueExpr} (valid : expr.WellFormed) {fuel : Nat} (enough : 2 * expr.parts.length ≤ fuel)
    {behind : List TokenKind} {rest : List Part} :
    Takes behind (value fuel) (expr.parts ++ rest) rest fun found => found.unplaced = expr.unplaced := by
  cases expr with
  | literal constant =>
    rw [ValueExpr.WellFormed] at valid
    rw [ValueExpr.parts] at enough ⊢
    obtain ⟨left, rfl⟩ : ∃ left, fuel = left + 1 := ⟨fuel - 1, by simp at enough; omega⟩
    exact value_takes_literal valid left
  | field ref =>
    rw [ValueExpr.WellFormed] at valid
    rw [ValueExpr.parts] at enough ⊢
    have long : ref.parts.length = 4 := by simp [ColumnRef.parts, valid]
    obtain ⟨left, rfl⟩ : ∃ left, fuel = left + 1 := ⟨fuel - 1, by omega⟩
    exact value_takes_field valid left
  | call name arguments position =>
    cases arguments with
    | nil =>
      rw [ValueExpr.WellFormed] at valid
      obtain ⟨function, _, accepted⟩ := valid.1
      cases function <;> simp [StringFunction.accepts, StringFunction.leastArguments] at accepted
    | cons first others =>
      simp only [ValueExpr.WellFormed, ValueExpr.AllWellFormed] at valid
      obtain ⟨⟨function, known, accepted⟩, argument, more⟩ := valid
      obtain rfl := StringFunction.eq_name_of_ofName? known
      have long := congrArg List.length (parts_call function.name first others position [])
      simp only [List.length_append, List.length_cons, List.length_nil] at long
      obtain ⟨left, rfl⟩ : ∃ left, fuel = left + 2 := ⟨fuel - 2, by omega⟩
      have takes : Takes behind (functionCall (left + 1))
          ((ValueExpr.call function.name (first :: others) position).parts ++ rest) rest
          fun found => found.unplaced = (ValueExpr.call function.name (first :: others) position).unplaced :=
        functionCall_takes accepted (value_takes argument (by omega)) (moreArguments_takes more (by omega)) position
      rw [value]
      rw [parts_call] at takes ⊢
      refine .current fun token shows => .ahead fun _ => ?_
      have kind : token.kind = .function := shows.kind.trans (kind_function function behind)
      simp only [kind]
      exact takes
  | foreign kind =>
    rw [ValueExpr.WellFormed] at valid
    exact valid.elim

theorem moreArguments_takes {arguments : List ValueExpr} (valid : ValueExpr.AllWellFormed arguments) {fuel : Nat}
    (enough : 2 * ((ValueExpr.partsAll arguments).flatMap (.sign ',' :: ·)).length ≤ fuel) {behind : List TokenKind}
    {rest : List Part} (ends : ∀ kinds, firstKind kinds rest ≠ .comma) :
    Takes behind (moreArguments fuel) ((ValueExpr.partsAll arguments).flatMap (.sign ',' :: ·) ++ rest) rest
      fun found => ValueExpr.unplacedAll found = ValueExpr.unplacedAll arguments := by
  cases arguments with
  | nil =>
    cases fuel with
    | zero => rw [moreArguments]; exact .pure rfl
    | succ left => rw [moreArguments]; exact .elsewhere (ends behind) (.pure rfl)
  | cons argument others =>
    simp only [ValueExpr.partsAll, List.flatMap_cons, List.length_append, List.length_cons] at enough
    simp only [ValueExpr.AllWellFormed] at valid
    obtain ⟨left, rfl⟩ : ∃ left, fuel = left + 1 := ⟨fuel - 1, by omega⟩
    rw [ValueExpr.partsAll, List.flatMap_cons, List.append_assoc, List.cons_append, moreArguments]
    refine .here rfl (.advance fun _ _ => .bind (value_takes valid.1 (by omega)) fun found same _ => ?_)
    refine .bind (moreArguments_takes valid.2 (by omega) ends) fun more following _ => .pure ?_
    simp [ValueExpr.unplacedAll, same, following]
end

theorem equals_takes : Takes behind equals (.operator "=" :: rest) rest fun _ => True := by
  refine .expect rfl fun operator shows => ?_
  have value : operator.value = "=" := shows.value
  rw [if_pos value]
  exact .pure trivial

theorem update_takes {change : Update} (valid : change.WellFormed) {fuel : Nat}
    (enough : 2 * change.parts.length ≤ fuel) :
    Takes behind (update fuel) change.parts [] fun found => found.unplaced = change.unplaced := by
  obtain ⟨table, target, value, rowId⟩ := change
  have listed : Update.parts ⟨table, target, value, rowId⟩ =
      .word "UPDATE" :: .word "FORM" :: table.part :: .word "SET" :: (target.parts ++ .operator "=" ::
        (value.parts ++ [.word "WHERE", .word "submission_id", .operator "=", rowId.part])) := by
    simp [Update.parts]
  rw [listed] at enough ⊢
  simp only [List.length_append, List.length_cons] at enough
  have plain : target.pseudo = false := valid.target
  have field : target.WellFormed := by simp [ColumnRef.WellFormed, plain]
  have built : value.WellFormed := valid.value
  refine .expect rfl fun _ _ => .expect rfl fun _ _ => .bind (table_takes rfl) fun table' named _ => ?_
  refine .expect rfl fun _ _ => ?_
  have first (kinds : List TokenKind) (rest : List Part) : firstKind kinds (target.parts ++ rest) = .fieldWord := by
    rw [ColumnRef.parts, if_neg (by simp [plain])]
    rfl
  refine .here (first _ _) (.bind (column_takes field) fun target' same _ => .bind equals_takes fun _ _ _ => ?_)
  refine .bind (value_takes built (by omega)) fun value' known _ => .expect rfl fun _ _ => ?_
  refine .current fun token shows => ?_
  have kind : token.kind = .unrecognized := shows.kind
  have spelled : token.value = "submission_id" := shows.value
  have small : smallLetters "submission_id" = rowIdColumn := (bareColumn_pseudo (by decide)).2.2.2.1
  simp only [kind, spelled, small]
  refine .advance fun _ _ => .bind equals_takes fun _ _ _ => ?_
  refine .bind (literal_takes valid.rowId) fun rowId' written _ => .pure ?_
  exact (by simp [Update.unplaced, named, same, known, written])

theorem statement_takes {query : Query} (valid : query.WellFormed) {fuel : Nat}
    (enough : 2 * query.parts.length ≤ fuel) :
    Takes behind (statement fuel) query.parts [] fun found => found.unplaced = query.unplaced := by
  have ends (found : Query) (same : found.unplaced = query.unplaced) (kinds : List TokenKind) : Takes kinds
      (do if ← atKind .endOfInput then return found else refuse "end of input") [] []
      fun found => found.unplaced = query.unplaced := .here rfl (.pure same)
  refine .glance fun token shown => ?_
  cases query with
  | select wanted =>
    have kind : token.kind = .selectWord := shown
    simp only [kind]
    have short : wanted.parts.length ≤ fuel := by
      simp only [Query.parts] at enough
      omega
    refine .bind (select_takes valid short) fun found same kinds => ?_
    exact ends (.select found) (by simp [Query.unplaced, same]) kinds
  | update change =>
    have kind : token.kind = .updateWord := shown
    simp only [kind]
    refine .bind (update_takes valid enough) fun found same kinds => ?_
    exact ends (.update found) (by simp [Query.unplaced, same]) kinds

end Parser

namespace Part

instance (text : String) : Decidable (word text).Good := inferInstanceAs (Decidable (_ ∧ _))

instance (symbol : String) : Decidable (operator symbol).Good := inferInstanceAs (Decidable (_ ∈ _))

@[simp] theorem good_quoted (content : String) : (quoted content).Good := trivial

theorem good_signs : (sign '(').Good ∧ (sign ')').Good ∧ (sign ',').Good ∧ (sign '*').Good := ⟨rfl, rfl, rfl, rfl⟩

theorem good_keywords : ∀ entry ∈ keywords, (word entry.1).Good := by decide +kernel

theorem good_systemColumns : ∀ entry ∈ pseudoColumns, (word entry.1).Good := by decide +kernel

theorem good_commas {lists : List (List Part)} (good : ∀ parts ∈ lists, ∀ part ∈ parts, part.Good) :
    ∀ part ∈ commas lists, part.Good := by
  cases lists with
  | nil => simp [commas]
  | cons first rest =>
    obtain ⟨known, others⟩ := List.forall_mem_cons.mp good
    refine List.forall_mem_append.mpr ⟨known, fun part member => ?_⟩
    obtain ⟨parts, listed, member⟩ := List.mem_flatMap.mp member
    rcases List.mem_cons.mp member with rfl | member
    · exact good_signs.2.2.1
    · exact others parts listed part member

end Part

theorem ColumnRef.parts_good {ref : ColumnRef} (valid : ref.WellFormed) : ∀ part ∈ ref.parts, part.Good := by
  rw [parts]
  split
  next pseudo =>
    obtain ⟨entry, member, same⟩ := List.mem_map.mp (valid pseudo)
    exact List.forall_mem_singleton.mpr (same ▸ Part.good_systemColumns entry member)
  next => simp [Part.good_signs, Part.good_keywords ("FIELD", .fieldWord) (by decide)]

theorem Literal.part_good {constant : Literal} (valid : constant.WellFormed) :
    constant.part.Good ∧ constant.part.Shuts := by
  rcases valid with ⟨content, _, raw⟩ | ⟨raw, number, spelling, spelled, _⟩
  · rw [part, raw]
    exact ⟨trivial, trivial⟩
  · rw [part, spelling]
    exact ⟨spelled, spelled⟩

theorem SelectItem.parts_good {item : SelectItem} (valid : item.expr.WellFormed) : ∀ part ∈ item.parts, part.Good := by
  obtain ⟨expr, alias?⟩ := item
  have named : ∀ part ∈ aliasParts alias?, part.Good := by
    cases alias? <;> simp [aliasParts, Part.good_keywords ("AS", .asWord) (by decide)]
  refine List.forall_mem_append.mpr ⟨?_, named⟩
  cases expr with
  | column ref => exact ColumnRef.parts_good valid
  | aggregate call =>
    have each : ∀ function ∈ Aggregate.known, (Part.word function.name).Good := by decide +kernel
    have argument : ∀ part ∈ call.argumentParts, part.Good := by
      rw [AggregateCall.argumentParts]
      split
      next => simp [Part.good_signs]
      next ref found => exact ColumnRef.parts_good (valid.argument ref found)
    simpa [SelectExpr.parts, AggregateCall.parts, each _ valid.known, Part.good_signs, or_imp, forall_and]
      using argument

theorem Comparison.part_good {comparison : Comparison} (known : comparison ∈ Comparison.known) :
    comparison.part.Good := by
  have each : ∀ comparison ∈ Comparison.known,
      if comparison.isPattern then (Part.word comparison.symbol).Good else (Part.operator comparison.symbol).Good := by
    decide +kernel
  have good := each comparison known
  rw [part]
  cases pattern : comparison.isPattern <;> simpa [pattern] using good

theorem Condition.parts_good {condition : Condition} (valid : condition.WellFormed) :
    ∀ part ∈ condition.parts, part.Good := by
  refine List.forall_mem_append.mpr ⟨ColumnRef.parts_good valid.column, ?_⟩
  simp [Comparison.part_good valid.known, Literal.part_good valid.value]

theorem Filter.parts_good {filter : Filter} (valid : filter.WellFormed) : ∀ part ∈ filter.parts, part.Good := by
  cases filter with
  | all => simp [parts]
  | empty => cases valid
  | chain first links =>
    have whereWord := Part.good_keywords ("WHERE", .whereWord) (by decide)
    have andWord := Part.good_keywords ("AND", .andWord) (by decide)
    have orWord := Part.good_keywords ("OR", .orWord) (by decide)
    have linked : ∀ part ∈ links.flatMap linkParts, part.Good := by
      intro part member
      obtain ⟨link, listed, member⟩ := List.mem_flatMap.mp member
      obtain ⟨connector, wellFormed⟩ := valid.2 link listed
      rcases List.mem_cons.mp member with rfl | member
      · rcases connector with same | same <;> rw [same] <;> assumption
      · exact Condition.parts_good wellFormed part member
    exact List.forall_mem_append.mpr ⟨List.forall_mem_cons.mpr ⟨whereWord, Condition.parts_good valid.1⟩, linked⟩

mutual
theorem ValueExpr.parts_good {expr : ValueExpr} (valid : expr.WellFormed) : ∀ part ∈ expr.parts, part.Good := by
  cases expr with
  | literal constant =>
    rw [ValueExpr.WellFormed] at valid
    simp [ValueExpr.parts, Literal.part_good valid]
  | field ref =>
    rw [ValueExpr.WellFormed] at valid
    rw [ValueExpr.parts]
    exact ColumnRef.parts_good (by simp [ColumnRef.WellFormed, valid])
  | call name arguments position =>
    rw [ValueExpr.WellFormed] at valid
    obtain ⟨⟨function, known, _⟩, others⟩ := valid
    obtain rfl := StringFunction.eq_name_of_ofName? known
    have word : (Part.word function.name).Good := by cases function <;> decide +kernel
    have listed := Part.good_commas (ValueExpr.partsAll_good others)
    simpa [ValueExpr.parts, word, Part.good_signs, or_imp, forall_and] using listed
  | foreign kind => simp [ValueExpr.WellFormed] at valid

theorem ValueExpr.partsAll_good {arguments : List ValueExpr} (valid : ValueExpr.AllWellFormed arguments) :
    ∀ parts ∈ ValueExpr.partsAll arguments, ∀ part ∈ parts, part.Good := by
  cases arguments with
  | nil => simp [ValueExpr.partsAll]
  | cons argument rest =>
    rw [ValueExpr.AllWellFormed] at valid
    rw [ValueExpr.partsAll]
    exact List.forall_mem_cons.mpr ⟨ValueExpr.parts_good valid.1, ValueExpr.partsAll_good valid.2⟩
end

theorem Query.parts_good {query : Query} (valid : query.WellFormed) : ∀ part ∈ query.parts, part.Good := by
  have keyword {text : String} (kind : TokenKind) (member : (text, kind) ∈ keywords) : (Part.word text).Good :=
    Part.good_keywords (text, kind) member
  cases query with
  | select wanted =>
    have items : ∀ part ∈ (if wanted.star then [.sign '*'] else Part.commas (wanted.items.map SelectItem.parts)),
        part.Good := by
      split
      · simp [Part.good_signs]
      · refine Part.good_commas (List.forall_mem_map.mpr fun item member => ?_)
        exact SelectItem.parts_good (valid.items item member)
    have filter := Filter.parts_good valid.filter
    have table : wanted.table.part.Good := trivial
    simp only [Query.parts, Select.parts, List.forall_mem_append, List.forall_mem_cons]
    exact ⟨⟨⟨keyword .selectWord (by decide), items⟩, keyword .fromWord (by decide), table, by simp⟩, filter⟩
  | update change =>
    have target : ∀ part ∈ change.target.parts, part.Good :=
      ColumnRef.parts_good (by simp [ColumnRef.WellFormed, valid.target])
    have value := ValueExpr.parts_good valid.value
    have table : change.table.part.Good := trivial
    have column := Part.good_systemColumns ("submission_id", "id") (by decide)
    have equals : (Part.operator "=").Good := by decide
    have rowId := (Literal.part_good valid.rowId).1
    simp only [Query.parts, Update.parts, List.forall_mem_append, List.forall_mem_cons]
    refine ⟨⟨⟨⟨keyword .updateWord (by decide), keyword .formWord (by decide), table, keyword .setWord (by decide),
      by simp⟩, target⟩, equals, value⟩, keyword .whereWord (by decide), column, equals, rowId, by simp⟩

theorem Condition.parts_closed {condition : Condition} (valid : condition.WellFormed) : Part.Closed condition.parts :=
  Part.Closed.behind ⟨[condition.operator.part], _, rfl, (Literal.part_good valid.value).2⟩ _

theorem Filter.parts_closed {filter : Filter} (valid : filter.WellFormed) {first : List Part}
    (closed : Part.Closed first) : Part.Closed (first ++ filter.parts) := by
  cases filter with
  | all => simpa [parts] using closed
  | empty => cases valid
  | chain start links =>
    have conditions : Part.Closed (start.parts ++ links.flatMap linkParts) := by
      rcases List.eq_nil_or_concat links with rfl | ⟨front, last, rfl⟩
      · simpa using Condition.parts_closed valid.1
      · rw [List.concat_eq_append] at valid ⊢
        have wellFormed := (valid.2 last (by simp)).2
        rw [List.flatMap_append, ← List.append_assoc, List.flatMap_singleton, linkParts]
        exact ((Condition.parts_closed wellFormed).behind [.word last.1.word]).behind _
    exact (conditions.behind [.word "WHERE"]).behind first

/-- A query ends in a quote or in a digit. -/
theorem Query.parts_closed {query : Query} (valid : query.WellFormed) : Part.Closed query.parts := by
  cases query with
  | select wanted =>
    have table : Part.Closed [.word "FROM", wanted.table.part] := ⟨[.word "FROM"], wanted.table.part, rfl, trivial⟩
    rw [parts, Select.parts]
    exact Filter.parts_closed valid.filter (table.behind _)
  | update change =>
    rw [parts, Update.parts]
    exact Part.Closed.behind ⟨[.word "WHERE", .word "submission_id", .operator "="], _, rfl,
      (Literal.part_good valid.rowId).2⟩ _

/-- A written query is read as the query, up to positions. -/
theorem Query.read_written {query : Query} (valid : query.WellFormed) :
    ∃ found, Query.read query.written = .accepted found ∧ found.unplaced = query.unplaced := by
  obtain ⟨prepared, visible⟩ : prepareInput query.written = query.written ∧
      (Text.trim query.written.toList).isEmpty = false := (parts_closed valid).prepared
  have stands : Stands [] query.parts (tokenize query.written) := by
    rw [tokenize, written, String.toList_ofList]
    exact Part.stands_line (parts_good valid) [] 0
  cases tokens : tokenize query.written with
  | nil => exact absurd tokens (tokenize_ne_nil _)
  | cons token rest =>
    rw [tokens] at stands
    have enough : 2 * query.parts.length ≤ 2 * (token :: rest).length := by
      rw [stands.length]
      omega
    obtain ⟨found, after, kinds, ran, same, _⟩ := Parser.statement_takes valid enough ⟨token, rest⟩ stands
    refine ⟨found, ?_, same⟩
    have read : Query.ofTokens (token :: rest) = .ok found := by
      rw [Query.ofTokens, ran]
      rfl
    simp [Query.read, prepared, visible, tokens, read]

/-- Every well-formed query is read as itself from its text, up to positions. The queries that are read from any text
are of this kind, so to write and read them again changes nothing either. -/
theorem Query.written_read_back :
    (∀ query : Query, query.WellFormed →
      ∃ found, Query.read query.written = .accepted found ∧ found.unplaced = query.unplaced) ∧
    ∀ source query, Query.read source = .accepted query →
      query.WellFormed ∧ ∃ found, Query.read query.written = .accepted found ∧ found.unplaced = query.unplaced :=
  ⟨fun _ valid => read_written valid,
    fun _ _ read => ⟨wellFormed_of_read read, read_written (wellFormed_of_read read)⟩⟩

/-- A query that was never typed, with quotes and a semicolon in its texts, and one that was typed in another way. -/
theorem Query.written_read_back_quotes :
    (∃ query : Query, query.WellFormed ∧
      query.written = "UPDATE FORM 'f' SET FIELD('it''s') = UPPER('\"a'';') WHERE submission_id = ''" ∧
      ∃ found, Query.read query.written = .accepted found ∧ found.unplaced = query.unplaced) ∧
    ∃ query, Query.read "select max(\"00000000-0000-0000-0000-000000000000\") as top from 'f';" = .accepted query ∧
      query.WellFormed ∧ ∃ found, Query.read query.written = .accepted found ∧ found.unplaced = query.unplaced := by
  have built : Query.WellFormed (.update ⟨⟨"f", 0⟩, ⟨"it's", 0, false⟩,
      .call "UPPER" [.literal ⟨.text "\"a';", 0, none⟩] 0, ⟨.text "", 0, none⟩⟩) := by
    refine ⟨rfl, ?_, .inl ⟨"", rfl, rfl⟩⟩
    simp only [ValueExpr.WellFormed, ValueExpr.AllWellFormed]
    exact ⟨⟨.upper, by decide +kernel, by decide⟩, .inl ⟨_, rfl, rfl⟩, trivial⟩
  have accepted :
      (Query.read "select max(\"00000000-0000-0000-0000-000000000000\") as top from 'f';").query?.isSome = true := by
    decide +kernel
  refine ⟨⟨_, built, by decide +kernel, Query.written_read_back.1 _ built⟩, ?_⟩
  cases read : Query.read "select max(\"00000000-0000-0000-0000-000000000000\") as top from 'f';" with
  | accepted query => exact ⟨query, rfl, Query.written_read_back.2 _ query read⟩
  | refused | rejected =>
    rw [read] at accepted
    cases accepted

end FormQuery
