import FormQuery.Query

/-! Queries without a part of what they say. Without the positions of their parts, two queries that are alike up to
positions are one query. Without the texts of its user, what is left of a query are system columns, numbers, operators,
the names that system columns are given, and the shape of everything. -/

namespace FormQuery

def ColumnRef.unplaced (ref : ColumnRef) : ColumnRef := { ref with position := 0 }

def TableRef.unplaced (table : TableRef) : TableRef := { table with position := 0 }

def Literal.unplaced (literal : Literal) : Literal := { literal with position := 0 }

def AggregateCall.unplaced (call : AggregateCall) : AggregateCall :=
  ⟨call.function, call.argument.map ColumnRef.unplaced, 0⟩

def SelectExpr.unplaced : SelectExpr → SelectExpr
  | column ref => column ref.unplaced
  | aggregate call => aggregate call.unplaced

def SelectItem.unplaced (item : SelectItem) : SelectItem := { item with expr := item.expr.unplaced }

def Condition.unplaced (condition : Condition) : Condition :=
  ⟨condition.column.unplaced, condition.operator, condition.value.unplaced⟩

def unplacedLink (link : Connector × Condition) : Connector × Condition := (link.1, link.2.unplaced)

def Filter.unplaced : Filter → Filter
  | all => all
  | empty => empty
  | chain first rest => chain first.unplaced (rest.map unplacedLink)

def Select.unplaced (select : Select) : Select :=
  ⟨select.star, select.items.map SelectItem.unplaced, select.table.unplaced, select.filter.unplaced⟩

mutual
def ValueExpr.unplaced : ValueExpr → ValueExpr
  | .literal constant => .literal constant.unplaced
  | .field column => .field column.unplaced
  | .call name arguments _ => .call name (ValueExpr.unplacedAll arguments) 0
  | .foreign kind => .foreign kind

def ValueExpr.unplacedAll : List ValueExpr → List ValueExpr
  | [] => []
  | argument :: rest => argument.unplaced :: ValueExpr.unplacedAll rest
end

def Update.unplaced (update : Update) : Update :=
  ⟨update.table.unplaced, update.target.unplaced, update.value.unplaced, update.rowId.unplaced⟩

def Query.unplaced : Query → Query
  | select wanted => select wanted.unplaced
  | update change => update change.unplaced

def ColumnRef.skeleton (ref : ColumnRef) : ColumnRef :=
  if ref.pseudo then ⟨ref.name, 0, true⟩ else ⟨"", 0, false⟩

def Literal.skeleton (literal : Literal) : Literal :=
  if literal.isNumber then { literal with position := 0 } else ⟨.text "", 0, none⟩

def AggregateCall.skeleton (call : AggregateCall) : AggregateCall :=
  ⟨call.function, call.argument.map ColumnRef.skeleton, 0⟩

/-- A system column keeps its alias, since it is written without one where the alias is the name it has anyway. -/
def SelectItem.skeleton (item : SelectItem) : SelectItem :=
  match item.expr with
  | .column ref => ⟨.column ref.skeleton, if ref.pseudo then item.alias? else none⟩
  | .aggregate call => ⟨.aggregate call.skeleton, none⟩

def TableRef.skeleton (_ : TableRef) : TableRef := ⟨"", 0⟩

def Condition.skeleton (condition : Condition) : Condition :=
  ⟨condition.column.skeleton, condition.operator, condition.value.skeleton⟩

def Filter.skeleton : Filter → Filter
  | .all => .all
  | .empty => .empty
  | .chain first rest => .chain first.skeleton (rest.map fun (connector, next) => (connector, next.skeleton))

def Select.skeleton (wanted : Select) : Select :=
  ⟨wanted.star, wanted.items.map SelectItem.skeleton, wanted.table.skeleton, wanted.filter.skeleton⟩

mutual
def ValueExpr.skeleton : ValueExpr → ValueExpr
  | .literal constant => .literal constant.skeleton
  | .field ref => .field ref.skeleton
  | .call name arguments _ => .call name (ValueExpr.skeletons arguments) 0
  | .foreign kind => .foreign kind

def ValueExpr.skeletons : List ValueExpr → List ValueExpr
  | [] => []
  | argument :: rest => argument.skeleton :: ValueExpr.skeletons rest
end

/-- The identifier of a row is a text, however it was typed. -/
def Update.skeleton (change : Update) : Update :=
  ⟨change.table.skeleton, change.target.skeleton, change.value.skeleton, ⟨.text "", 0, none⟩⟩

def Query.skeleton : Query → Query
  | .select wanted => .select wanted.skeleton
  | .update change => .update change.skeleton

end FormQuery
