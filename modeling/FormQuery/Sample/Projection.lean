import FormQuery.Sample.Aggregation

/-! Evaluating a SELECT over a sample of submissions: the wanted rows, and of these the wanted columns, or one row of
aggregates, or one row to each group. -/

namespace FormQuery

structure ResultTable where
  columns : List String
  rows : List (List Value)

namespace Group

/-- Two cells make the same group when both are missing or they are the same value. -/
def sameKey (left right : Value) : Bool :=
  if left.isMissing || right.isMissing then left.isMissing && right.isMissing else Value.same left right

def usable (cell : Value) : Except Fault Unit :=
  match cell with
  | .list _ | .record _ => .error (.notGroupable cell.kind)
  | _ => .ok ()

/-- The different keys of a column, each in its first spelling, in order of appearance. -/
def distinctKeys (cells : List Value) : List Value :=
  cells.foldl (fun keys cell => if keys.any (sameKey · cell) then keys else keys ++ [cell]) []

def keyIndex (keys : List Value) (cell : Value) : Nat := keys.findIdx (sameKey · cell)

def collect {α : Type} (rows : List (List Nat × α)) : List (List Nat × List α) :=
  rows.foldl (fun groups (key, row) =>
    if groups.any fun group => group.1 = key then
      groups.map fun group => if group.1 = key then (group.1, group.2 ++ [row]) else group
    else groups ++ [(key, [row])]) []

def transpose {α : Type} (count : Nat) (columns : List (List α)) : List (List α) :=
  (List.range count).map fun index => columns.filterMap fun column => column[index]?

/-- The groups of rows by columns of keys, each with its keys. The different keys of a column have one type, as the
cells of a column do. -/
def ofRows (rows : List Row) (columns : List (List Value)) : Except Fault (List (List Value × List Row)) := do
  columns.forM fun cells => cells.forM usable
  let keys := columns.map distinctKeys
  let indices := List.zipWith (fun keys cells => cells.map (keyIndex keys)) keys columns
  let typed := keys.map Value.unifyCells
  return (collect ((transpose rows.length indices).zip rows)).map fun (key, group) =>
    (List.zipWith (fun (keys : List Value) index => keys.getD index .null) typed key, group)

end Group

namespace Select

def starTable (rows : List Row) (layout : Layout) : Except Fault ResultTable := do
  let columns := layout.pseudoColumns.map Prod.fst ++ [layout.documentColumn]
  let cells ← rows.mapM fun row => do
    let shown := layout.pseudoColumns.map fun (_, physical) => ((Fields.get? row.cells physical).getD .null).orNull
    let document ← match row.document with
      | .record fields => do pure (Value.text (← (Value.record fields).jsonText .plain))
      | _ => pure .null
    return shown ++ [document]
  return ⟨columns, cells⟩

def plainRows (select : Select) (rows : List Row) (layout : Layout) : Except Fault (List (List Value)) := do
  let columns ← select.columns.mapM (Row.column rows · layout)
  if columns.isEmpty then return []
  else return Group.transpose rows.length (columns.map fun cells => cells.map Value.orNull)

def groupRow (layout : Layout) (group : List Row) : List SelectItem → List Value → Except Fault (List Value)
  | [], _ => .ok []
  | item :: items, keys =>
    match item.expr with
    | .column _ => do return (keys.head?.getD .null).orNull :: (← groupRow layout group items keys.tail)
    | .aggregate call => do return (← call.evaluate group layout) :: (← groupRow layout group items keys)

def groupedRows (select : Select) (rows : List Row) (layout : Layout) : Except Fault (List (List Value)) := do
  let columns ← select.columns.mapM (Row.column rows · layout)
  if rows.isEmpty then return []
  else
    let groups ← Group.ofRows rows columns
    groups.mapM fun (keys, group) => groupRow layout group select.items keys

def evaluate (select : Select) (submissions : List Submission) (layout : Layout) : Except Fault ResultTable := do
  let rows ← select.filter.rows (Row.ofSubmissions submissions layout) layout
  if select.star then starTable rows layout
  else
    let columns := select.items.map (·.outputName)
    if select.aggregates.isEmpty then return ⟨columns, ← select.plainRows rows layout⟩
    else if select.isGrouped then return ⟨columns, ← select.groupedRows rows layout⟩
    else return ⟨columns, [← select.aggregates.mapM (·.evaluate rows layout)]⟩

end Select

end FormQuery
