import FormQuery.Sample.Column
import FormQuery.Sample.Pattern

/-! Conditions over a sample. A condition with a number compares numbers, exactly; any other compares text. A missing
cell meets no comparison. -/

namespace FormQuery

namespace Comparison

def accepts? : Comparison → Option (Ordering → Bool)
  | equal => some (· == .eq)
  | notEqual | lessGreater => some (· != .eq)
  | less => some (· == .lt)
  | greater => some (· == .gt)
  | atMost => some (· != .gt)
  | atLeast => some (· != .lt)
  | like | ilike | other _ => none

def isEquality : Comparison → Bool
  | equal | notEqual | lessGreater => true
  | _ => false

/-- Compares numbers. What is no number differs from every number, and has no place in their order. -/
def numbers (comparison : Comparison) (accepts : Ordering → Bool) (left right : Decimal) : Except Fault Bool :=
  match left.compare? right with
  | some found => .ok (accepts found)
  | none => if comparison.isEquality then .ok (comparison != .equal) else .error .unorderedNumber

end Comparison

namespace Condition

/-- Whether a cell matches a pattern. A missing number shows as text, a null does not. -/
def likeCell (pattern : String) (anyCase : Bool) (cell : Value) : Bool :=
  !cell.isNull && (if anyCase then Pattern.ilike pattern cell.display else Pattern.like pattern cell.display)

def textCell (accepts : Ordering → Bool) (right : String) (cell : Value) : Bool :=
  !cell.isMissing && accepts (compare cell.display right)

def numberCell (comparison : Comparison) (accepts : Ordering → Bool) (right : Decimal) (cell : Value) :
    Except Fault Bool :=
  match cell.number? with
  | none => .ok false
  | some left => if (Value.decimal left).isMissing then .ok false else comparison.numbers accepts left right

def mask (condition : Condition) (cells : List Value) : Except Fault (List Bool) :=
  let shown := condition.value.value.display
  match condition.operator with
  | .like => .ok (cells.map (likeCell shown false))
  | .ilike => .ok (cells.map (likeCell shown true))
  | comparison =>
    match comparison.accepts? with
    | none => .error (.unknownComparison comparison.symbol)
    | some accepts =>
      if condition.value.isNumber then
        match Decimal.ofText? condition.value.text with
        | none => .error .malformedNumber
        | some right => cells.mapM (numberCell comparison accepts right)
      else .ok (cells.map (textCell accepts shown))

def rowMask (condition : Condition) (rows : List Row) (layout : Layout) : Except Fault (List Bool) := do
  condition.mask (← Row.column rows condition.column layout)

end Condition

namespace Connector

/-- Connectors other than AND join like OR. -/
def join (connector : Connector) (left right : Bool) : Bool :=
  match connector with
  | and => left && right
  | _ => left || right

end Connector

namespace Filter

def chainMask (rows : List Row) (layout : Layout) (mask : List Bool) :
    List (Connector × Condition) → Except Fault (List Bool)
  | [] => .ok mask
  | (connector, condition) :: rest => do
    let next ← condition.rowMask rows layout
    chainMask rows layout (List.zipWith connector.join mask next) rest

def mask (filter : Filter) (rows : List Row) (layout : Layout) : Except Fault (List Bool) :=
  match filter with
  | all => .ok (rows.map fun _ => true)
  | empty => .error .nothingThere
  | chain first rest => do chainMask rows layout (← first.rowMask rows layout) rest

/-- The rows that a filter wants. A filter has nothing to say of no rows. -/
def rows (filter : Filter) (rows : List Row) (layout : Layout) : Except Fault (List Row) := do
  if rows.isEmpty then return []
  else return ((rows.zip (← filter.mask rows layout)).filter Prod.snd).map Prod.fst

end Filter

end FormQuery
