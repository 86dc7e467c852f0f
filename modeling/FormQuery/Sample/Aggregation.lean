import FormQuery.Sample.Condition

/-! Aggregates over rows. Numbers of a field are those texts that show one; counts count cells that are not missing. -/

namespace FormQuery

namespace Summation

def leftToRight (start : Float) (numbers : List Float) : Float := numbers.foldl (· + ·) start

/-- Adds eight columns of numbers at once, and gives the columns and the numbers left over. -/
def columns (sums : List Float) (numbers : List Float) : List Float × List Float :=
  if _few : numbers.length < 8 then (sums, numbers)
  else columns (List.zipWith (· + ·) sums (numbers.take 8)) (numbers.drop 8)
termination_by numbers.length
decreasing_by simp only [List.length_drop]; omega

def block (numbers : List Float) : Float :=
  match columns (numbers.take 8) (numbers.drop 8) with
  | ([a, b, c, d, e, f, g, h], rest) => leftToRight (((a + b) + (c + d)) + ((e + f) + (g + h))) rest
  | (_, rest) => leftToRight (-0.0) rest

/-- The sum of a list of numbers. Long lists are halved, so that rounding errors do not pile up. -/
def sum (numbers : List Float) : Float :=
  if numbers.length < 8 then leftToRight (-0.0) numbers
  else if _short : numbers.length ≤ 128 then block numbers
  else
    let half := numbers.length / 2 / 8 * 8
    sum (numbers.take half) + sum (numbers.drop half)
termination_by numbers.length
decreasing_by
  · simp only [List.length_take]; omega
  · simp only [List.length_drop]; omega

end Summation

def medianOf (numbers : List Float) : Float :=
  let sorted := numbers.mergeSort (fun left right => decide (left ≤ right))
  let middle := sorted.length / 2
  if sorted.length % 2 = 1 then sorted.getD middle 0.0
  else (sorted.getD (middle - 1) 0.0 + sorted.getD middle 0.0) / 2.0

/-- The least of numbers, the first one among equals. -/
def leastOf : List Float → Float
  | [] => Binary.missing
  | first :: rest => rest.foldl (fun least number => if least ≤ number then least else number) first

def greatestOf : List Float → Float
  | [] => Binary.missing
  | first :: rest => rest.foldl (fun greatest number => if number ≤ greatest then greatest else number) first

namespace AggregateCall

def numberCell (number : Float) : Value := (Value.float number).orNull

def ofNumbers (function : Aggregate) (numbers : List Float) : Except Fault Value :=
  if numbers.isEmpty then .ok .null
  else
    match function with
    | .sum => .ok (numberCell (Summation.sum numbers))
    | .avg => .ok (numberCell (Summation.sum numbers / Float.ofNat numbers.length))
    | .min => .ok (numberCell (leastOf numbers))
    | .max => .ok (numberCell (greatestOf numbers))
    | .median => .ok (numberCell (medianOf numbers))
    | function => .error (.unknownAggregate function.name)

/-- The extreme of cells that can be ordered: the least for MIN, the greatest for any other aggregate. -/
def extreme (function : Aggregate) : List Value → Except Fault Value
  | [] => .ok .null
  | first :: rest =>
    let (symbol, order) : String × Value.Order :=
      if function = .min then ("<=", (· != .gt)) else (">=", (· != .lt))
    (rest.foldlM (fun best cell => do return if ← Value.inOrder symbol order best cell then best else cell) first).map
      Value.orNull

def evaluate (call : AggregateCall) (rows : List Row) (layout : Layout) : Except Fault Value := do
  match call.argument with
  | none => return .int rows.length
  | some ref =>
    let present := (← Row.column rows ref layout).filter fun cell => !cell.isMissing
    if call.function = .count then return .int present.length
    else if ref.pseudo then extreme call.function present
    else ofNumbers call.function ((present.filterMap Value.number?).map Binary.ofDecimal)

end AggregateCall

end FormQuery
