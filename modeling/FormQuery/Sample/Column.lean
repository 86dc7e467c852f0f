import FormQuery.Layout
import FormQuery.Sample.Cell

/-! Submissions as rows. The cells of a system column have one type over the whole sample: a column of numbers that
lacks some, or that has a fraction somewhere, holds floating-point numbers throughout, and a column of anything else
keeps its values as they are. A cell that its record lacks is a missing number. -/

namespace FormQuery

structure CellKinds where
  null : Bool := false
  missing : Bool := false
  truth : Bool := false
  fraction : Bool := false
  whole : Bool := false
  negative : Bool := false
  large : Bool := false
  /-- A cell that is no number, no truth value and not missing, or an integer that no machine word holds. -/
  other : Bool := false

namespace CellKinds

/-- Integers count by the words that hold them only until a null is met, since the column holds floating-point numbers
after that. -/
def addInteger (kinds : CellKinds) (value : Int) : CellKinds :=
  let kinds := { kinds with whole := true }
  if kinds.null then kinds
  else
    let kinds := { kinds with
      negative := kinds.negative || value < 0
      large := kinds.large || Nat.pow 2 63 ≤ value }
    { kinds with other := (kinds.negative && kinds.large) || value < -Nat.pow 2 63 || Nat.pow 2 64 ≤ value }

/-- Takes a cell into account; the first cell of another kind settles the type of the column. -/
def add (kinds : CellKinds) (cell : Value) : CellKinds :=
  if kinds.other then kinds
  else
    match cell with
    | .null => { kinds with null := true }
    | .bool _ => { kinds with truth := true }
    | .int value => kinds.addInteger value
    | .float value => if value.isNaN then { kinds with missing := true } else { kinds with fraction := true }
    | _ => { kinds with other := true }

def ofCells (cells : List Value) : CellKinds := cells.foldl add {}

def isFloating (kinds : CellKinds) : Bool :=
  !kinds.other && !kinds.truth && (kinds.fraction || kinds.missing || (kinds.null && kinds.whole))

end CellKinds

namespace Value

def toFloating : Value → Value
  | int value => float (Binary.withSign (value < 0) (Binary.nearest value.natAbs 0))
  | null => float Binary.missing
  | value => value

def unifyCells (cells : List Value) : List Value :=
  if (CellKinds.ofCells cells).isFloating then cells.map toFloating else cells

end Value

/-- A submission: its system cells by column, and its document as it is. -/
structure Row where
  cells : List (String × Value)
  document : Value

abbrev Submission := Fields

namespace Row

/-- The cell of a column, or a missing number when the record lacks it. -/
def fetched (submission : Submission) (column : String) : Value :=
  (Fields.get? submission column).getD (.float Binary.missing)

def zipCells : List (String × List Value) → List Value → List Row
  | _, [] => []
  | columns, document :: documents =>
    ⟨columns.map fun (name, cells) => (name, cells.head?.getD .null), document⟩ ::
      zipCells (columns.map fun (name, cells) => (name, cells.tail)) documents

/-- The rows of a sample, for layouts whose columns are apart: of two columns of one name it has one. -/
def ofSubmissions (submissions : List Submission) (layout : Layout) : List Row :=
  let names := Layout.distinct (layout.partitionColumn :: layout.pseudoColumns.map Prod.snd)
  let columns := names.map fun name => (name, Value.unifyCells (submissions.map (fetched · name)))
  zipCells columns (submissions.map (fetched · layout.documentColumn))

def answer (row : Row) (field : String) : Except Fault Value := do
  match row.document with
  | .record document =>
    match ← ((Fields.get? document field).getD .null).documentText with
    | some text => return .text text
    | none => return .null
  | _ => return .null

def column (rows : List Row) (ref : ColumnRef) (layout : Layout) : Except Fault (List Value) := do
  if ref.pseudo then
    let physical ← layout.physical ref.name
    return rows.map fun row => (Fields.get? row.cells physical).getD .null
  else rows.mapM (·.answer ref.name)

end Row

end FormQuery
