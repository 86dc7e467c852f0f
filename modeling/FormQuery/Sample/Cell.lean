import FormQuery.Fault
import FormQuery.Json.Printer

/-! Cells of a sample: which of them are missing, the text and the number of a document value, and the equality and
order of values. -/

namespace FormQuery.Value

def isBlankLeaf : Value → Bool
  | null => true
  | float value => value.isNaN
  | decimal (.missing ..) => true
  | _ => false

/-- A missing cell. Lists that hold nothing but one missing value, at any depth, count as missing. -/
def isMissing : Value → Bool
  | list [item] => item.isMissing
  | value => value.isBlankLeaf

def orNull (value : Value) : Value := if value.isMissing then null else value

def jsonText (style : Json.Style) (value : Value) : Except Fault String :=
  match Json.print style value with
  | .ok chars => .ok (String.ofList chars)
  | .error refused => .error (.notJson refused.kind)

def documentText : Value → Except Fault (Option String)
  | null => .ok none
  | text value => .ok (some value)
  | bool value => .ok (some (if value then "true" else "false"))
  | value => (value.jsonText .plain).map some

/-- The document of a stored value: JSON text or a record. Text of anything but a record is an empty document. -/
def decodeDocument (value : Value) : Except Fault Fields :=
  match value with
  | null => .ok []
  | record fields => .ok fields
  | text value => do return recordFields (← (Json.read value).mapError .json)
  | bytes value => do
    let chars ← (Text.decode value).mapError .octets
    return recordFields (← (Json.readDecoded chars).mapError .json)
  | value => .error (.notDocument value.kind)
where
  recordFields : Value → Fields
    | record fields => fields
    | _ => []

def isAsciiDigit (c : Char) : Bool := '0' ≤ c && c ≤ '9'

/-- Whether a text shows a number that a cast accepts: an optional minus sign, digits, and optionally a point and
digits. A line end may follow. -/
def showsNumber (text : List Char) : Bool :=
  let unsigned := match text with
    | '-' :: rest => rest
    | _ => text
  let rest := unsigned.dropWhile isAsciiDigit
  !(unsigned.takeWhile isAsciiDigit).isEmpty && match rest with
    | '.' :: fraction => !(fraction.takeWhile isAsciiDigit).isEmpty && atEnd (fraction.dropWhile isAsciiDigit)
    | rest => atEnd rest
where
  atEnd (rest : List Char) : Bool := rest = [] || rest = ['\n']

/-- The number of a cell. Truth values have none, and of other values the text has to show one. -/
def number? (value : Value) : Option Decimal :=
  if value.isMissing then none
  else
    match value with
    | bool _ => none
    | int value => some (.ofInt value)
    | float value => Decimal.ofText? (Binary.toText value)
    | decimal value => some value
    | value => if showsNumber value.display.toList then Decimal.ofText? value.display else none

def exactNumber? : Value → Option Decimal
  | bool value => some (.ofInt (if value then 1 else 0))
  | int value => some (.ofInt value)
  | float value => some (Binary.toDecimal value)
  | decimal value => some value
  | _ => none

mutual
/-- Equality of values. Numbers of all kinds are equal when they are the same number, and records when they agree on
every name. -/
def same : Value → Value → Bool
  | null, null => true
  | text left, text right => left = right
  | bytes left, bytes right => left = right
  | list left, list right => sameItems left right
  | record left, record right => left.length = right.length && sameFields left right
  | left, right =>
    match left.exactNumber?, right.exactNumber? with
    | some left, some right => left.compare? right = some .eq
    | _, _ => false

def sameItems : List Value → List Value → Bool
  | [], [] => true
  | left :: lefts, right :: rights => same left right && sameItems lefts rights
  | _, _ => false

def sameFields : List (String × Value) → List (String × Value) → Bool
  | [], _ => true
  | (name, left) :: rest, others =>
    (match Fields.get? others name with
      | some right => same left right
      | none => false) && sameFields rest others
end

def isDecimal : Value → Bool
  | decimal _ => true
  | _ => false

def comparedKind : Value → String
  | decimal _ => "decimal.Decimal"
  | value => value.kind

abbrev Order := Ordering → Bool

mutual
/-- Compares two values. Numbers of all kinds are ordered among each other, and so are texts, octets and lists; nothing
else is. A refusal names the order by its symbol. -/
def inOrder (symbol : String) (order : Order) : Value → Value → Except Fault Bool
  | text left, text right => .ok (order (compare left right))
  | bytes left, bytes right => .ok (order (compare (left.map UInt8.toNat) (right.map UInt8.toNat)))
  | list left, list right => itemsInOrder symbol order left right
  | left, right =>
    match left.exactNumber?, right.exactNumber? with
    | some leftNumber, some rightNumber =>
      match leftNumber.compare? rightNumber with
      | some found => .ok (order found)
      | none => if left.isDecimal || right.isDecimal then .error .unorderedNumber else .ok false
    | _, _ => .error (.notOrdered symbol left.comparedKind right.comparedKind)

def itemsInOrder (symbol : String) (order : Order) : List Value → List Value → Except Fault Bool
  | [], [] => .ok (order .eq)
  | [], _ :: _ => .ok (order .lt)
  | _ :: _, [] => .ok (order .gt)
  | left :: lefts, right :: rights =>
    if same left right then itemsInOrder symbol order lefts rights else inOrder symbol order left right
end

end FormQuery.Value
