import FormQuery.Conversion

/-! Messages with places for values. A place is a percent sign, optionally flags, a width and a precision, and a letter
that tells how the value is shown. -/

namespace FormQuery.Message

structure Place where
  left : Bool := false
  zero : Bool := false
  signed : Bool := false
  blank : Bool := false
  width : Nat := 0
  precision : Option Nat := none

def readFlags (place : Place) : List Char → Place × List Char
  | '-' :: rest => readFlags { place with left := true } rest
  | '0' :: rest => readFlags { place with zero := true } rest
  | '+' :: rest => readFlags { place with signed := true } rest
  | ' ' :: rest => readFlags { place with blank := true } rest
  | '#' :: rest => readFlags place rest
  | rest => (place, rest)

def readCount (text : List Char) : Nat × List Char :=
  ((text.takeWhile Char.isDigit).foldl (fun count c => 10 * count + (c.toNat - '0'.toNat)) 0, text.dropWhile Char.isDigit)

def readPlace (text : List Char) : Place × List Char :=
  let (place, rest) := readFlags {} text
  let (width, rest) := readCount rest
  match rest with
  | '.' :: rest =>
    let (precision, rest) := readCount rest
    ({ place with width := width, precision := some precision }, rest)
  | rest => ({ place with width := width }, rest)

def fill (place : Place) (text : List Char) : List Char :=
  let padding := List.replicate (place.width - text.length) ' '
  if place.left then text ++ padding else padding ++ text

def textAt (place : Place) (text : String) : List Char :=
  fill place (match place.precision with
    | some precision => text.toList.take precision
    | none => text.toList)

def signAt (place : Place) (value : Int) : List Char :=
  if value < 0 then ['-'] else if place.signed then ['+'] else if place.blank then [' '] else []

def integerAt (place : Place) (value : Int) : List Char :=
  let digits := Decimal.digitsOf value.natAbs
  let digits := List.replicate (place.precision.getD 0 - digits.length) '0' ++ digits
  let sign := signAt place value
  if place.zero && !place.left then
    sign ++ List.replicate (place.width - sign.length - digits.length) '0' ++ digits
  else fill place (sign ++ digits)

/-- Numbers alone can stand where an integer is wanted. -/
def integer? : Value → Option Int
  | .bool value => some (if value then 1 else 0)
  | .int value => some value
  | .float value => (Value.float value).toInteger.toOption
  | .decimal value => (Value.decimal value).toInteger.toOption
  | _ => none

def shown? (place : Place) (letter : Char) (value : Value) : Option (List Char) :=
  if letter = 's' then some (textAt place value.display)
  else if letter = 'r' || letter = 'a' then some (textAt place value.dump)
  else if letter = 'd' || letter = 'i' || letter = 'u' then (integer? value).map (integerAt place)
  else none

/-- Puts values into the places of a text, or nothing when they do not fit. Each step takes a character. -/
def format? : Nat → List Char → List Value → Option (List Char)
  | 0, _, _ => none
  | _, [], [] => some []
  | _, [], _ :: _ => none
  | fuel + 1, '%' :: rest, values =>
    match readPlace rest with
    | (_, '%' :: rest) => (format? fuel rest values).map ('%' :: ·)
    | (place, letter :: rest) =>
      match values with
      | value :: values => do return (← shown? place letter value) ++ (← format? fuel rest values)
      | [] => none
    | (_, []) => none
  | fuel + 1, c :: rest, values => (format? fuel rest values).map (c :: ·)

/-- A message with its values. A message without values is taken as it is, and so is one whose values do not fit. -/
def ofValues (text : String) (values : List Value) : String :=
  if values.isEmpty then text
  else match format? (text.length + 1) text.toList values with
    | some chars => String.ofList chars
    | none => text

end FormQuery.Message
