import FormQuery.Text.Bytes
import FormQuery.Value

/-! Reading JSON text. A text that is no JSON is refused at the first place where no JSON text could continue so, with
the place and what was expected there. The words of the printer for the numbers that JSON lacks are accepted. -/

namespace FormQuery.Json

inductive ReadCause where
  | byteOrderMark
  | value
  | name
  | colon
  | comma
  | extraData
  | unterminatedString
  | controlCharacter
  | escape
  | unicodeEscape
  deriving DecidableEq

def ReadCause.text : ReadCause → String
  | byteOrderMark => "Unexpected UTF-8 BOM (decode using utf-8-sig)"
  | value => "Expecting value"
  | name => "Expecting property name enclosed in double quotes"
  | colon => "Expecting ':' delimiter"
  | comma => "Expecting ',' delimiter"
  | extraData => "Extra data"
  | unterminatedString => "Unterminated string starting at"
  | controlCharacter => "Invalid control character at"
  | escape => "Invalid \\escape"
  | unicodeEscape => "Invalid \\uXXXX escape"

structure Stop where
  cause : ReadCause
  rest : List Char

def isSpace (c : Char) : Bool := c = ' ' || c = '\t' || c = '\n' || c = '\r'

def skipSpace (text : List Char) : List Char := text.dropWhile isSpace

def hexValue? (c : Char) : Option Nat :=
  if '0' ≤ c && c ≤ '9' then some (c.toNat - '0'.toNat)
  else if 'a' ≤ c && c ≤ 'f' then some (c.toNat - 'a'.toNat + 10)
  else if 'A' ≤ c && c ≤ 'F' then some (c.toNat - 'A'.toNat + 10)
  else none

def hexUnit? (digits : List Char) : Option Nat :=
  digits.foldl (fun value? c => do return 16 * (← value?) + (← hexValue? c)) (some 0)

def escapedUnit? (text : List Char) : Option (Nat × List Char) :=
  match text with
  | first :: second :: third :: fourth :: next :: rest =>
    (hexUnit? [first, second, third, fourth]).map (·, next :: rest)
  | _ => none

def simpleEscape? (c : Char) : Option Char :=
  if c = '"' || c = '\\' || c = '/' then some c
  else if c = 'b' then some (Char.ofNat 8)
  else if c = 'f' then some (Char.ofNat 12)
  else if c = 'n' then some '\n'
  else if c = 'r' then some '\r'
  else if c = 't' then some '\t'
  else none

/-- The second half of a pair after an escaped first half, and the rest. Another escape is left to be read on its own,
but it has to be a unit. -/
def lowHalf? (text : List Char) : Except Stop (Option (Nat × List Char)) :=
  match text with
  | '\\' :: 'u' :: rest =>
    if rest.length < 5 then .ok none
    else
      match escapedUnit? rest with
      | none => .error ⟨.unicodeEscape, 'u' :: rest⟩
      | some (low, rest) => .ok (if Text.isLowHalf low then some (low, rest) else none)
  | _ => .ok none

/-- The characters of a string after its opening quote. `opening` is the text from that quote on, for the report of a
string that does not end. -/
def readString (opening : List Char) : Nat → List Char → Except Stop (List Char × List Char)
  | 0, _ => .error ⟨.unterminatedString, opening⟩
  | left + 1, text =>
    match text with
    | [] => .error ⟨.unterminatedString, opening⟩
    | c :: rest =>
      if c = '"' then .ok ([], rest)
      else if c = '\\' then
        match rest with
        | [] => .error ⟨.unterminatedString, opening⟩
        | letter :: after =>
          if letter = 'u' then
            match escapedUnit? after with
            | none => .error ⟨.unicodeEscape, rest⟩
            | some (unit, after) => do
              let low ← if Text.isHighHalf unit then lowHalf? after else .ok none
              match low with
              | some (low, after) => extend (Text.joinHalves unit low) (readString opening left after)
              | none => extend (Text.scalar unit) (readString opening left after)
          else
            match simpleEscape? letter with
            | some c => extend c (readString opening left after)
            | none => .error ⟨.escape, text⟩
      else if c.toNat < 32 then .error ⟨.controlCharacter, text⟩
      else extend c (readString opening left rest)
where
  extend (c : Char) (read : Except Stop (List Char × List Char)) : Except Stop (List Char × List Char) :=
    read.map fun (chars, rest) => (c :: chars, rest)

def readQuoted (text : List Char) : Except Stop (String × List Char) :=
  (readString text (text.length + 1) (text.drop 1)).map fun (chars, rest) => (String.ofList chars, rest)

def isDigit (c : Char) : Bool := '0' ≤ c && c ≤ '9'

def digitsNat (digits : List Char) : Nat := digits.foldl (fun value c => 10 * value + (c.toNat - '0'.toNat)) 0

/-- A point and digits; a point without a digit after it is not part of the number. -/
def fraction (text : List Char) : List Char × List Char :=
  match text with
  | '.' :: rest =>
    let digits := rest.takeWhile isDigit
    if digits.isEmpty then ([], text) else (digits, rest.dropWhile isDigit)
  | _ => ([], text)

def power? (text : List Char) : Option (Int × List Char) :=
  match text with
  | [] => none
  | mark :: rest =>
    if mark = 'e' || mark = 'E' then
      let (negative, unsigned) := Decimal.leadingSign rest
      let digits := unsigned.takeWhile isDigit
      if digits.isEmpty then none
      else
        let magnitude : Int := digitsNat digits
        some (if negative then -magnitude else magnitude, unsigned.dropWhile isDigit)
    else none

def readNumber (negative : Bool) (whole text : List Char) : Value × List Char :=
  let (parts, rest) := fraction text
  match power? rest, parts with
  | none, [] => (.int (Decimal.signed negative (digitsNat whole)), rest)
  | none, digits => (.float (real negative (whole ++ digits) (-(digits.length : Int))), rest)
  | some (power, rest), digits => (.float (real negative (whole ++ digits) (power - digits.length)), rest)
where
  real (negative : Bool) (digits : List Char) (exponent : Int) : Float :=
    Binary.withSign negative (Binary.nearest (digitsNat digits) exponent)

/-- The digits before the point: a zero alone, or digits that start with another one. -/
def wholeDigits (text : List Char) : List Char × List Char :=
  match text with
  | '0' :: rest => (['0'], rest)
  | _ => (text.takeWhile isDigit, text.dropWhile isDigit)

def word? (word : String) (text : List Char) : Option (List Char) :=
  if word.toList.isPrefixOf text then some (text.drop word.length) else none

def readAtom (text : List Char) : Except Stop (Value × List Char) :=
  let words : List (String × Value) :=
    [("null", .null), ("true", .bool true), ("false", .bool false), ("NaN", .float Binary.missing),
     ("Infinity", .float Binary.infinity), ("-Infinity", .float (-Binary.infinity))]
  match words.findSome? fun (word, value) => (word? word text).map (value, ·) with
  | some found => .ok found
  | none =>
    let (negative, unsigned) := match text with
      | '-' :: rest => (true, rest)
      | _ => (false, text)
    let (whole, rest) := wholeDigits unsigned
    if whole.isEmpty then .error ⟨.value, text⟩ else .ok (readNumber negative whole rest)

mutual
/-- Reads a value. The fuel bounds the steps. An opening bracket takes two of them, to its items and to the first of
these, so one more than twice the length of the text is always enough. -/
def readValue : Nat → List Char → Except Stop (Value × List Char)
  | 0, text => .error ⟨.value, text⟩
  | left + 1, text =>
    match text with
    | [] => .error ⟨.value, []⟩
    | '"' :: _ => (readQuoted text).map fun (value, rest) => (.text value, rest)
    | '\x7b' :: rest =>
      let inner := skipSpace rest
      match inner with
      | '\x7d' :: rest => .ok (.record [], rest)
      | _ => (readFields left inner).map fun (fields, rest) => (.record (Fields.ofPairs fields), rest)
    | '[' :: rest =>
      let inner := skipSpace rest
      match inner with
      | ']' :: rest => .ok (.list [], rest)
      | _ => (readItems left inner).map fun (items, rest) => (.list items, rest)
    | _ => readAtom text

def readItems : Nat → List Char → Except Stop (List Value × List Char)
  | 0, text => .error ⟨.value, text⟩
  | left + 1, text => do
    let (item, rest) ← readValue left text
    let rest := skipSpace rest
    match rest with
    | ']' :: rest => return ([item], rest)
    | ',' :: rest =>
      let (items, rest) ← readItems left (skipSpace rest)
      return (item :: items, rest)
    | _ => throw ⟨.comma, rest⟩

def readFields : Nat → List Char → Except Stop (List (String × Value) × List Char)
  | 0, text => .error ⟨.name, text⟩
  | left + 1, text =>
    match text with
    | '"' :: _ => do
      let (name, rest) ← readQuoted text
      let rest := skipSpace rest
      match rest with
      | ':' :: rest => do
        let (value, rest) ← readValue left (skipSpace rest)
        let rest := skipSpace rest
        match rest with
        | '\x7d' :: rest => return ([(name, value)], rest)
        | ',' :: rest =>
          let (fields, rest) ← readFields left (skipSpace rest)
          return ((name, value) :: fields, rest)
        | _ => throw ⟨.comma, rest⟩
      | _ => throw ⟨.colon, rest⟩
    | _ => .error ⟨.name, text⟩
end

structure ReadFault where
  cause : ReadCause
  position : Nat
  line : Nat
  column : Nat
  deriving DecidableEq

def ReadFault.message (fault : ReadFault) : String :=
  s!"{fault.cause.text}: line {fault.line} column {fault.column} (char {fault.position})"

def Stop.locate (text : List Char) (stop : Stop) : ReadFault :=
  let before := text.take (text.length - stop.rest.length)
  ⟨stop.cause, before.length, before.count '\n' + 1, (before.reverse.takeWhile (· ≠ '\n')).length + 1⟩

def readWhole (text : List Char) : Except Stop Value := do
  let (value, rest) ← readValue (2 * text.length + 1) (skipSpace text)
  let rest := skipSpace rest
  if rest.isEmpty then return value else throw ⟨.extraData, rest⟩

def readDecoded (text : List Char) : Except ReadFault Value := (readWhole text).mapError (Stop.locate text)

/-- Reads a text. A byte order mark says how octets are decoded, so a text that starts with one is refused. -/
def read (text : String) : Except ReadFault Value :=
  let chars := text.toList
  if chars.head?.any (·.toNat = 0xfeff) then .error (Stop.locate chars ⟨.byteOrderMark, chars⟩) else readDecoded chars

end FormQuery.Json
