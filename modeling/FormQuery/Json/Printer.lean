import FormQuery.Value

/-! JSON text of values. Items are separated by `, ` and names from values by `: `, fields keep their order, and the
three numbers that JSON lacks have words. -/

namespace FormQuery.Json

/-- What is escaped besides quotes, backslashes and control characters, and whether values that JSON lacks are shown as
text instead of refused. -/
structure Style where
  asciiOnly : Bool
  showOthers : Bool

def Style.plain : Style := ⟨false, false⟩

def Style.ascii : Style := ⟨true, false⟩

def Style.lenient : Style := ⟨false, true⟩

def unitEscape (unit : Nat) : List Char := '\\' :: 'u' :: Text.hexDigits 4 unit

/-- The escape of a character by its code, by the two halves of a pair when the code needs more than four digits. -/
def escapeCode (code : Nat) : List Char :=
  if code < 0x10000 then unitEscape code
  else unitEscape (0xd800 + (code - 0x10000) / 0x400) ++ unitEscape (0xdc00 + (code - 0x10000) % 0x400)

def charText (asciiOnly : Bool) (c : Char) : List Char :=
  if c = '"' then ['\\', '"']
  else if c = '\\' then ['\\', '\\']
  else if c = '\n' then ['\\', 'n']
  else if c = '\r' then ['\\', 'r']
  else if c = '\t' then ['\\', 't']
  else if c.toNat = 12 then ['\\', 'f']
  else if c.toNat = 8 then ['\\', 'b']
  else if c.toNat < 32 || (asciiOnly && c.toNat > 126) then escapeCode c.toNat
  else [c]

def stringText (asciiOnly : Bool) (text : String) : List Char :=
  '"' :: text.toList.flatMap (charText asciiOnly) ++ ['"']

def integerText (value : Int) : List Char :=
  if value < 0 then '-' :: Decimal.digitsOf value.natAbs else Decimal.digitsOf value.natAbs

def floatText (value : Float) : List Char :=
  if value.isNaN then "NaN".toList
  else if value.isInf then if value < 0.0 then "-Infinity".toList else "Infinity".toList
  else (Binary.toText value).toList

def separated (separator : List Char) : List (List Char) → List Char
  | [] => []
  | [part] => part
  | part :: rest => part ++ separator ++ separated separator rest

mutual
/-- The JSON text of a value, or the first value inside it that JSON lacks. -/
def print (style : Style) : Value → Except Value (List Char)
  | .null => .ok "null".toList
  | .bool true => .ok "true".toList
  | .bool false => .ok "false".toList
  | .int value => .ok (integerText value)
  | .float value => .ok (floatText value)
  | .text value => .ok (stringText style.asciiOnly value)
  | .list items => do
    let parts ← printItems style items
    return '[' :: separated [',', ' '] parts ++ [']']
  | .record fields => do
    let parts ← printFields style fields
    return '\x7b' :: separated [',', ' '] parts ++ ['\x7d']
  | .decimal value =>
    if style.showOthers then .ok (stringText style.asciiOnly (Value.decimal value).display)
    else .error (.decimal value)
  | .bytes value =>
    if style.showOthers then .ok (stringText style.asciiOnly (Value.bytes value).display)
    else .error (.bytes value)

def printItems (style : Style) : List Value → Except Value (List (List Char))
  | [] => .ok []
  | item :: rest => do return (← print style item) :: (← printItems style rest)

def printFields (style : Style) : List (String × Value) → Except Value (List (List Char))
  | [] => .ok []
  | (name, value) :: rest => do
    let shown ← print style value
    return (stringText style.asciiOnly name ++ ':' :: ' ' :: shown) :: (← printFields style rest)
end

end FormQuery.Json
