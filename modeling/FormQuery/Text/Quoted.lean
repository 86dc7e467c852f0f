import FormQuery.Text.Classes

/-! Quoted texts as messages and value dumps show them: between single quotes, or between double quotes when the text
holds single quotes only. What a reader could not see on a line is escaped by its code. -/

namespace FormQuery.Text

/-- Exactly `width` hexadecimal digits; higher digits of the value are dropped. -/
def hexDigits : Nat → Nat → List Char
  | 0, _ => []
  | width + 1, value => hexDigits width (value / 16) ++ [Nat.digitChar (value % 16)]

theorem length_hexDigits (width value : Nat) : (hexDigits width value).length = width := by
  induction width generalizing value with
  | zero => rfl
  | succ width known => simp [hexDigits, known]

def codeEscape (code : Nat) : List Char :=
  if code < 0x100 then '\\' :: 'x' :: hexDigits 2 code
  else if code < 0x10000 then '\\' :: 'u' :: hexDigits 4 code
  else '\\' :: 'U' :: hexDigits 8 code

/-- The quote that costs the fewest escapes: single unless the text holds a single quote and no double quote. -/
def quoteFor (text : List Char) : Char :=
  if text.contains '\'' && !text.contains '"' then '"' else '\''

def quotedChar (quote c : Char) : List Char :=
  if c = '\\' || c = quote then ['\\', c]
  else if c = '\n' then ['\\', 'n']
  else if c = '\r' then ['\\', 'r']
  else if c = '\t' then ['\\', 't']
  else if isPrintable c then [c]
  else codeEscape c.toNat

def quotedChars (text : List Char) : List Char :=
  let quote := quoteFor text
  quote :: text.flatMap (quotedChar quote) ++ [quote]

def quoted (text : String) : String := String.ofList (quotedChars text.toList)

/-- Octets between quotes, marked by a leading `b`. Octets outside printable ASCII are escaped by their code. -/
def quotedBytes (bytes : List UInt8) : String :=
  let shown := bytes.map fun byte => Char.ofNat byte.toNat
  let quote := quoteFor shown
  let escaped := shown.flatMap fun c => if c.toNat < 0x7f then quotedChar quote c else codeEscape c.toNat
  String.ofList ('b' :: quote :: escaped ++ [quote])

end FormQuery.Text
