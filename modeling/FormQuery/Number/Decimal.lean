import FormQuery.Text.Classes

/-! Decimal numbers of any size, with the trailing zeros they were written with. They are read from text, compared
exactly, and written back as they were written. -/

namespace FormQuery

/-- A decimal number: a coefficient with a power of ten, an infinity, or no number at all. A missing number may carry
a payload of digits, and it may be signaling, that is refused by every operation. -/
inductive Decimal where
  | finite (negative : Bool) (coefficient : Nat) (exponent : Int)
  | infinite (negative : Bool)
  | missing (negative signaling : Bool) (payload : Nat)
  deriving DecidableEq, Inhabited

namespace Decimal

def digitsValue (digits : List Nat) : Nat := digits.foldl (fun value digit => 10 * value + digit) 0

def digitsOf (value : Nat) : List Char := Nat.toDigits 10 value

def ofInt (value : Int) : Decimal := .finite (value < 0) value.natAbs 0

def isFinite : Decimal → Bool
  | .finite .. => true
  | _ => false

def leadingDigits : List Char → List Nat × List Char
  | [] => ([], [])
  | c :: rest =>
    match Text.digitValue? c with
    | some digit => let (digits, after) := leadingDigits rest; (digit :: digits, after)
    | none => ([], c :: rest)

def leadingSign : List Char → Bool × List Char
  | '-' :: rest => (true, rest)
  | '+' :: rest => (false, rest)
  | rest => (false, rest)

def exponent? : List Char → Option Int
  | [] => some 0
  | mark :: rest =>
    if mark = 'e' || mark = 'E' then
      let (negative, unsigned) := leadingSign rest
      match leadingDigits unsigned with
      | ([], _) => none
      | (digits, []) => some (if negative then -(digitsValue digits : Int) else digitsValue digits)
      | _ => none
    else none

def largestExponent : Int := 999999999999999999

def smallestExponent : Int := -1999999999999999997

def finite? (negative : Bool) (whole fraction : List Nat) (tail : List Char) : Option Decimal := do
  if whole.isEmpty && fraction.isEmpty then none
  let written ← exponent? tail
  let coefficient := digitsValue (whole ++ fraction)
  let exponent := written - fraction.length
  let highest := exponent + ((digitsOf coefficient).length - 1 : Nat)
  if coefficient ≠ 0 && (highest > largestExponent || exponent < smallestExponent) then none
  some (.finite negative coefficient exponent)

def unsigned? (negative : Bool) (text : List Char) : Option Decimal :=
  let word := text.map Char.toLower
  if word = "inf".toList || word = "infinity".toList then some (.infinite negative)
  else if "nan".toList.isPrefixOf word then payload? false (text.drop 3)
  else if "snan".toList.isPrefixOf word then payload? true (text.drop 4)
  else
    let (whole, rest) := leadingDigits text
    match rest with
    | '.' :: rest => let (fraction, rest) := leadingDigits rest; finite? negative whole fraction rest
    | rest => finite? negative whole [] rest
where
  payload? (signaling : Bool) (tail : List Char) : Option Decimal :=
    match leadingDigits tail with
    | (digits, []) => some (.missing negative signaling (digitsValue digits))
    | _ => none

/-- Reads a decimal. Blanks around it and underscores anywhere are ignored, and digits of every script count. -/
def ofText? (text : String) : Option Decimal :=
  let (negative, unsigned) := leadingSign ((Text.trim text.toList).filter (· ≠ '_'))
  unsigned? negative unsigned

def signText (negative : Bool) : String := if negative then "-" else ""

def placePoint (digits : List Char) (place : Int) : List Char :=
  if place ≤ 0 then '0' :: '.' :: List.replicate (-place).toNat '0' ++ digits
  else if digits.length ≤ place then digits ++ List.replicate (place - digits.length).toNat '0'
  else digits.take place.toNat ++ '.' :: digits.drop place.toNat

/-- Writes a coefficient and a power of ten. The notation is positional while the power is not positive and at most
five zeros follow the point before the first digit; otherwise the point follows the first digit and a signed power of
ten is added. -/
def finiteText (coefficient : Nat) (exponent : Int) : List Char :=
  let digits := digitsOf coefficient
  let place := exponent + digits.length
  if exponent ≤ 0 && place > -6 then placePoint digits place
  else
    let power := place - 1
    let shown := (if power < 0 then '-' else '+') :: digitsOf power.natAbs
    placePoint digits 1 ++ (if power = 0 then [] else 'E' :: shown)

def toText : Decimal → String
  | .finite negative coefficient exponent => signText negative ++ String.ofList (finiteText coefficient exponent)
  | .infinite negative => signText negative ++ "Infinity"
  | .missing negative signaling payload =>
    signText negative ++ (if signaling then "sNaN" else "NaN") ++
      (if payload = 0 then "" else String.ofList (digitsOf payload))

def signed (negative : Bool) (coefficient : Nat) : Int := if negative then -coefficient else coefficient

/-- Compares signed coefficients with powers of ten, exactly: signs first, then the powers of the first digits, then
the coefficients over the smaller power. The powers may be far apart, so they are aligned last. -/
def compareFinite (left : Int) (leftExponent : Int) (right : Int) (rightExponent : Int) : Ordering :=
  if left.sign ≠ right.sign then compare left.sign right.sign
  else if left = 0 then .eq
  else
    let leftHighest := leftExponent + (digitsOf left.natAbs).length
    let rightHighest := rightExponent + (digitsOf right.natAbs).length
    if leftHighest ≠ rightHighest then
      if left > 0 then compare leftHighest rightHighest else compare rightHighest leftHighest
    else
      let low := min leftExponent rightExponent
      compare (left * Nat.pow 10 (leftExponent - low).toNat) (right * Nat.pow 10 (rightExponent - low).toNat)

def compare? : Decimal → Decimal → Option Ordering
  | .missing .., _ => none
  | _, .missing .. => none
  | .infinite true, .infinite true => some .eq
  | .infinite false, .infinite false => some .eq
  | .infinite true, _ => some .lt
  | .infinite false, _ => some .gt
  | _, .infinite true => some .gt
  | _, .infinite false => some .lt
  | .finite leftNegative left leftExponent, .finite rightNegative right rightExponent =>
    some (compareFinite (signed leftNegative left) leftExponent (signed rightNegative right) rightExponent)

end Decimal

end FormQuery
