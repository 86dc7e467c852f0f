import FormQuery.Number.Decimal

/-! Binary floating-point numbers as text and back. A number is written with the fewest digits that read back as the
same number, and of those the nearest to it. All steps are exact arithmetic on natural numbers. -/

namespace FormQuery.Binary

/-- A positive finite number as `mantissa * 2 ^ exponent`. -/
structure Parts where
  mantissa : Nat
  exponent : Int

def Parts.ofBits (bits : Nat) : Parts :=
  let field : Nat := bits / Nat.pow 2 52
  let fraction : Nat := bits % Nat.pow 2 52
  if field = 0 then ⟨fraction, -1074⟩ else ⟨Nat.pow 2 52 + fraction, (field : Int) - 1075⟩

/-- An interval of rationals with a common denominator that contains the value inside it. -/
structure Span where
  low : Nat
  value : Nat
  high : Nat
  denominator : Nat
  closed : Bool

/-- The rationals that read back as the number: half way to each neighbour, the ends included when the mantissa is
even. Below a power of two the neighbour is half as far. -/
def Parts.span (parts : Parts) : Span :=
  let below := if parts.mantissa = Nat.pow 2 52 && parts.exponent > -1074 then 1 else 2
  let quarter := parts.exponent - 2
  let scale := Nat.pow 2 quarter.toNat
  ⟨(4 * parts.mantissa - below) * scale, 4 * parts.mantissa * scale, (4 * parts.mantissa + 2) * scale,
    Nat.pow 2 (-quarter).toNat, parts.mantissa % 2 = 0⟩

def Span.holds (span : Span) (grid : Int) (point : Nat) : Bool :=
  let scaled := point * Nat.pow 10 grid.toNat * span.denominator
  let unit := Nat.pow 10 (-grid).toNat
  if span.closed then span.low * unit ≤ scaled && scaled ≤ span.high * unit
  else span.low * unit < scaled && scaled < span.high * unit

/-- The nearer of the value's two neighbours on the grid of multiples of `10 ^ grid` that lies in the span; a tie goes
to the even one. -/
def Span.pointOn? (span : Span) (grid : Int) : Option Nat :=
  let numerator := span.value * Nat.pow 10 (-grid).toNat
  let denominator := span.denominator * Nat.pow 10 grid.toNat
  let lower := numerator / denominator
  let twice := 2 * (numerator % denominator)
  let nearer := if twice < denominator || (twice = denominator && lower % 2 = 0) then lower else lower + 1
  let farther := if nearer = lower then lower + 1 else lower
  if span.holds grid nearer then some nearer else if span.holds grid farther then some farther else none

def Span.places (span : Span) : Int :=
  ((Decimal.digitsOf (span.value * Nat.pow 10 330 / span.denominator)).length : Int) - 330

def Span.search (span : Span) (top : Int) : Nat → Nat × Int
  | 0 => (0, top)
  | left + 1 =>
    let grid := top - 1
    match span.pointOn? grid with
    | some point => (point, grid)
    | none => span.search grid left

/-- The shortest decimal of a positive finite number: a coefficient and a power of ten. Seventeen digits always
suffice. -/
def shortest (parts : Parts) : Nat × Int :=
  let span := parts.span
  span.search span.places 17

def significant (coefficient : Nat) : List Char := ((Decimal.digitsOf coefficient).reverse.dropWhile (· = '0')).reverse

/-- Positional notation between `10 ^ -4` and `10 ^ 16`, always with a point; outside it a power of ten of at least two
digits. `place` is the number of digits before the point. -/
def digitsText (digits : List Char) (place : Int) : List Char :=
  if -4 < place && place ≤ 16 then
    let shown := Decimal.placePoint digits place
    if shown.contains '.' then shown else shown ++ ['.', '0']
  else
    let power := place - 1
    let powerDigits := Decimal.digitsOf power.natAbs
    let padded := if powerDigits.length < 2 then '0' :: powerDigits else powerDigits
    let head := match digits with
      | [] => []
      | [digit] => [digit]
      | first :: rest => first :: '.' :: rest
    head ++ 'e' :: (if power < 0 then '-' else '+') :: padded

def magnitudeText (bits : Nat) : List Char :=
  if bits = 0 then "0.0".toList
  else
    let (coefficient, grid) := shortest (Parts.ofBits bits)
    digitsText (significant coefficient) (grid + (Decimal.digitsOf coefficient).length)

def toText (x : Float) : String :=
  let bits := x.toBits.toNat
  let magnitude := bits % Nat.pow 2 63
  let sign := if bits < Nat.pow 2 63 then "" else "-"
  if magnitude / Nat.pow 2 52 = 2047 then if magnitude % Nat.pow 2 52 = 0 then sign ++ "inf" else "nan"
  else sign ++ String.ofList (magnitudeText magnitude)

def infinity : Float := 1.0 / 0.0

def missing : Float := 0.0 / 0.0

/-- The number nearest to `coefficient * 10 ^ exponent`. Powers beyond all finite numbers are settled first. -/
def nearest (coefficient : Nat) (exponent : Int) : Float :=
  if coefficient = 0 then 0.0
  else
    let highest := exponent + (Decimal.digitsOf coefficient).length
    if highest > 310 then infinity
    else if highest < -330 then 0.0
    else if exponent < 0 then Float.ofScientific coefficient true exponent.natAbs
    else Float.ofScientific coefficient false exponent.natAbs

def withSign (negative : Bool) (x : Float) : Float := if negative then -x else x

def ofDecimal : Decimal → Float
  | .finite negative coefficient exponent => withSign negative (nearest coefficient exponent)
  | .infinite negative => withSign negative infinity
  | .missing .. => missing

def ofInt? (value : Int) : Option Float :=
  let x := withSign (value < 0) (nearest value.natAbs 0)
  if x.isInf then none else some x

def dropSeparators? : Bool → List Char → Option (List Char)
  | _, [] => some []
  | afterDigit, '_' :: rest =>
    match rest with
    | next :: _ => if afterDigit && Text.isDigit next then dropSeparators? false rest else none
    | [] => none
  | _, c :: rest => (dropSeparators? (Text.isDigit c) rest).map (c :: ·)

/-- Reads a number. Blanks around it are ignored, underscores may separate digits, and digits of every script count. -/
def ofText? (text : String) : Option Float := do
  let plain ← dropSeparators? false (Text.trimSpace text.toList)
  let (negative, unsigned) := Decimal.leadingSign plain
  let word := unsigned.map Char.toLower
  if word = "inf".toList || word = "infinity".toList then some (withSign negative infinity)
  else if word = "nan".toList then some missing
  else
    match unsigned with
    | first :: _ => if Text.isDigit first || first = '.' then some () else none
    | [] => none
    let (whole, rest) := Decimal.leadingDigits unsigned
    let (fraction, rest) := match rest with
      | '.' :: rest => Decimal.leadingDigits rest
      | rest => ([], rest)
    if whole.isEmpty && fraction.isEmpty then none
    let exponent ← Decimal.exponent? rest
    some (withSign negative (nearest (Decimal.digitsValue (whole ++ fraction)) (exponent - fraction.length)))

def toDecimal (x : Float) : Decimal :=
  let bits := x.toBits.toNat
  let negative := decide (Nat.pow 2 63 ≤ bits)
  let magnitude := bits % Nat.pow 2 63
  if magnitude / Nat.pow 2 52 = 2047 then
    if magnitude % Nat.pow 2 52 = 0 then .infinite negative else .missing negative false 0
  else
    let parts := Parts.ofBits magnitude
    if 0 ≤ parts.exponent then .finite negative (parts.mantissa * Nat.pow 2 parts.exponent.toNat) 0
    else .finite negative (parts.mantissa * Nat.pow 5 parts.exponent.natAbs) parts.exponent

def truncate (x : Float) : Int :=
  let bits := x.toBits.toNat
  let parts := Parts.ofBits (bits % Nat.pow 2 63)
  let magnitude := parts.mantissa * Nat.pow 2 parts.exponent.toNat / Nat.pow 2 (-parts.exponent).toNat
  if bits < Nat.pow 2 63 then magnitude else -magnitude

def isWhole (x : Float) : Bool := x.isFinite && x.floor == x

end FormQuery.Binary
