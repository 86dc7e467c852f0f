import FormQuery.Fault
import FormQuery.Problem
import FormQuery.Text.Bytes
import FormQuery.Text.Case

/-! Conversions of values into the typed parts of records. They are lenient where a value can mean only one thing: a
text may spell a number or a truth value, and a number without fraction is an integer. All problems of a record are
reported together, in the order of its fields. The integer that a value counts as is found without such problems: of a
number it is the part before its fraction, of a text the integer that it shows. -/

namespace FormQuery

inductive Checked (α : Type) where
  | good (value : α)
  | bad (problems : List Problem)

namespace Checked

def problems {α : Type} : Checked α → List Problem
  | good _ => []
  | bad problems => problems

def map {α β : Type} (change : α → β) : Checked α → Checked β
  | good value => good (change value)
  | bad problems => bad problems

/-- Combines two conversions; the problems of both are kept, those of the first one first. -/
def pair {α β : Type} (first : Checked α) (second : Checked β) : Checked (α × β) :=
  match first, second with
  | good a, good b => good (a, b)
  | first, second => bad (first.problems ++ second.problems)

instance : Functor Checked := ⟨fun change checked => checked.map change, fun value checked => checked.map fun _ => value⟩

instance : Applicative Checked where
  pure := good
  seq change value := (pair change (value ())).map fun (change, value) => change value

def fail {α : Type} (cause : ProblemCause) : Checked α := bad [⟨[], cause⟩]

def under {α : Type} (step : PathStep) : Checked α → Checked α
  | good value => good value
  | bad problems => bad (problems.map (Problem.under step))

def andThen {α β : Type} (checked : Checked α) (next : α → Checked β) : Checked β :=
  match checked with
  | good value => next value
  | bad problems => bad problems

/-- A field of a record, or its default when it is missing; without a default it is required. -/
def field {α : Type} (fields : Fields) (name : String) (convert : Value → Checked α) (default? : Option α) :
    Checked α :=
  match Fields.get? fields name, default? with
  | some value, _ => (convert value).under (.field name)
  | none, some value => good value
  | none, none => (fail .missing : Checked α).under (.field name)

def items {α : Type} (convert : Value → Checked α) (index : Nat) : List Value → Checked (List α)
  | [] => good []
  | value :: rest =>
    (pair ((convert value).under (.item index)) (items convert (index + 1) rest)).map fun (first, rest) => first :: rest

def entries {α : Type} (convert : Value → Checked α) : Fields → Checked (List (String × α))
  | [] => good []
  | (name, value) :: rest =>
    (pair ((convert value).under (.field name)) (entries convert rest)).map fun (first, rest) => (name, first) :: rest

def toExcept {α : Type} (shape : String) : Checked α → Except ProblemReport α
  | good value => .ok value
  | bad problems => .error ⟨shape, problems⟩

end Checked

namespace Conversion

open Checked

def text : Value → Checked String
  | .text value => good value
  | .bytes value => match Text.ofOctets? value with
    | some value => good value
    | none => fail .notUnicode
  | _ => fail .notText

def list {α : Type} (convert : Value → Checked α) : Value → Checked (List α)
  | .list values => items convert 0 values
  | _ => fail .notList

def mapping {α : Type} (convert : Value → Checked α) : Value → Checked (List (String × α))
  | .record fields => entries convert fields
  | _ => fail .notRecord

def record {α : Type} (shape : String) (convert : Fields → Checked α) : Value → Checked α
  | .record fields => convert fields
  | _ => fail (.notRecordOf shape)

def optional {α : Type} (convert : Value → Checked α) : Value → Checked (Option α)
  | .null => good none
  | value => (convert value).map some

def oneOf (choices : List String) : Value → Checked String
  | .text value => if value ∈ choices then good value else fail (.notOneOf choices)
  | _ => fail (.notOneOf choices)

def falseWords : List String := ["0", "off", "f", "false", "n", "no"]

def trueWords : List String := ["1", "on", "t", "true", "y", "yes"]

def truthOfText (text : String) : Checked Bool :=
  let word := String.ofList (text.toList.map Char.toLower)
  if word ∈ trueWords then good true else if word ∈ falseWords then good false else fail .unreadableTruth

def truthOfInt (value : Int) : Checked Bool :=
  if value = 1 then good true else if value = 0 then good false else fail .unreadableTruth

def wholeDecimal? : Decimal → Option Int
  | .finite negative coefficient exponent =>
    let scale := Nat.pow 10 (-exponent).toNat
    if coefficient % scale = 0 then
      some (Decimal.signed negative (coefficient / scale * Nat.pow 10 exponent.toNat))
    else none
  | _ => none

def truth : Value → Checked Bool
  | .bool value => good value
  | .int value => truthOfInt value
  | .float value => if Binary.isWhole value then truthOfInt (Binary.truncate value) else fail .notTruth
  | .decimal value => match wholeDecimal? value with
    | some value => truthOfInt value
    | none => fail .notTruth
  | .text value => truthOfText value
  | .bytes value => match Text.ofOctets? value with
    | some value => truthOfText value
    | none => fail .unreadableTruth
  | _ => fail .notTruth

/-- Takes underscores out of a number that has them between digits only, one at a time. -/
def withoutUnderscores? (digits : List Char) : Option (List Char) :=
  let rec go : Bool → List Char → Option (List Char)
    | separated, [] => if separated then none else some []
    | separated, c :: rest =>
      if c = '_' then if separated then none else go true rest else (go false rest).map (c :: ·)
  go true digits

def withoutZeroFraction (text : List Char) : List Char :=
  let whole := text.takeWhile (· ≠ '.')
  if (text.drop (whole.length + 1)).all (· = '0') then whole else text

def asciiDigits? (text : List Char) : Option Nat :=
  if text.isEmpty || !text.all Char.isDigit then none
  else some (text.foldl (fun value c => 10 * value + (c.toNat - '0'.toNat)) 0)

def hasLeadingZero (digits : List Char) : Bool := digits.head? = some '0' && 1 < digits.length

/-- Reads an integer. Leading zeros are dropped, but not after a minus sign, where they are refused. -/
def integerOfText (text : String) : Checked Int :=
  let (negative, unsigned) := Decimal.leadingSign (Text.trimSpace text.toList)
  match withoutUnderscores? (withoutZeroFraction unsigned) with
  | none => fail .unreadableInteger
  | some digits =>
    match asciiDigits? digits with
    | some magnitude =>
      if negative && hasLeadingZero digits then fail .unreadableInteger else good (Decimal.signed negative magnitude)
    | none => fail .unreadableInteger

def integer : Value → Checked Int
  | .int value => good value
  | .bool value => good (if value then 1 else 0)
  | .text value => integerOfText value
  | .bytes value => match Text.ofOctets? value with
    | some value => integerOfText value
    | none => fail .unreadableInteger
  | .float value =>
    if !value.isFinite then fail .notFinite
    else if Binary.isWhole value then good (Binary.truncate value)
    else fail .fractional
  | .decimal value =>
    if !value.isFinite then fail .notFinite
    else match wholeDecimal? value with
      | some value => good value
      | none => fail .fractional
  | _ => fail .notInteger

def plainNumber? (text : List Char) : Option Float :=
  let (negative, unsigned) := Decimal.leadingSign text
  let word := unsigned.map Char.toLower
  if word = "inf".toList || word = "infinity".toList then some (Binary.withSign negative Binary.infinity)
  else if word = "nan".toList then some Binary.missing
  else if unsigned.all fun c => c.toNat < 128 && !Text.isBlank c && c ≠ '_' && !(c = '+' && unsigned.head? = some c) then
    match unsigned with
    | '-' :: _ => none
    | _ => (Binary.ofText? (String.ofList unsigned)).bind fun value =>
      if value.isNaN then none else some (Binary.withSign negative value)
  else none

def numberOfText (text : String) : Checked Float :=
  let trimmed := Text.trimSpace text.toList
  let found := match plainNumber? trimmed with
    | some value => some value
    | none => (withoutUnderscores? trimmed).bind plainNumber?
  match found with
  | some value => good value
  | none => fail .unreadableNumber

def number : Value → Checked Float
  | .float value => good value
  | .int value => match Binary.ofInt? value with
    | some value => good value
    | none => fail .notNumber
  | .bool value => good (if value then 1.0 else 0.0)
  | .decimal value => good (Binary.ofDecimal value)
  | .text value => numberOfText value
  | .bytes value => match Text.ofOctets? value with
    | some value => numberOfText value
    | none => fail .unreadableNumber
  | _ => fail .notNumber

def pathParts (text : List Char) : List (List Char) :=
  (go text []).filter fun part => !part.isEmpty && part ≠ ['.']
where
  go : List Char → List Char → List (List Char)
    | [], part => [part.reverse]
    | c :: rest, part => if c = '/' then part.reverse :: go rest [] else go rest (c :: part)

/-- A path in its simplest spelling. Two slashes at the start differ from one, three do not. -/
def normalPath (text : String) : String :=
  let chars := text.toList
  let slashes := (chars.takeWhile (· = '/')).length
  let root := if slashes = 0 then "" else if slashes = 2 then "//" else "/"
  let whole := root ++ "/".intercalate ((pathParts chars).map String.ofList)
  if whole.isEmpty then "." else whole

def path : Value → Checked String
  | .text value => good (normalPath value)
  | .bytes value => match Text.ofOctets? value with
    | some value => good (normalPath value)
    | none => fail .notUnicode
  | _ => fail .notPath

end Conversion

namespace Decimal

def truncate (negative : Bool) (coefficient : Nat) (exponent : Int) : Int :=
  signed negative (if 0 ≤ exponent then coefficient * Nat.pow 10 exponent.toNat
    else coefficient / Nat.pow 10 exponent.natAbs)

end Decimal

namespace Value

def shownInteger? (text : List Char) : Option Int := do
  let (negative, unsigned) := Decimal.leadingSign text
  let digits ← (← Conversion.withoutUnderscores? unsigned).mapM Text.digitValue?
  if digits.isEmpty then none else return Decimal.signed negative (Decimal.digitsValue digits)

def asciiText? (octets : List UInt8) : Option (List Char) :=
  if octets.all (· < 128) then some (octets.map fun octet => Char.ofNat octet.toNat) else none

def toInteger : Value → Except Fault Int
  | bool value => .ok (if value then 1 else 0)
  | int value => .ok value
  | float value =>
    if value.isNaN then .error .countMissing
    else if value.isInf then .error .countInfinite
    else .ok (Binary.truncate value)
  | decimal (.finite negative coefficient exponent) => .ok (Decimal.truncate negative coefficient exponent)
  | decimal (.missing ..) => .error .limitMissing
  | decimal _ => .error .limitInfinite
  | text value => match shownInteger? (Text.trimSpace value.toList) with
    | some value => .ok value
    | none => .error (.limitText (Text.quoted value))
  | bytes value => match (asciiText? value).bind fun text => shownInteger? (Text.trimSpace text) with
    | some value => .ok value
    | none => .error (.limitText (Text.quotedBytes value))
  | value => .error (.limitKind value.kind)

end Value

end FormQuery
