import FormQuery.Fault
import FormQuery.Text.Case

/-! The string functions of value expressions: how many arguments each takes, and what it gives for values. -/

namespace FormQuery

inductive StringFunction where
  | left
  | right
  | upper
  | lower
  | trim
  | length
  | concat
  | substring
  | replace
  deriving DecidableEq

namespace StringFunction

def all : List StringFunction := [left, right, upper, lower, trim, length, concat, substring, replace]

def name : StringFunction → String
  | left => "LEFT"
  | right => "RIGHT"
  | upper => "UPPER"
  | lower => "LOWER"
  | trim => "TRIM"
  | length => "LENGTH"
  | concat => "CONCAT"
  | substring => "SUBSTRING"
  | replace => "REPLACE"

def ofName? (name : String) : Option StringFunction := all.find? (·.name = name)

def find? (name : String) : Option StringFunction := ofName? (String.ofList (Text.upper name.toList))

def leastArguments : StringFunction → Nat
  | left | right | substring => 2
  | replace => 3
  | _ => 1

def mostArguments? : StringFunction → Option Nat
  | concat => none
  | substring => some 3
  | function => some function.leastArguments

def accepts (function : StringFunction) (count : Nat) : Bool :=
  function.leastArguments ≤ count && function.mostArguments?.all (count ≤ ·)

def arity (function : StringFunction) : String :=
  match function.mostArguments? with
  | none => s!"at least {function.leastArguments}"
  | some most =>
    if most = function.leastArguments then toString most else s!"{function.leastArguments} to {most}"

/-- The text of an argument. A missing value counts as the empty text. -/
def argumentText : Value → List Char
  | .null => []
  | value => value.display.toList

def countNumber : Value → Except Fault Float
  | .bool value => .ok (if value then 1.0 else 0.0)
  | .int value => match Binary.ofInt? value with
    | some number => .ok number
    | none => .error .integerTooLarge
  | .float value => .ok value
  | .decimal (.missing _ true _) => .error .countSignaling
  | .decimal value => .ok (Binary.ofDecimal value)
  | .text value => match Binary.ofText? value with
    | some number => .ok number
    | none => .error (.countText (Text.quoted value))
  | .bytes value =>
    let text := String.ofList (value.map fun octet => Char.ofNat octet.toNat)
    match if value.all (· < 128) then Binary.ofText? text else none with
    | some number => .ok number
    | none => .error (.countText (Text.quotedBytes value))
  | value => .error (.countKind value.kind)

def count (value : Value) : Except Fault Int := do
  let number ← countNumber value
  if number.isNaN then throw .countMissing
  if number.isInf then throw .countInfinite
  return Binary.truncate number

/-- The characters before position `stop`, which counts from the end when negative. -/
def takeLeft (text : List Char) (stop : Int) : List Char :=
  if 0 ≤ stop then text.take stop.toNat else text.take (text.length - stop.natAbs)

/-- The last `size` characters, or all but the first ones when negative. -/
def takeRight (text : List Char) (size : Int) : List Char :=
  if 0 ≤ size then text.drop (text.length - size.toNat) else text.drop size.natAbs

/-- The characters at positions from `start` on, counted from one, as many as `size` tells. Positions before the first
character count as well. -/
def window (text : List Char) (start : Int) (size : Option Int) : List Char :=
  let first := start - 1
  match size with
  | none => text.drop first.toNat
  | some size => (text.take (first + size).toNat).drop first.toNat

def dropStart? : List Char → List Char → Option (List Char)
  | [], text => some text
  | c :: old, d :: text => if c = d then dropStart? old text else none
  | _ :: _, [] => none

theorem length_of_dropStart? {old text rest : List Char} (found : dropStart? old text = some rest) :
    text.length = old.length + rest.length := by
  induction old generalizing text with
  | nil => simp only [dropStart?, Option.some.injEq] at found; subst found; simp
  | cons c old known =>
    cases text with
    | nil => simp [dropStart?] at found
    | cons d text =>
      simp only [dropStart?] at found
      split at found
      · simp [known found]; omega
      · simp at found

/-- Replaces a text that is not empty wherever it occurs, from left to right and without overlap. -/
def replaceEach (old new : List Char) : List Char → List Char
  | [] => []
  | c :: text =>
    match _found : dropStart? old (c :: text) with
    | none => c :: replaceEach old new text
    | some rest => if old.isEmpty then c :: replaceEach old new text else new ++ replaceEach old new rest
termination_by text => text.length
decreasing_by
  · simp
  · simp
  · have shorter := length_of_dropStart? _found
    have some_old : old ≠ [] := by simp_all
    have := List.length_pos_iff.2 some_old
    simp only [List.length_cons] at shorter ⊢
    omega

/-- Replaces a text everywhere. The empty text occurs before every character and at the end. -/
def replaceAll (old new text : List Char) : List Char :=
  if old.isEmpty then new ++ text.flatMap (· :: new) else replaceEach old new text

def textValue (text : List Char) : Value := .text (String.ofList text)

def apply (function : StringFunction) (arguments : List Value) : Except Fault Value :=
  match function, arguments with
  | left, [text, stop] => do return textValue (takeLeft (argumentText text) (← count stop))
  | right, [text, size] => do return textValue (takeRight (argumentText text) (← count size))
  | upper, [text] => .ok (textValue (Text.upper (argumentText text)))
  | lower, [text] => .ok (textValue (Text.lower (argumentText text)))
  | trim, [text] => .ok (textValue (Text.trim (argumentText text)))
  | length, [text] => .ok (.int (argumentText text).length)
  | concat, arguments => .ok (textValue (arguments.flatMap argumentText))
  | substring, [text, start] => do return textValue (window (argumentText text) (← count start) none)
  | substring, [text, start, .null] => do return textValue (window (argumentText text) (← count start) none)
  | substring, [text, start, size] => do
    let start ← count start
    let size ← count size
    if size < 0 then throw .negativeLength
    return textValue (window (argumentText text) start (some size))
  | replace, [text, old, new] =>
    .ok (textValue (replaceAll (argumentText old) (argumentText new) (argumentText text)))
  | function, arguments => .error (.argumentCount function.name function.arity arguments.length)

end StringFunction

end FormQuery
