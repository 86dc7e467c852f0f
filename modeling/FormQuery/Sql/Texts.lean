import FormQuery.Sql

/-! What a database makes of a text: matching it with a pattern of LIKE, where a backslash makes the character behind it
stand for itself, trimming characters off its two ends, and replacing every occurrence of another text. -/

namespace FormQuery

namespace Sql

inductive PatternPart where
  | any
  | one
  | letter (c : Char)
  deriving DecidableEq

def PatternPart.ofChar (c : Char) : PatternPart := if c = '%' then any else if c = '_' then one else letter c

/-- The parts of a pattern; nothing when a backslash has no character behind it. -/
def patternParts? : List Char → Option (List PatternPart)
  | [] => some []
  | '\\' :: rest =>
    match rest with
    | [] => none
    | c :: rest => (patternParts? rest).map (.letter c :: ·)
  | c :: rest => (patternParts? rest).map (.ofChar c :: ·)

inductive Take : List PatternPart → List Char → Prop
  | nil : Take [] []
  | any {parts : List PatternPart} {rest : List Char} (piece : List Char) (others : Take parts rest) :
      Take (.any :: parts) (piece ++ rest)
  | one {parts : List PatternPart} {rest : List Char} (c : Char) (others : Take parts rest) :
      Take (.one :: parts) (c :: rest)
  | letter {parts : List PatternPart} {rest : List Char} (c : Char) (others : Take parts rest) :
      Take (.letter c :: parts) (c :: rest)

/-- A database matches a text with a pattern. -/
def Likes (pattern text : String) : Prop :=
  ∃ parts, patternParts? pattern.toList = some parts ∧ Take parts text.toList

structure BareEnds (kind : Char → Bool) (text : List Char) : Prop where
  first : ∀ c ∈ text.head?, kind c = false
  last : ∀ c ∈ text.getLast?, kind c = false

/-- What is left of a text without the characters of some kind at its two ends. -/
structure Trimmed (kind : Char → Bool) (text rest : List Char) : Prop where
  parts : ∃ front back, text = front ++ rest ++ back ∧ (∀ c ∈ front, kind c = true) ∧ ∀ c ∈ back, kind c = true
  bare : BareEnds kind rest

def isSpace (c : Char) : Bool := c = ' '

/-- Replaces every occurrence of a text, from left to right and without overlap: nothing begins in `before`. -/
inductive Replaced (old new : List Char) : List Char → List Char → Prop
  | absent {text : List Char} (none : ¬old <:+: text) : Replaced old new text text
  | found {before rest result : List Char}
      (first : ∀ skipped < before.length, ¬old <+: (before ++ old ++ rest).drop skipped)
      (others : Replaced old new rest result) : Replaced old new (before ++ old ++ rest) (before ++ new ++ result)

/-- REPLACE leaves a text as it is when it is to replace the empty text. -/
def Replaces (old new text result : List Char) : Prop :=
  if old = [] then result = text else Replaced old new text result

end Sql

namespace Pattern

def isSpecial (c : Char) : Bool := c = '%' || c = '_' || c = '\\'

def protect (c : Char) : List Char := if isSpecial c then ['\\', c] else [c]

def exactly (text : String) : String := String.ofList (text.toList.flatMap protect)

end Pattern

end FormQuery
