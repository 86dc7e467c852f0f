import FormQuery.Text.Case

/-! Patterns: `%` stands for any text, `_` for any one character, and every other character for itself. A pattern is
also spelled as a regular expression: any text as `.*`, any one character as `.`, and every other character as itself,
behind a backslash where it could mean something else. The text of an expression is read here by its own rules, as far as
the spelling of patterns needs them. -/

namespace FormQuery.Pattern

def afterSome (accept : List Char → Bool) : List Char → Bool
  | [] => accept []
  | c :: rest => accept (c :: rest) || afterSome accept rest

/-- Whether a text matches a pattern whose plain characters match as told. -/
def matchesBy (agree : Char → Char → Bool) : List Char → List Char → Bool
  | [], text => text.isEmpty
  | p :: pattern, text =>
    if p = '%' then afterSome (matchesBy agree pattern) text
    else
      match text with
      | [] => false
      | c :: rest => (p = '_' || agree p c) && matchesBy agree pattern rest

def like (pattern text : String) : Bool := matchesBy (· == ·) pattern.toList text.toList

def ilike (pattern text : String) : Bool := matchesBy Text.sameLetter pattern.toList text.toList

end FormQuery.Pattern

namespace FormQuery

inductive Expression where
  | nothing
  | any
  | letter (c : Char)
  | repeated (body : Expression)
  | sequence (first second : Expression)
  deriving DecidableEq

namespace Expression

/-- The texts that an expression takes as a whole, when its letters agree with characters as told. A line end is a
character like any other. -/
inductive Takes (agree : Char → Char → Bool) : Expression → List Char → Prop
  | nothing : Takes agree .nothing []
  | any (c : Char) : Takes agree .any [c]
  | letter {expected c : Char} (same : agree expected c = true) : Takes agree (.letter expected) [c]
  | done {body : Expression} : Takes agree (.repeated body) []
  | again {body : Expression} {piece rest : List Char} (first : Takes agree body piece)
      (others : Takes agree (.repeated body) rest) : Takes agree (.repeated body) (piece ++ rest)
  | sequence {first second : Expression} {piece rest : List Char} (left : Takes agree first piece)
      (right : Takes agree second rest) : Takes agree (.sequence first second) (piece ++ rest)

def operators : List Char := "\\.^$*+?\x7b\x7d[]|()".toList

/-- Reads the text of an expression. A backslash makes a character stand for itself, unless it is a letter or a digit;
only the sign for any character may be repeated. -/
def ofText? : List Char → Option Expression
  | [] => some .nothing
  | '.' :: '*' :: rest => (ofText? rest).map (.sequence (.repeated .any))
  | '.' :: rest => (ofText? rest).map (.sequence .any)
  | '\\' :: c :: rest => if c.isAlphanum then none else (ofText? rest).map (.sequence (.letter c))
  | c :: rest => if c ∈ operators then none else (ofText? rest).map (.sequence (.letter c))

end Expression

namespace Pattern

/-- Characters that are written behind a backslash: the operators, and what would count only in an expression with
comments or in a set of characters. -/
def escaped : List Char := "()[]\x7b\x7d?*+-|^$\\.&~# \t\n\r\x0b\x0c".toList

def escape (c : Char) : List Char := if c ∈ escaped then ['\\', c] else [c]

def spelled (pattern : List Char) : List Char :=
  pattern.flatMap fun p => if p = '%' then ['.', '*'] else if p = '_' then ['.'] else escape p

end Pattern

end FormQuery
