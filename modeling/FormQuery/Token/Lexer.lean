import FormQuery.Token

/-! Cutting query text into tokens. Every text can be cut: a character that starts no token is a token of its own, of
the unrecognized kind, and is reported where tokens are read. What a quoted span stands for is settled by the tokens
before it and by its shape. -/

namespace FormQuery

open Text

def keywords : List (String × TokenKind) :=
  [("SELECT", .selectWord), ("FROM", .fromWord), ("WHERE", .whereWord), ("AND", .andWord), ("OR", .orWord),
   ("AS", .asWord), ("UPDATE", .updateWord), ("SET", .setWord), ("FORM", .formWord), ("FIELD", .fieldWord)]

def aggregateNames : List String := ["COUNT", "SUM", "AVG", "MIN", "MAX", "MEDIAN"]

def operatorWords : List String := ["LIKE", "ILIKE"]

/-- Longer operators come first, so that they win over their beginnings. -/
def operatorSymbols : List String := ["!=", "<>", ">=", "<=", "=", "<", ">"]

def punctuation : List (Char × TokenKind) :=
  [(',', .comma), (';', .semicolon), ('(', .leftParen), (')', .rightParen), ('*', .star)]

def reservedKind? (capitals : String) : Option TokenKind :=
  match keywords.lookup capitals with
  | some kind => some kind
  | none =>
    if capitals ∈ aggregateNames then some .aggregate
    else if (StringFunction.ofName? capitals).isSome then some .function
    else if capitals ∈ operatorWords then some .operator
    else none

def isWordStart (c : Char) : Bool := c.isAlpha || c = '_'

def isWordPart (c : Char) : Bool := c.isAlphanum || c = '_'

def isHexDigit (c : Char) : Bool := c.isDigit || ('a' ≤ c && c ≤ 'f') || ('A' ≤ c && c ≤ 'F')

def identifierShape : List Nat := [8, 4, 4, 4, 12]

def dropHexGroup? : Nat → List Char → Option (List Char)
  | 0, text => some text
  | _ + 1, [] => none
  | size + 1, c :: rest => if isHexDigit c then dropHexGroup? size rest else none

def dropHexGroups? : List Nat → List Char → Option (List Char)
  | [], text => some text
  | [size], text => dropHexGroup? size text
  | size :: sizes, text =>
    match dropHexGroup? size text with
    | some ('-' :: rest) => dropHexGroups? sizes rest
    | _ => none

/-- Whether a text is an identifier in five groups of hexadecimal digits. A line end may follow it. -/
def isIdentifierShaped (text : List Char) : Bool :=
  match dropHexGroups? identifierShape text with
  | some rest => rest = [] || rest = ['\n']
  | none => false

def isUuid (text : String) : Bool := isIdentifierShaped text.toList

/-- The content of a quoted span and its length after the opening quote, the closing quote included; nothing when the
span does not end. A doubled quote stands for one. -/
def quotedSpan? (quote : Char) : List Char → Option (List Char × Nat)
  | [] => none
  | [c] => if c = quote then some ([], 1) else none
  | c :: d :: rest =>
    if c = quote then
      if d = quote then (quotedSpan? quote rest).map fun (content, size) => (quote :: content, size + 2)
      else some ([], 1)
    else (quotedSpan? quote (d :: rest)).map fun (content, size) => (c :: content, size + 1)

/-- What a quoted span stands for. `before` holds the kinds of the tokens before it, the nearest first. -/
def quotedKind (before : List TokenKind) (content : List Char) : TokenKind :=
  match before with
  | .fromWord :: _ => .tableRef
  | .formWord :: _ => .tableRef
  | .leftParen :: .fieldWord :: _ => .columnRef
  | _ => if isIdentifierShaped content then .columnRef else .string

structure Lexeme where
  kind : TokenKind
  more : Nat
  value : List Char

def quotedLexeme (before : List TokenKind) (quote : Char) (rest : List Char) : Lexeme :=
  match quotedSpan? quote rest with
  | some (content, more) => ⟨quotedKind before content, more, content⟩
  | none => ⟨.unrecognized, rest.length, quote :: rest⟩

def operatorLexeme? (text : List Char) : Option Lexeme :=
  (operatorSymbols.find? fun symbol => symbol.toList.isPrefixOf text).map fun symbol =>
    ⟨.operator, symbol.length - 1, symbol.toList⟩

def numberLength (text : List Char) : Nat :=
  let whole := text.takeWhile isDigit
  match text.dropWhile isDigit with
  | '.' :: rest =>
    let fraction := rest.takeWhile isDigit
    if fraction.isEmpty then whole.length else whole.length + 1 + fraction.length
  | _ => whole.length

def wordLexeme (c : Char) (rest : List Char) : Lexeme :=
  let word := c :: rest.takeWhile isWordPart
  let capitals := word.map Char.toUpper
  match reservedKind? (String.ofList capitals) with
  | some kind => ⟨kind, word.length - 1, capitals⟩
  | none => ⟨.unrecognized, word.length - 1, word⟩

def lexeme (before : List TokenKind) (c : Char) (rest : List Char) : Lexeme :=
  if isQuote c then quotedLexeme before c rest
  else
    match operatorLexeme? (c :: rest) with
    | some found => found
    | none =>
      match punctuation.lookup c with
      | some kind => ⟨kind, 0, [c]⟩
      | none =>
        if isDigit c then
          let more := numberLength (c :: rest) - 1
          ⟨.number, more, c :: rest.take more⟩
        else if isWordStart c then wordLexeme c rest
        else ⟨.unrecognized, 0, [c]⟩

/-- The tokens of a text that starts at `position`, the end of input last. -/
def tokensFrom (before : List TokenKind) (position : Nat) : List Char → List Token
  | [] => [⟨.endOfInput, "", position, ""⟩]
  | c :: rest =>
    if isBlank c then tokensFrom before (position + 1) rest
    else
      let found := lexeme before c rest
      let text := String.ofList (c :: rest.take found.more)
      ⟨found.kind, text, position, String.ofList found.value⟩ ::
        tokensFrom (found.kind :: before) (position + text.length) (rest.drop found.more)
termination_by text => text.length
decreasing_by
  · simp
  · simp only [List.length_drop, List.length_cons]; omega

def tokenize (source : String) : List Token := tokensFrom [] 0 source.toList

/-- Takes semicolons and blanks off the end, so a statement may be closed any number of times. Everything before the
end stays as typed, and positions with it. -/
def dropClosing (reversed : List Char) : List Char := reversed.dropWhile fun c => isBlank c || c = ';'

def prepareInput (source : String) : String := String.ofList (dropClosing source.toList.reverse).reverse

end FormQuery
