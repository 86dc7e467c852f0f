import FormQuery.Settings.Tree

/-! Reading TOML files of settings: tables, keys with dots, texts, numbers and truth values. Every statement has a line
of its own. -/

namespace FormQuery.Settings.Toml

structure Stop where
  reason : String
  left : Nat

def stop {α : Type} (reason : String) (rest : List Char) : Except Stop α := .error ⟨reason, rest.length⟩

def skipBlanks (text : List Char) : List Char := text.dropWhile fun c => c = ' ' || c = '\t'

def isControl (c : Char) : Bool := (c.toNat < 32 && c ≠ '\t') || c.toNat = 127

def simpleEscapes : List (Char × Char) :=
  [('b', '\x08'), ('t', '\t'), ('n', '\n'), ('f', '\x0c'), ('r', '\r'), ('"', '"'), ('\\', '\\')]

def codeEscape (count : Nat) (text : List Char) : Except Stop (Char × List Char) :=
  let digits := (text.take count).filterMap Json.hexValue?
  if digits.length < count then stop "Invalid hex value" text
  else
    let code := digits.foldl (fun code digit => 16 * code + digit) 0
    if code.isValidChar then .ok (Char.ofNat code, text.drop count)
    else stop "Escaped character is not a Unicode scalar value" (text.drop count)

def escape (text : List Char) : Except Stop (Char × List Char) :=
  match text with
  | 'u' :: rest => codeEscape 4 rest
  | 'U' :: rest => codeEscape 8 rest
  | c :: rest => match simpleEscapes.lookup c with
    | some escaped => .ok (escaped, rest)
    | none => stop "Unescaped '\\' in a string" rest
  | [] => stop "Unescaped '\\' in a string" []

/-- The rest of a text, after its opening quote. Every step takes a character, so as much fuel as characters will do. -/
def quotedText (taken : List Char) : Nat → List Char → Except Stop (String × List Char)
  | 0, text => stop "Unterminated string" text
  | _, [] => stop "Unterminated string" []
  | fuel + 1, c :: rest =>
    if c = '"' then .ok (String.ofList taken.reverse, rest)
    else if c = '\\' then do
      let (escaped, rest) ← escape rest
      quotedText (escaped :: taken) fuel rest
    else if isControl c then stop s!"Illegal character {Text.quoted c.toString}" (c :: rest)
    else quotedText (c :: taken) fuel rest

def literalText (text : List Char) : Except Stop (String × List Char) :=
  match text.dropWhile (· ≠ '\'') with
  | _ :: rest => .ok (String.ofList (text.takeWhile (· ≠ '\'')), rest)
  | [] => stop "Expected \"'\"" []

def isBareKey (c : Char) : Bool := c.isAlphanum || c = '-' || c = '_'

def keyPart (text : List Char) : Except Stop (String × List Char) :=
  match text with
  | '"' :: rest => quotedText [] rest.length.succ rest
  | '\'' :: rest => literalText rest
  | text =>
    if (text.takeWhile isBareKey).isEmpty then stop "Invalid initial character for a key part" text
    else .ok (String.ofList (text.takeWhile isBareKey), text.dropWhile isBareKey)

def moreParts : Nat → List Char → Except Stop (List String × List Char)
  | 0, text => .ok ([], text)
  | fuel + 1, text =>
    match skipBlanks text with
    | '.' :: rest => do
      let (part, rest) ← keyPart (skipBlanks rest)
      let (parts, rest) ← moreParts fuel rest
      return (part :: parts, rest)
    | rest => .ok ([], rest)

def key (text : List Char) : Except Stop (List String × List Char) := do
  let (first, rest) ← keyPart text
  let (parts, rest) ← moreParts rest.length rest
  return (first :: parts, rest)

/-- Digits with single underscores between them, without the underscores. -/
def groupedDigits : List Char → List Char × List Char
  | '_' :: c :: rest =>
    if c.isDigit then
      let (digits, rest) := groupedDigits rest
      (c :: digits, rest)
    else ([], '_' :: c :: rest)
  | c :: rest =>
    if c.isDigit then
      let (digits, rest) := groupedDigits rest
      (c :: digits, rest)
    else ([], c :: rest)
  | [] => ([], [])

def digits (text : List Char) : List Char × List Char :=
  if (text.head?.any Char.isDigit) then groupedDigits text else ([], text)

def wholeDigits (text : List Char) : List Char × List Char :=
  match text with
  | '0' :: rest => (['0'], rest)
  | text => digits text

def fractionDigits (text : List Char) : List Char × List Char :=
  match text with
  | '.' :: rest => match digits rest with
    | ([], _) => ([], text)
    | (found, rest) => ('.' :: found, rest)
  | _ => ([], text)

def exponentDigits (text : List Char) : List Char × List Char :=
  match text with
  | c :: rest =>
    if c = 'e' || c = 'E' then
      let (negative, unsigned) := Decimal.leadingSign rest
      match digits unsigned with
      | ([], _) => ([], text)
      | (found, rest) => ('e' :: (if negative then ['-'] else []) ++ found, rest)
    else ([], text)
  | [] => ([], text)

def number (text : List Char) : Except Stop (Value × List Char) :=
  let (negative, unsigned) := Decimal.leadingSign text
  let (whole, rest) := wholeDigits unsigned
  let (fraction, rest) := fractionDigits rest
  let (exponent, rest) := exponentDigits rest
  if whole.isEmpty then stop "Invalid value" text
  else if fraction.isEmpty && exponent.isEmpty then
    .ok (.int (Decimal.signed negative (Decimal.digitsValue (whole.filterMap Text.digitValue?))), rest)
  else
    match Binary.ofText? (String.ofList (whole ++ fraction ++ exponent)) with
    | some value => .ok (.float (Binary.withSign negative value), rest)
    | none => stop "Invalid value" text

def after? (word : String) (text : List Char) : Option (List Char) :=
  if word.toList.isPrefixOf text then some (text.drop word.length) else none

def value (text : List Char) : Except Stop (Value × List Char) :=
  match text with
  | '"' :: rest => (quotedText [] rest.length.succ rest).map fun (shown, rest) => (.text shown, rest)
  | '\'' :: rest => (literalText rest).map fun (shown, rest) => (.text shown, rest)
  | text =>
    match after? "true" text, after? "false" text with
    | some rest, _ => .ok (.bool true, rest)
    | _, some rest => .ok (.bool false, rest)
    | none, none => number text

structure Document where
  tree : Tree := []
  table : List String := []
  declared : List (List String) := []
  /-- Tables that keys with dots made; they count as declared from the next table on. -/
  dotted : List (List String) := []

def makeTable : List String → Tree → Option Tree
  | [], tree => some tree
  | name :: rest, tree =>
    match Fields.get? tree name with
    | none => (makeTable rest []).map fun inner => Fields.set tree name (.record inner)
    | some (.record inner) => (makeTable rest inner).map fun inner => Fields.set tree name (.record inner)
    | some _ => none

def setNew (name : String) (value : Value) : List String → Tree → Option Tree
  | [], tree => if Fields.has tree name then none else some (Fields.set tree name value)
  | part :: rest, tree =>
    match Fields.get? tree part with
    | none => (setNew name value rest []).map fun inner => Fields.set tree part (.record inner)
    | some (.record inner) => (setNew name value rest inner).map fun inner => Fields.set tree part (.record inner)
    | some _ => none

def keyText (key : List String) : String :=
  "(" ++ ", ".intercalate (key.map Text.quoted) ++ (if key.length = 1 then ",)" else ")")

def tableLine (document : Document) (text : List Char) : Except Stop (Document × List Char) := do
  let declared := document.declared ++ document.dotted
  let (table, rest) ← key (skipBlanks text)
  if table ∈ declared then stop s!"Cannot declare {keyText table} twice" rest
  match makeTable table document.tree with
  | none => stop "Cannot overwrite a value" rest
  | some tree =>
    match rest with
    | ']' :: rest => return (⟨tree, table, declared ++ [table], []⟩, rest)
    | rest => stop "Expected ']' at the end of a table declaration" rest

/-- The tables that a key with dots makes, the outer ones first. -/
def outerTables (table : List String) (key : List String) : List (List String) :=
  (List.range (key.length - 1)).map fun count => table ++ key.take (count + 1)

def keyLine (document : Document) (text : List Char) : Except Stop (Document × List Char) := do
  let (path, rest) ← key text
  match rest with
  | '=' :: rest =>
    let (found, rest) ← value (skipBlanks rest)
    let outer := outerTables document.table path
    match outer.find? (· ∈ document.declared) with
    | some table => stop s!"Cannot redefine namespace {keyText table}" rest
    | none =>
      match setNew (path.getLast?.getD "") found (document.table ++ path.dropLast) document.tree with
      | some tree => return ({ document with tree := tree, dotted := document.dotted ++ outer }, rest)
      | none => stop "Cannot overwrite a value" rest
  | rest => stop "Expected '=' after a key in a key/value pair" rest

def endLine (text : List Char) : Except Stop Unit :=
  match skipBlanks text with
  | [] => .ok ()
  | '#' :: rest => match rest.dropWhile fun c => !isControl c with
    | [] => .ok ()
    | c :: rest => stop s!"Found invalid character {Text.quoted c.toString}" (c :: rest)
  | rest => stop "Expected newline or end of document after a statement" rest

def line (document : Document) (text : List Char) : Except Stop Document := do
  match skipBlanks text with
  | [] => return document
  | '#' :: rest => do
    endLine ('#' :: rest)
    return document
  | '[' :: rest => do
    let (document, rest) ← tableLine document rest
    endLine rest
    return document
  | c :: rest =>
    if isBareKey c || c = '"' || c = '\'' then do
      let (document, rest) ← keyLine document (c :: rest)
      endLine rest
      return document
    else stop "Invalid statement" (c :: rest)

def splitLines : List Char → List Char → List (List Char)
  | taken, [] => [taken.reverse]
  | taken, '\r' :: '\n' :: rest => taken.reverse :: splitLines [] rest
  | taken, '\n' :: rest => taken.reverse :: splitLines [] rest
  | taken, c :: rest => splitLines (c :: taken) rest

def place (number : Nat) (text : List Char) (isLast : Bool) (left : Nat) : String :=
  if isLast && left = 0 then "end of document" else s!"line {number}, column {text.length - left + 1}"

def lines (document : Document) (number : Nat) : List (List Char) → Except Fault Document
  | [] => .ok document
  | text :: rest =>
    match line document text with
    | .ok document => lines document (number + 1) rest
    | .error stopped => .error (.toml s!"{stopped.reason} (at {place number text rest.isEmpty stopped.left})")

def read (text : String) : Except Fault Tree := (lines {} 1 (splitLines [] text.toList)).map (·.tree)

end FormQuery.Settings.Toml
