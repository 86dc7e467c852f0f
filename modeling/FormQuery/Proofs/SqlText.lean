import FormQuery.Proofs.TokenShape
import FormQuery.Sql.Clause

/-! SQL in pieces and SQL as text. Pieces that keep apart are found again in their text: taking the text apart gives
exactly the spans that were written, and its symbols are those of the pieces. What keeps pieces apart is a condition on
neighbours only, so it is proved of every part of a statement on its own. -/

namespace FormQuery.Sql

/-- Blanks, parentheses and commas end every symbol and start none. -/
def isSolo (c : Char) : Bool := c = ' ' || c = '(' || c = ')' || c = ','

namespace Piece

def isSpan : Piece → Bool
  | code _ | name _ | number _ => false
  | literal _ | label _ => true

/-- Nothing before the piece runs into it. -/
def opens : Piece → Bool
  | code text | name text | number text => text.toList.head?.any isSolo
  | literal _ | label _ => true

/-- The piece runs into nothing after it. -/
def closes : Piece → Bool
  | code text | name text | number text => text.toList.getLast?.any isSolo
  | literal _ | label _ => true

/-- Text that is written bare is there, and holds no quotes. -/
def isClean : Piece → Bool
  | code text | name text | number text => !text.toList.isEmpty && !text.toList.any isQuote
  | literal _ | label _ => true

/-- Two neighbours keep apart: no two spans touch, and no two symbols run into one. -/
def apart (left right : Piece) : Bool := !(left.isSpan && right.isSpan) && (left.closes || right.opens)

end Piece

/-- Every piece is good, and every two neighbours keep apart. -/
def Legible (good : Piece → Prop) : Sql → Prop
  | [] => True
  | piece :: rest => good piece ∧ (∀ next ∈ rest.head?, piece.apart next) ∧ Legible good rest

def Leads (text : String) : Prop := (Piece.code text).isClean ∧ (Piece.code text).closes

/-- Code that may stand after any piece. -/
def Follows (text : String) : Prop := (Piece.code text).isClean ∧ (Piece.code text).opens

/-- Code that may stand between any two pieces. -/
def Separates (text : String) : Prop := Follows text ∧ Leads text

instance (text : String) : Decidable (Leads text) := inferInstanceAs (Decidable (_ ∧ _))

instance (text : String) : Decidable (Follows text) := inferInstanceAs (Decidable (_ ∧ _))

instance (text : String) : Decidable (Separates text) := inferInstanceAs (Decidable (_ ∧ _))

/-- What is good for a generator: all clean code, and every text between quotes. -/
structure Suits (good : Piece → Prop) : Prop where
  code : ∀ text, (Piece.code text).isClean → good (.code text)
  literal : ∀ content, good (.literal content)
  label : ∀ content, good (.label content)

namespace Legible

variable {good : Piece → Prop}

theorem mono {other : Piece → Prop} (implies : ∀ piece, good piece → other piece) {sql : Sql}
    (legible : Legible good sql) : Legible other sql := by
  induction sql with
  | nil => trivial
  | cons piece rest ih => exact ⟨implies piece legible.1, legible.2.1, ih legible.2.2⟩

theorem single {piece : Piece} (valid : good piece) : Legible good [piece] := ⟨valid, by simp, trivial⟩

theorem append {first second : Sql} (left : Legible good first) (right : Legible good second)
    (between : ∀ last ∈ first.getLast?, ∀ next ∈ second.head?, last.apart next) : Legible good (first ++ second) := by
  induction first with
  | nil => exact right
  | cons piece rest ih =>
    obtain ⟨valid, following, tail⟩ := left
    cases rest with
    | nil => exact ⟨valid, fun next member => between piece (by simp) next member, right⟩
    | cons other rest =>
      refine ⟨valid, following, ih tail fun last member => between last ?_⟩
      simpa using member

variable (suits : Suits good)

include suits

theorem cons {text : String} {sql : Sql} (leads : Leads text) (legible : Legible good sql) :
    Legible good (.code text :: sql) :=
  ⟨suits.code text leads.1, fun next _ => by simp [Piece.apart, Piece.isSpan, leads.2], legible⟩

theorem concat {text : String} {sql : Sql} (follows : Follows text) (legible : Legible good sql) :
    Legible good (sql ++ [.code text]) := by
  refine legible.append (single (suits.code text follows.1)) fun last _ next member => ?_
  obtain rfl : .code text = next := by simpa using member
  simp [Piece.apart, Piece.isSpan, follows.2]

theorem between {text : String} {first second : Sql} (separates : Separates text) (left : Legible good first)
    (right : Legible good second) : Legible good (first ++ .code text :: second) := by
  refine left.append (right.cons suits separates.2) fun last _ next member => ?_
  obtain rfl : .code text = next := by simpa using member
  simp [Piece.apart, Piece.isSpan, separates.1.2]

theorem separated {separator : String} (separates : Separates separator) {parts : List Sql}
    (legible : ∀ part ∈ parts, Legible good part) : Legible good (Sql.separated separator parts) := by
  induction parts with
  | nil => trivial
  | cons part rest ih =>
    cases rest with
    | nil => exact legible part (by simp)
    | cons other rest =>
      exact between suits separates (legible part (by simp)) (ih fun part member => legible part (by simp [member]))

end Legible

def Piece.marks : Piece → List Mark
  | .code text | .name text | .number text => text.toList.map .plain
  | .literal content => [.literal content]
  | .label content => [.label content]

def marks (sql : Sql) : List Mark := sql.flatMap Piece.marks

theorem toList_text (sql : Sql) : sql.text.toList = sql.flatMap fun piece => piece.text.toList := by
  simp [text, List.flatMap_map]

/-- A quote inside a span is written twice and read as one. -/
theorem scanFrom_inside (quote : Char) (content before rest : List Char) :
    scanFrom (.inside quote before)
        (content.flatMap (fun c => if c = quote then [quote, quote] else [c]) ++ quote :: rest) =
      scanFrom (.closing quote (before ++ content)) rest := by
  induction content generalizing before with
  | nil => simp [scanFrom, step]
  | cons c content ih =>
    by_cases same : c = quote
    · subst same
      simp [scanFrom, step, ih]
    · simp [scanFrom, step, same, ih]

theorem scanFrom_outside {plain rest : List Char} (clean : plain.any isQuote = false) :
    scanFrom .outside (plain ++ rest) = (scanFrom .outside rest).map (plain.map .plain ++ ·) := by
  induction plain with
  | nil => simp
  | cons c plain ih =>
    simp only [List.any_cons, Bool.or_eq_false_iff] at clean
    simp [scanFrom, step, clean.1, ih clean.2, Function.comp_def]

/-- A complete span is left with the next character, unless that is a quote. -/
theorem scanFrom_closing {quote : Char} (span : isQuote quote) (content : List Char) {rest : List Char}
    (plain : rest.head?.any isQuote = false) :
    scanFrom (.closing quote content) rest = (scanFrom .outside rest).map (.span quote content :: ·) := by
  cases rest with
  | nil => simp [scanFrom, finish]
  | cons c rest =>
    have plain : isQuote c = false := by simpa using plain
    have different : c ≠ quote := fun same => by simp [same, span] at plain
    simp [scanFrom, step, plain, different, Function.comp_def]

private theorem scanFrom_span {quote : Char} (span : isQuote quote) (content : String) {rest : List Char}
    (plain : rest.head?.any isQuote = false) :
    scanFrom .outside ((enclose quote content).toList ++ rest) =
      (scanFrom .outside rest).map (.span quote content.toList :: ·) := by
  have opened : scanFrom .outside ((enclose quote content).toList ++ rest) =
      scanFrom (.inside quote [])
        (content.toList.flatMap (fun c => if c = quote then [quote, quote] else [c]) ++ quote :: rest) := by
    simp [enclose, scanFrom, step, span]
  rw [opened, scanFrom_inside, List.nil_append, scanFrom_closing span content.toList plain]

private theorem head_not_quote {piece : Piece} {rest : Sql} (legible : Legible (fun piece => piece.isClean) rest)
    (following : ∀ next ∈ rest.head?, piece.apart next) (span : piece.isSpan) :
    (rest.flatMap fun piece => piece.text.toList).head?.any isQuote = false := by
  cases rest with
  | nil => rfl
  | cons next rest =>
    have bare : next.isSpan = false := by
      have := following next rfl
      simp only [Piece.apart, span, Bool.true_and, Bool.and_eq_true, Bool.not_eq_true'] at this
      exact this.1
    have clean := legible.1
    cases next with
    | code text | name text | number text =>
      cases shown : text.toList with
      | nil => simp [Piece.isClean, shown] at clean
      | cons c more =>
        have plain : isQuote c = false := by simp_all [Piece.isClean]
        simp [Piece.text, shown, plain]
    | literal content | label content => cases bare

/-- Legible pieces are found again in their text: every span ends where it was closed, and holds what was written. -/
theorem scan_text {sql : Sql} (legible : Legible (fun piece => piece.isClean) sql) :
    scan sql.text = some sql.marks := by
  rw [scan, toList_text]
  induction sql with
  | nil => rfl
  | cons piece rest ih =>
    obtain ⟨clean, following, tail⟩ := legible
    simp only [List.flatMap_cons, marks]
    cases piece with
    | code text | name text | number text =>
      simp only [Piece.isClean, Bool.and_eq_true, Bool.not_eq_true'] at clean
      rw [Piece.text, scanFrom_outside clean.2, ih tail]
      rfl
    | literal content =>
      rw [Piece.text, quoteLiteral, scanFrom_span rfl content (head_not_quote tail following rfl), ih tail]
      simp [Mark.span, Piece.marks, marks]
    | label content =>
      rw [Piece.text, quoteLabel, scanFrom_span rfl content (head_not_quote tail following rfl), ih tail]
      simp [Mark.span, Piece.marks, marks]

/-- A part of text that belongs to no symbol of its neighbours. -/
def Mark.isLoose : Mark → Bool
  | .plain c => isSolo c
  | .literal _ | .label _ => true

@[simp] theorem Symbol.written_nil : Symbol.written [] = [] := rfl

@[simp] theorem continues_nil (c : Char) : continues [] c = false := rfl

section SymbolsFrom

variable (pending : List Char) (c : Char) (content : String) (rest : List Mark)

@[simp] theorem symbolsFrom_nil : symbolsFrom pending [] = Symbol.written pending := rfl

@[simp] theorem symbolsFrom_literal : symbolsFrom pending (.literal content :: rest) =
    Symbol.written pending ++ .literal content :: symbolsFrom [] rest := rfl

@[simp] theorem symbolsFrom_label : symbolsFrom pending (.label content :: rest) =
    Symbol.written pending ++ .label content :: symbolsFrom [] rest := rfl

theorem symbolsFrom_plain : symbolsFrom pending (.plain c :: rest) =
    if continues pending c then symbolsFrom (pending ++ [c]) rest
    else Symbol.written pending ++ symbolsFrom (if c.isWhitespace then [] else [c]) rest := rfl

end SymbolsFrom

private theorem eq_of_isSolo {c : Char} (solo : isSolo c = true) : c = ' ' ∨ c = '(' ∨ c = ')' ∨ c = ',' := by
  simpa [isSolo, or_assoc] using solo

private theorem joins_isSolo {first c : Char} (solo : isSolo c = true) : joins first c = false := by
  unfold joins
  rcases eq_of_isSolo solo with rfl | rfl | rfl | rfl
  all_goals
    split
    · decide
    · split
      · decide
      · rw [Bool.and_eq_false_iff]
        exact Or.inr (by decide)

private theorem isSolo_joins {c next : Char} (solo : isSolo c = true) : joins c next = false := by
  rcases eq_of_isSolo solo with rfl | rfl | rfl | rfl <;> rfl

theorem symbolsFrom_isSolo {c : Char} (solo : isSolo c = true) (rest : List Mark) :
    symbolsFrom [c] rest = Symbol.written [c] ++ symbolsFrom [] rest := by
  cases rest with
  | nil => simp
  | cons mark rest =>
    cases mark with
    | plain d =>
      have apart : continues [c] d = false := isSolo_joins solo
      simp [symbolsFrom_plain, apart]
    | literal content | label content => simp

theorem symbolsFrom_append_opens {second : List Mark} (opens : ∀ mark ∈ second.head?, mark.isLoose)
    (pending : List Char) (first : List Mark) :
    symbolsFrom pending (first ++ second) = symbolsFrom pending first ++ symbolsFrom [] second := by
  induction first generalizing pending with
  | nil =>
    cases second with
    | nil => simp
    | cons mark rest =>
      cases mark with
      | plain c =>
        have solo : isSolo c = true := opens (.plain c) rfl
        have apart : continues pending c = false := by
          cases pending with
          | nil => rfl
          | cons first pending => exact joins_isSolo solo
        simp [symbolsFrom_plain, apart]
      | literal content | label content => simp
  | cons mark first ih =>
    cases mark with
    | plain c =>
      simp only [List.cons_append, symbolsFrom_plain]
      split <;> simp [ih]
    | literal content | label content => simp [ih]

private theorem symbolsFrom_cons_loose {mark : Mark} (loose : mark.isLoose) (rest : List Mark) :
    symbolsFrom [] (mark :: rest) = symbolsFrom [] [mark] ++ symbolsFrom [] rest := by
  cases mark with
  | plain c =>
    by_cases blank : c.isWhitespace = true
    · simp [symbolsFrom_plain, blank]
    · simp [symbolsFrom_plain, blank, symbolsFrom_isSolo loose]
  | literal content | label content => simp

theorem symbolsFrom_append_closes {first : List Mark} (closes : ∀ mark ∈ first.getLast?, mark.isLoose)
    (second : List Mark) : symbolsFrom [] (first ++ second) = symbolsFrom [] first ++ symbolsFrom [] second := by
  rcases List.eq_nil_or_concat first with rfl | ⟨start, mark, rfl⟩
  · simp
  · rw [List.concat_eq_append] at closes ⊢
    have loose : mark.isLoose := closes mark (by simp)
    have open_after (rest : List Mark) : ∀ next ∈ (mark :: rest).head?, next.isLoose := by simpa using loose
    rw [List.append_assoc, List.singleton_append, symbolsFrom_append_opens (open_after second),
      symbolsFrom_cons_loose loose, symbolsFrom_append_opens (open_after []), List.append_assoc]

def Piece.isWhole : Piece → Bool
  | .name text =>
    match text.toList with
    | c :: rest => isWordStart c && rest.all (joins c)
    | [] => false
  | .number text =>
    match text.toList with
    | c :: rest => Value.isAsciiDigit c && rest.all (joins c)
    | [] => false
  | .code _ | .literal _ | .label _ => true

private theorem symbolsFrom_run {c : Char} {more : List Char} (run : more.all (joins c)) (before : List Char) :
    symbolsFrom (c :: before) (more.map .plain) = Symbol.written (c :: before ++ more) := by
  induction more generalizing before with
  | nil => simp
  | cons d more ih =>
    simp only [List.all_cons, Bool.and_eq_true] at run
    have step := ih run.2 (before ++ [d])
    simpa [symbolsFrom_plain, continues, run.1] using step

private theorem not_blank_of_isWordStart {c : Char} (start : isWordStart c = true) : c.isWhitespace = false := by
  rw [← Bool.not_eq_true]
  intro white
  simp only [Char.isWhitespace, Bool.or_eq_true, decide_eq_true_eq] at white
  rcases white with ((white | white) | white) | white <;> subst white <;> cases start

theorem not_blank_of_isAsciiDigit {c : Char} (digit : Value.isAsciiDigit c = true) :
    c.isWhitespace = false ∧ isWordStart c = false := by
  simp only [Value.isAsciiDigit, Bool.and_eq_true, decide_eq_true_eq, Char.le_def, UInt32.le_iff_toNat_le] at digit
  have range : 48 ≤ c.val.toNat ∧ c.val.toNat ≤ 57 := digit
  refine ⟨?_, ?_⟩
  · rw [← Bool.not_eq_true]
    intro white
    simp only [Char.isWhitespace, Bool.or_eq_true, decide_eq_true_eq] at white
    rcases white with ((white | white) | white) | white <;> subst white <;> simp at range
  · rw [← Bool.not_eq_true]
    intro start
    have letter : 65 ≤ c.val.toNat := (code_of_isWordStart start).1
    omega

private theorem symbolsFrom_whole {c : Char} {more : List Char} (visible : c.isWhitespace = false)
    (run : more.all (joins c)) : symbolsFrom [] ((c :: more).map .plain) = Symbol.written (c :: more) := by
  have rest := symbolsFrom_run run []
  simpa [symbolsFrom_plain, visible] using rest

theorem Piece.symbols_of_isWhole {piece : Piece} (whole : piece.isWhole) :
    symbolsFrom [] piece.marks = piece.symbols := by
  cases piece with
  | code text => rfl
  | literal content | label content => simp [Piece.marks, Piece.symbols]
  | name text =>
    cases shown : text.toList with
    | nil => simp [Piece.isWhole, shown] at whole
    | cons c more =>
      simp only [Piece.isWhole, shown, Bool.and_eq_true] at whole
      rw [Piece.marks, shown, symbolsFrom_whole (not_blank_of_isWordStart whole.1) whole.2, ← shown]
      simp only [shown, Symbol.written, whole.1, if_true, Piece.symbols]
      rw [← shown, String.ofList_toList]
  | number text =>
    cases shown : text.toList with
    | nil => simp [Piece.isWhole, shown] at whole
    | cons c more =>
      simp only [Piece.isWhole, shown, Bool.and_eq_true] at whole
      have plain := not_blank_of_isAsciiDigit whole.1
      rw [Piece.marks, shown, symbolsFrom_whole plain.1 whole.2]
      simp only [Symbol.written, plain.2, whole.1, if_true, Bool.false_eq_true, if_false, Piece.symbols]
      rw [← shown, String.ofList_toList]

theorem closes_marks {piece : Piece} (closes : piece.closes) :
    ∀ mark ∈ piece.marks.getLast?, mark.isLoose := by
  cases piece with
  | code text | name text | number text =>
    simp only [Piece.marks, List.getLast?_map]
    intro mark member
    obtain ⟨c, last, rfl⟩ := Option.map_eq_some_iff.mp member
    simpa [Mark.isLoose, Piece.closes, last] using closes
  | literal content | label content => simp [Piece.marks, Mark.isLoose]

theorem opens_marks {piece : Piece} {rest : List Mark} (clean : piece.isClean) (opens : piece.opens) :
    ∀ mark ∈ (piece.marks ++ rest).head?, mark.isLoose := by
  cases piece with
  | code text | name text | number text =>
    cases shown : text.toList with
    | nil => simp [Piece.isClean, shown] at clean
    | cons c more => simpa [Piece.marks, shown, Mark.isLoose, Piece.opens] using opens
  | literal content | label content => simp [Piece.marks, Mark.isLoose]

/-- The symbols of legible pieces are the symbols of their text, if names and numbers are what a database takes for
such. -/
theorem symbolsFrom_marks {sql : Sql} (legible : Legible (fun piece => piece.isClean ∧ piece.isWhole) sql) :
    symbolsFrom [] sql.marks = sql.symbols := by
  induction sql with
  | nil => rfl
  | cons piece rest ih =>
    obtain ⟨⟨clean, whole⟩, following, tail⟩ := legible
    have parts :
        symbolsFrom [] (piece.marks ++ marks rest) = symbolsFrom [] piece.marks ++ symbolsFrom [] (marks rest) := by
      cases rest with
      | nil => simp [marks]
      | cons next rest =>
        have apart := following next rfl
        simp only [Piece.apart, Bool.and_eq_true, Bool.or_eq_true] at apart
        rcases apart.2 with closes | opens
        · exact symbolsFrom_append_closes (closes_marks closes) _
        · exact symbolsFrom_append_opens (opens_marks tail.1.1 opens) [] _
    calc symbolsFrom [] (marks (piece :: rest))
        = symbolsFrom [] (piece.marks ++ marks rest) := rfl
      _ = symbolsFrom [] piece.marks ++ symbolsFrom [] (marks rest) := parts
      _ = piece.symbols ++ symbols rest := by rw [Piece.symbols_of_isWhole whole, ih tail]
      _ = symbols (piece :: rest) := rfl

end FormQuery.Sql
