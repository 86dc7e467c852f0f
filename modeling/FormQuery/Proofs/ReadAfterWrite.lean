import FormQuery.Proofs.ConcurrentMerges
import FormQuery.Proofs.FilterAgreement
import FormQuery.Proofs.JsonRoundTrip
import FormQuery.Proofs.ProgramLogic
import FormQuery.Proofs.UpdatePaths

/-! Reading after writing. An UPDATE that is made over a fetched row writes the document of its submission once, and
what is read from the written text is the old document with one field set. -/

namespace FormQuery

namespace Fields

/-- A document with one field set: in its place when it is there, else behind all others. -/
def withField (document : Fields) (name : String) (value : Value) : Fields :=
  if name ∈ document.map Prod.fst then document.map fun field => if field.1 = name then (name, value) else field
  else document ++ [(name, value)]

def answerText (document : Fields) (name : String) : Except Fault (Option String) :=
  ((get? document name).getD .null).documentText

variable {document : Fields} {name : String} {value : Value}

theorem set_eq_withField (distinct : (document.map Prod.fst).Nodup) :
    set document name value = withField document name value := by
  unfold withField
  split
  next known => exact set_of_mem known distinct
  next unknown => exact set_of_not_mem unknown

/-- One field of a document has a new text or none, and all others are as they were. -/
structure Sets (before after : Fields) (name : String) (text? : Option String) : Prop where
  whole : after = withField before name (.ofText? text?)
  own : answerText after name = .ok text?
  others : ∀ other, other ≠ name →
    get? after other = get? before other ∧ answerText after other = answerText before other

theorem sets_set (distinct : (document.map Prod.fst).Nodup) (name : String) (text? : Option String) :
    Sets document (set document name (.ofText? text?)) name text? where
  whole := set_eq_withField distinct
  own := by
    rw [answerText, get?_set_self]
    cases text? <;> rfl
  others := by
    intro other different
    have kept := get?_set_of_ne document (Value.ofText? text?) different.symm
    exact ⟨kept, by rw [answerText, kept, answerText]⟩

end Fields

theorem Value.isExact_ofText? (text? : Option String) : (Value.ofText? text?).IsExact := by
  cases text? with
  | none => exact .null
  | some text => exact .text text

/-- An exact value is read from its JSON text. -/
theorem Value.written_read {value : Value} (kept : value.IsExact) (style : Json.Style) :
    ∃ written, value.jsonText style = .ok written ∧ Json.read written = .ok value := by
  obtain ⟨shown, printed⟩ := Json.print_succeeds kept.isJson style
  exact ⟨String.ofList shown, by rw [jsonText, printed], Json.read_print kept printed⟩

theorem Fields.exact_set {document : Fields} {value : Value} (kept : (Value.record document).IsExact)
    (new : value.IsExact) (name : String) : (Value.record (set document name value)).IsExact := by
  cases kept with
  | record distinct each =>
    refine .record (nodup_set distinct) fun field member => ?_
    obtain old | rfl := mem_set member
    · exact each field old
    · exact new

theorem Value.decodeDocument_of_read {stored : String} {document : Fields}
    (decoded : Json.read stored = .ok (.record document)) : (text stored).decodeDocument = .ok document := by
  rw [decodeDocument, decoded]
  rfl

/-- The document of a JSON text, with a text or null set, is written to a text from which it is read. -/
theorem Fields.written_read {stored : String} {document : Fields} (decoded : Json.read stored = .ok (.record document))
    (simple : ∀ field ∈ document, field.2.IsSimple) (style : Json.Style) (name : String) (text? : Option String) :
    ∃ written, (Value.record (set document name (.ofText? text?))).jsonText style = .ok written ∧
      Value.decodeDocument (.text written) = .ok (set document name (.ofText? text?)) ∧
      Sets document (set document name (.ofText? text?)) name text? := by
  have kept : (Value.record document).IsExact := Json.exact_of_read decoded (.record simple)
  obtain ⟨written, shown, back⟩ :=
    Value.written_read (exact_set kept (Value.isExact_ofText? text?) name) style
  cases kept with
  | record distinct each => exact ⟨written, shown, Value.decodeDocument_of_read back, sets_set distinct name text?⟩

theorem Update.patch_text {change : Update} {record : FetchedRow} {layout : Layout} {patch : Fields}
    (evaluated : change.patch record layout = .ok patch) :
    ∃ text?, patch = [(change.target.name, .ofText? text?)] := by
  obtain ⟨value, new, rfl⟩ := patch_eq_ok.mp evaluated
  unfold newValue at new
  split at new
  next literal _ =>
    cases new
    exact ⟨some literal.text, rfl⟩
  next =>
    obtain ⟨found, _, new⟩ := ok_of_bind new
    split at new
    next =>
      cases new
      exact ⟨none, rfl⟩
    next =>
      cases new
      exact ⟨some found.display, rfl⟩

namespace Access

open Program

def documentCell (access : Access) (row : List Value) : Option Value :=
  Fields.get? (Fields.ofPairs (access.layout.recordColumns.zip row)) access.layout.documentColumn

variable {access : Access} {row : List Value} {cell : Value} {document : Fields}

theorem fetchedRow_document (held : access.documentCell row = some cell)
    (decoded : cell.decodeDocument = .ok document) : ∃ record, access.fetchedRow row = .ok record ∧
      Fields.get? record access.layout.documentColumn = some (.record document) := by
  rw [documentCell] at held
  refine ⟨Fields.set (Fields.ofPairs (access.layout.recordColumns.zip row)) access.layout.documentColumn
    (.record document), ?_, Fields.get?_set_self ..⟩
  rw [fetchedRow, held, Option.getD_some, bind_ok decoded]
  rfl

section

variable {σ : Type} {connected : Handler connection σ} {state : σ} {form rowId : Value} {conditions : Conditions}
  {patch : Fields}

theorem requests_writeBack (access : Access) (connected : Handler connection σ) (rowId : Value) (patch : Fields)
    (conditions : Conditions) (written : String) (state : σ) : ∃ commits, (commits = [] ∨ commits = [.commit]) ∧
      ((access.writeBack rowId patch conditions written).run connected state).requests =
        .execute (.assign access.layout.table access.layout.documentColumn (.text written) conditions) :: commits := by
  rw [requests_run]
  simp only [writeBack, execute, ask, Bind.bind, Program.bind, moves]
  cases (connected (.execute
    (.assign access.layout.table access.layout.documentColumn (.text written) conditions)) state).result with
  | error fault => exact ⟨[], .inl rfl, rfl⟩
  | ok result =>
    refine ⟨[.commit], .inr rfl, ?_⟩
    simp only [Program.bind, commit, ask, moves]
    cases (connected .commit (connected (.execute (.assign access.layout.table access.layout.documentColumn
      (.text written) conditions)) state).state).result <;> rfl

/-- A merge asks for the row of the submission, and goes on to write the document of a row that it can read and print. -/
theorem merge_request (access : Access) (patch : Fields) (known : access.ofRow form rowId = .ok conditions) :
    ∃ next, access.merge form rowId patch = .request (.execute (access.selection conditions none)) next ∧
      ∀ {result : ResultSet} {row : List Value} {more : List (List Value)} {record : FetchedRow} {document : Fields}
        {written : String}, result.rows = row :: more → access.fetchedRow row = .ok record →
        Fields.get? record access.layout.documentColumn = some (.record document) →
        (Value.record (Fields.override document patch)).jsonText .ascii = .ok written →
        next (.ok result) = access.writeBack rowId patch conditions written := by
  simp only [merge, submission, known, lift, execute, ask, Bind.bind, Program.bind]
  refine ⟨_, rfl, fun first fetched held shown => ?_⟩
  simp only [Program.bind, first, fetched, held, shown, pure]
  rfl

theorem requests_merge (known : access.ofRow form rowId = .ok conditions) {result : ResultSet}
    (found : (connected (.execute (access.selection conditions none)) state).result = .ok result)
    {more : List (List Value)} (first : result.rows = row :: more) {record : FetchedRow}
    (fetched : access.fetchedRow row = .ok record)
    (held : Fields.get? record access.layout.documentColumn = some (.record document)) {written : String}
    (shown : (Value.record (Fields.override document patch)).jsonText .ascii = .ok written) :
    ∃ commits, (commits = [] ∨ commits = [.commit]) ∧
      ((access.merge form rowId patch).run connected state).requests = .execute (access.selection conditions none) ::
        .execute (.assign access.layout.table access.layout.documentColumn (.text written) conditions) :: commits := by
  obtain ⟨next, asks, writes⟩ := access.merge_request patch known
  obtain ⟨commits, ends, requested⟩ := requests_writeBack access connected rowId patch conditions written
    (connected (.execute (access.selection conditions none)) state).state
  refine ⟨commits, ends, ?_⟩
  rw [requests_run] at requested ⊢
  simp only [asks, moves, found, writes first fetched held shown]
  exact congrArg _ requested

end

def rowConditions (access : Access) (column form rowId : String) : Conditions :=
  [(access.layout.partitionColumn, .text form), (column, .text rowId)]

/-- What a merge has done with the document that it found: it wrote one text, only to the row that it read, and a row
with this text is fetched with the document in which one field is set. -/
structure WrittenBack (access : Access) (conditions : Conditions) (document : Fields) (name : String)
    (text? : Option String) (requests : List ConnectionRequest) (written : String) (after : Fields) : Prop where
  requested : ∃ commits, (commits = [] ∨ commits = [.commit]) ∧
    requests = .execute (access.selection conditions none) ::
      .execute (.assign access.layout.table access.layout.documentColumn (.text written) conditions) :: commits
  decoded : Value.decodeDocument (.text written) = .ok after
  sets : document.Sets after name text?
  fetched : ∀ later, access.documentCell later = some (.text written) → ∃ record,
    access.fetchedRow later = .ok record ∧ Fields.get? record access.layout.documentColumn = some (.record after)

/-- Whatever a connection does, an UPDATE over a fetched row whose document is a record of simple values writes this
document back once, with the target set to the new text or to null. -/
theorem update_reads_back {σ : Type} (access : Access) (connected : Handler connection σ) (state : σ) (change : Update)
    {column : String} (known : access.layout.rowIdColumn = .ok column) {result : ResultSet}
    (found : (connected (.execute (access.selection
      (access.rowConditions column change.table.name change.rowId.text) none)) state).result = .ok result)
    {row : List Value} {more : List (List Value)} (first : result.rows = row :: more) {stored : String}
    (cell : access.documentCell row = some (.text stored)) {document : Fields}
    (decoded : Json.read stored = .ok (.record document)) (simple : ∀ field ∈ document, field.2.IsSimple)
    {record : FetchedRow} {layout : Layout} {patch : Fields} (evaluated : change.patch record layout = .ok patch) :
    ∃ text? written after, patch = [(change.target.name, .ofText? text?)] ∧
      access.WrittenBack (access.rowConditions column change.table.name change.rowId.text) document change.target.name
        text? ((access.answer (.merge change.table.name change.rowId.text patch)).run connected state).requests
        written after := by
  obtain ⟨text?, rfl⟩ := change.patch_text evaluated
  obtain ⟨written, shown, back, sets⟩ :=
    Fields.written_read decoded simple .ascii change.target.name text?
  have row_known : access.ofRow (.text change.table.name) (.text change.rowId.text) =
      .ok (access.rowConditions column change.table.name change.rowId.text) := by
    rw [ofRow, known]
    rfl
  obtain ⟨fetched, ran, held⟩ := fetchedRow_document cell (Value.decodeDocument_of_read decoded)
  refine ⟨text?, written, _, rfl, requests_merge row_known found first ran held shown, back, sets, ?_⟩
  intro later holds
  exact fetchedRow_document holds back

private def isTextAndList : Value → Bool
  | .record [(_, .text _), (_, .list [.int _, .null])] => true
  | _ => false

theorem update_reads_back_escaped : ∃ document written after,
    Json.read "\x7b\"\\u00e9\": \"\\ud83d\\ude00\", \"b\": [1, null]\x7d" = .ok (.record document) ∧
      WrittenBack {} (rowConditions {} "id" "f" "r") document "é" (some "\"😀")
        ((answer {} (.merge "f" "r" [("é", .text "\"😀")])).run Script.handler
          ⟨[.ok ⟨none, [[.text "f", .text "r", .null, .null,
            .text "\x7b\"\\u00e9\": \"\\ud83d\\ude00\", \"b\": [1, null]\x7d"]], 1⟩], [], 0⟩).requests
        written after := by
  obtain ⟨value, decoded, shape⟩ := ok_of_passes (by decide +kernel : passes isTextAndList
    (Json.read "\x7b\"\\u00e9\": \"\\ud83d\\ude00\", \"b\": [1, null]\x7d") = true)
  unfold isTextAndList at shape
  split at shape
  next first smile second number =>
    have simple : ∀ field ∈ [(first, Value.text smile), (second, .list [.int number, .null])], field.2.IsSimple :=
      List.forall_mem_cons.mpr ⟨.text smile, List.forall_mem_singleton.mpr
        (.list (List.forall_mem_cons.mpr ⟨.int number, List.forall_mem_singleton.mpr .null⟩))⟩
    obtain ⟨text?, written, after, patched, back⟩ := update_reads_back {} Script.handler
      ⟨[.ok ⟨none, [[.text "f", .text "r", .null, .null,
        .text "\x7b\"\\u00e9\": \"\\ud83d\\ude00\", \"b\": [1, null]\x7d"]], 1⟩], [], 0⟩
      ⟨⟨"f", 0⟩, ⟨"é", 0, false⟩, .literal ⟨.text "\"😀", 0, none⟩, ⟨.text "r", 0, none⟩⟩
      rfl rfl rfl rfl decoded simple (Update.patch_literal rfl [] {})
    obtain rfl : text? = some "\"😀" := by
      cases text? with
      | none => cases patched
      | some text =>
        cases patched
        rfl
    exact ⟨_, written, after, decoded, back⟩
  next => cases shape

end Access

end FormQuery
