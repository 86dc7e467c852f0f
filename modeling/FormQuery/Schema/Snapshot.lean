import FormQuery.Schema.Form

/-! The schema at one moment: the known forms, each identifier once. Identifiers are matched exactly; display names are
matched after trimming, in any letter case and with any blanks between words. -/

namespace FormQuery

/-- Trims, drops letter case and closes up the blanks of a display name. -/
def normalizeName (name : String) : String :=
  let small := Text.lower (Text.trim name.toList)
  " ".intercalate ((Text.words small).map String.ofList)

structure Snapshot where
  forms : List Form
  deriving DecidableEq

namespace Snapshot

def repeated? (seen : List String) : List Form → Option Form
  | [] => none
  | form :: rest => if form.id ∈ seen then some form else repeated? (form.id :: seen) rest

/-- The schema of a list of forms; an identifier may not occur twice. -/
def ofForms (forms : List Form) : Except Fault Snapshot :=
  match repeated? [] forms with
  | some form => .error (.duplicateForm form.id)
  | none => .ok ⟨forms⟩

def form? (snapshot : Snapshot) (table : String) : Option Form := snapshot.forms.find? (·.id = table)

def form (snapshot : Snapshot) (table : String) : Except Fault Form :=
  match snapshot.form? table with
  | some form => .ok form
  | none => .error (.unknownKey table)

def tables (snapshot : Snapshot) : List String := snapshot.forms.map (·.id)

def size (snapshot : Snapshot) : Nat := snapshot.forms.length

def hasTable (snapshot : Snapshot) (table : String) : Bool := (snapshot.form? table).isSome

def hasColumn (snapshot : Snapshot) (table column : String) : Bool :=
  (snapshot.form? table).any (·.hasColumn column)

def columns (snapshot : Snapshot) (table : String) : Except Fault (List String) :=
  (snapshot.form table).map (·.columns)

def formName (snapshot : Snapshot) (table : String) : Except Fault String := (snapshot.form table).map (·.name)

def fieldLabel (snapshot : Snapshot) (table column : String) : Except Fault String := do
  let form ← snapshot.form table
  match Fields.get? form.fields column with
  | some field => return field.displayName
  | none => throw (.unknownKey column)

def labelsOf (form : Form) : List (String × String) :=
  form.fields.foldl (fun labels (_, field) => Fields.setDefault labels (normalizeName field.displayName) field.id) []

structure NameIndex where
  tables : List (String × String) := []
  labels : List (String × List (String × String)) := []

/-- Adds a form. A name that an earlier form has stays with that form. -/
def NameIndex.add (index : NameIndex) (form : Form) : NameIndex where
  tables := Fields.setDefault index.tables (normalizeName form.name) form.id
  labels := Fields.set index.labels form.id (labelsOf form)

def nameIndex (snapshot : Snapshot) : NameIndex := snapshot.forms.foldl NameIndex.add {}

def tableByName (snapshot : Snapshot) (name : String) : Option String :=
  Fields.get? snapshot.nameIndex.tables (normalizeName name)

def columnByLabel (snapshot : Snapshot) (table label : String) : Option String :=
  Fields.get? ((Fields.get? snapshot.nameIndex.labels table).getD []) (normalizeName label)

end Snapshot

def sortNames (names : List String) : List String := names.mergeSort (fun left right => decide (left ≤ right))

def unifyLineEnds : List Char → List Char
  | [] => []
  | '\r' :: '\n' :: rest => '\n' :: unifyLineEnds rest
  | '\r' :: rest => '\n' :: unifyLineEnds rest
  | c :: rest => c :: unifyLineEnds rest

def columnNames (value : Value) : Except Fault (List String) :=
  match value with
  | .list items => .ok (items.map Value.display)
  | .text value => .ok (value.toList.map Char.toString)
  | .record fields => .ok (fields.map Prod.fst)
  | value => .error (.notIterable value.kind)

def formsOfEntries : List Value → Except Fault (List Form) × List LogRecord
  | [] => (.ok [], [])
  | .record entry :: rest =>
    match Fields.get? entry "id" with
    | none => (.error (.unknownKey "id"), [])
    | some id =>
      let name := (Fields.get? entry "name").getD .null
      let reading := Form.ofStructure (.text id.display) name (.record entry)
      match reading.form with
      | .error fault => (.error fault, reading.logs)
      | .ok form =>
        let (forms, logs) := formsOfEntries rest
        (forms.map (form :: ·), reading.logs ++ logs)
  | entry :: _ => (.error (.notIndexable entry.kind), [])

/-- The forms of a schema file: a record from form identifiers to column names, or a list of structures. -/
def formsOfFile (path content : String) : Except Fault (List Form) × List LogRecord :=
  match Json.read (String.ofList (unifyLineEnds content.toList)) with
  | .error fault => (.error (.json fault), [])
  | .ok (.record fields) =>
    (fields.mapM fun (id, value) => do return Form.ofColumns id (← columnNames value), [])
  | .ok (.list entries) => formsOfEntries entries
  | .ok _ => (.error (.schemaShape path), [])

end FormQuery
