import FormQuery.Conversion
import FormQuery.Fault
import FormQuery.Log.Record

/-! Forms and their fields, as the form builder defines them, read from stored structures and from typed data. -/

namespace FormQuery

structure Field where
  id : String
  label : String := ""
  type : String := "text"
  required : Bool := false
  deriving DecidableEq

def Field.displayName (field : Field) : String := if field.label.isEmpty then field.id else field.label

/-- A form. Its fields are keyed by column names, in order. -/
structure Form where
  id : String
  name : String := "Unnamed Form"
  fields : List (String × Field) := []
  deriving DecidableEq

namespace Form

def columns (form : Form) : List String := form.fields.map Prod.fst

def hasColumn (form : Form) (column : String) : Bool := column ∈ form.columns

def ofColumns (id : String) (columns : List String) : Form :=
  ⟨id, id, Fields.ofPairs (columns.map fun column => (column, { id := column, label := column }))⟩

end Form

def Field.check : Value → Checked Field :=
  Conversion.record "FieldDefinition" fun fields =>
    Field.mk <$> Checked.field fields "id" Conversion.text none
      <*> Checked.field fields "label" Conversion.text (some "")
      <*> Checked.field fields "type" Conversion.text (some "text")
      <*> Checked.field fields "required" Conversion.truth (some false)

def Form.check : Value → Checked Form :=
  Conversion.record "FormDefinition" fun fields =>
    Form.mk <$> Checked.field fields "id" Conversion.text none
      <*> Checked.field fields "name" Conversion.text (some "Unnamed Form")
      <*> Checked.field fields "fields" (Conversion.mapping Field.check) (some [])

def Field.ofValue (value : Value) : Except ProblemReport Field := (Field.check value).toExcept "FieldDefinition"

def Form.ofValue (value : Value) : Except ProblemReport Form := (Form.check value).toExcept "FormDefinition"

def Field.toValue (field : Field) : Value :=
  .record [("id", .text field.id), ("label", .text field.label), ("type", .text field.type),
    ("required", .bool field.required)]

def Form.toValue (form : Form) : Value :=
  .record [("id", .text form.id), ("name", .text form.name),
    ("fields", .record (form.fields.map fun (name, field) => (name, field.toValue)))]

def Value.orElse (value? : Option Value) (other : Value) : Value :=
  match value? with
  | some value => if value.holds then value else other
  | none => other

/-- An entry of a structure is a field when it is a record with an identifier. -/
def Field.ofEntry? : Value → Option Field
  | .record entry =>
    match Fields.get? entry "id" with
    | some id =>
      if id.holds then
        some ⟨id.display, (Value.orElse (Fields.get? entry "label") id).display,
          (Value.orElse (Fields.get? entry "type") (.text "text")).display,
          ((Fields.get? entry "required").getD (.bool false)).holds⟩
      else none
    | none => none
  | _ => none

def Value.entries (value : Value) : Except Fault (List Value) :=
  match value with
  | .list items => .ok items
  | .text _ | .bytes _ | .record _ => .ok []
  | value => if value.holds then .error (.notIterable value.kind) else .ok []

def decodeStructure : Value → Except Fault Value
  | .text value => (Json.read value).mapError .json
  | .bytes value =>
    match Text.decode value with
    | .ok chars => (Json.readDecoded chars).mapError .json
    | .error fault => .error (.octets fault)
  | value => .ok value

def structureEntries : Value → Except Fault (List Value)
  | .record fields => ((Fields.get? fields "fields").getD .null).entries
  | _ => .ok []

structure StructureReading where
  form : Except Fault Form
  logs : List LogRecord

/-- Reads the fields of a stored structure; entries without an identifier are passed over, and of entries with one
identifier the last counts. A structure that is no JSON is reported and read as empty. -/
def Form.ofStructure (id name : Value) (structure_ : Value) : StructureReading :=
  let (decoded, logs) := match decodeStructure structure_ with
    | .ok value => (value, [])
    | .error _ =>
      (Value.record [], [LogRecord.plain loggers.models .warning
        s!"Form {id.display} has an unreadable structure; treating it as empty"])
  let form := do
    let entries ← structureEntries decoded
    let fields := (entries.filterMap Field.ofEntry?).map fun field => (field.id, field)
    let shown := if name.holds then name else .text "Unnamed Form"
    let named := (fun id name => Form.mk id name (Fields.ofPairs fields))
      <$> (Conversion.text id).under (.field "id") <*> (Conversion.text shown).under (.field "name")
    (named.toExcept "FormDefinition").mapError .invalid
  ⟨form, logs⟩

/-- Reads structures one after the other up to the first that fails; the reports of all that were read are kept. -/
def Form.ofStructures : List (Value × Value × Value) → Except Fault (List Form) × List LogRecord
  | [] => (.ok [], [])
  | (id, name, structure_) :: rest =>
    let reading := Form.ofStructure id name structure_
    match reading.form with
    | .error fault => (.error fault, reading.logs)
    | .ok form =>
      let (forms, logs) := Form.ofStructures rest
      (forms.map (form :: ·), reading.logs ++ logs)

end FormQuery
