import FormQuery.Fault
import FormQuery.Query

/-! Where submissions are stored: one table for all forms, a column that tells the form, a column with the document of
answers, and the columns behind the system columns of the language. -/

namespace FormQuery

structure Layout where
  table : String := "form_submissions"
  documentColumn : String := "submission_data"
  partitionColumn : String := "form_id"
  /-- System columns with the columns that hold them, in the order in which `*` shows them. -/
  pseudoColumns : List (String × String) := FormQuery.pseudoColumns
  deriving DecidableEq, Inhabited

namespace Layout

def physical (layout : Layout) (name : String) : Except Fault String :=
  match Fields.get? layout.pseudoColumns name with
  | some column => .ok column
  | none => .error (.unknownKey name)

def rowIdColumn (layout : Layout) : Except Fault String := layout.physical "submission_id"

/-- Keeps the first of equal names. -/
def distinct (names : List String) : List String :=
  names.foldl (fun kept name => if name ∈ kept then kept else kept ++ [name]) []

/-- The columns of a fetched row: the form, the system columns, each once, and the document. -/
def recordColumns (layout : Layout) : List String :=
  layout.pseudoColumns.foldl (fun columns (_, column) => if column ∈ columns then columns else columns ++ [column])
    [layout.partitionColumn] ++ [layout.documentColumn]

/-- The columns of a sample: the form, the different system columns, and the document. -/
def sampleColumns (layout : Layout) : List String :=
  layout.partitionColumn :: distinct (layout.pseudoColumns.map Prod.snd) ++ [layout.documentColumn]

/-- No column of a sample has the name of another one. Two system columns may be one. -/
def Apart (layout : Layout) : Prop := layout.sampleColumns.Nodup

instance (layout : Layout) : Decidable layout.Apart := inferInstanceAs (Decidable layout.sampleColumns.Nodup)

end Layout

end FormQuery
