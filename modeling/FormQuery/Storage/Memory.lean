import FormQuery.Backend

/-! A backend in memory: a list of submissions whose form, identifier and document have fixed names, and prepared
answers for everything else. -/

namespace FormQuery

structure MemoryStore where
  submissions : List FetchedRow
  /-- What generated SQL gives, whatever it says. -/
  sqlAnswer : Except Fault RawTable := .error (.unavailable "exec_sql missing")
  fetchFault : Option Fault := none
  mergeFails : Bool := false

namespace MemoryStore

def cellIs (row : FetchedRow) (name expected : String) : Bool :=
  match Fields.get? row name with
  | some (.text value) => value = expected
  | _ => false

def isOf (form : String) (row : FetchedRow) : Bool := cellIs row "form_id" form

def isAt (form rowId : String) (row : FetchedRow) : Bool := isOf form row && cellIs row "id" rowId

def patched (patch : Fields) (row : FetchedRow) : Except Fault FetchedRow :=
  match Fields.get? row "submission_data" with
  | some (.record document) => .ok (Fields.set row "submission_data" (.record (Fields.override document patch)))
  | some value => .error (.noMember value.kind "update")
  | none => .error (.unknownKey "submission_data")

/-- Patches the first row that a test selects, and tells how many rows changed. -/
def patchFirst (selects : FetchedRow → Bool) (patch : Fields) : List FetchedRow → Except Fault (Int × List FetchedRow)
  | [] => .ok (0, [])
  | row :: rest =>
    if selects row then (patched patch row).map fun row => (1, row :: rest)
    else (patchFirst selects patch rest).map fun (count, rest) => (count, row :: rest)

def fetch {α : Type} (store : MemoryStore) (rows : α) : Except Fault α :=
  match store.fetchFault with
  | some fault => .error fault
  | none => .ok rows

def handler : Handler backend MemoryStore
  | .runSql _, store => { result := store.sqlAnswer, state := store }
  | .fetchSubmissions form limit, store =>
    { result := store.fetch ((store.submissions.filter (isOf form)).take limit.toNat), state := store }
  | .fetchSubmission form rowId, store =>
    { result := store.fetch (store.submissions.find? (isAt form rowId)), state := store }
  | .merge form rowId patch, store =>
    if store.mergeFails then { result := .ok (0 : Int), state := store }
    else match patchFirst (isAt form rowId) patch store.submissions with
      | .ok (count, rows) => { result := .ok count, state := { store with submissions := rows } }
      | .error fault => { result := .error fault, state := store }

end MemoryStore

end FormQuery
