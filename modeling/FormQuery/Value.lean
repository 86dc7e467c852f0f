import FormQuery.Number.Binary
import FormQuery.Text.Quoted

/-! Values of documents, rows, function arguments and settings, and the text that shows them in messages and in
comparisons with text. -/

namespace FormQuery

/-- A value. A record keeps its fields in order, each name once. -/
inductive Value where
  | null
  | bool (value : Bool)
  | int (value : Int)
  | float (value : Float)
  | decimal (value : Decimal)
  | bytes (value : List UInt8)
  | text (value : String)
  | list (items : List Value)
  | record (fields : List (String × Value))
  deriving Inhabited

abbrev Fields := List (String × Value)

namespace Fields

/-- Sets a field. A known name keeps its place, a new one comes last. -/
def set {α : Type} (fields : List (String × α)) (name : String) (value : α) : List (String × α) :=
  match fields with
  | [] => [(name, value)]
  | (known, kept) :: rest => if known = name then (known, value) :: rest else (known, kept) :: set rest name value

def get? {α : Type} (fields : List (String × α)) (name : String) : Option α :=
  match fields with
  | [] => none
  | (known, value) :: rest => if known = name then some value else get? rest name

def has {α : Type} (fields : List (String × α)) (name : String) : Bool := (get? fields name).isSome

def setDefault {α : Type} (fields : List (String × α)) (name : String) (value : α) : List (String × α) :=
  if has fields name then fields else set fields name value

/-- The fields of a list that may name one several times: the last value counts, at the place of the first. -/
def ofPairs {α : Type} (pairs : List (String × α)) : List (String × α) :=
  pairs.foldl (fun fields (name, value) => set fields name value) []

def override {α : Type} (fields patch : List (String × α)) : List (String × α) :=
  patch.foldl (fun fields (name, value) => set fields name value) fields

theorem mem_of_get? {α : Type} {fields : List (String × α)} {name : String} {value : α}
    (found : get? fields name = some value) : (name, value) ∈ fields := by
  induction fields with
  | nil => cases found
  | cons field rest known =>
    simp only [get?] at found
    split at found
    next same =>
      cases found
      simp [← same]
    next => exact List.mem_cons_of_mem _ (known found)

@[simp] theorem get?_set_self {α : Type} (fields : List (String × α)) (name : String) (value : α) :
    get? (set fields name value) name = some value := by
  induction fields with
  | nil => simp [set, get?]
  | cons field rest known =>
    by_cases same : field.1 = name
    · simp [set, same, get?]
    · simp [set, same, get?, known]

theorem get?_set_of_ne {α : Type} (fields : List (String × α)) {name other : String} (value : α)
    (different : name ≠ other) : get? (set fields name value) other = get? fields other := by
  induction fields with
  | nil => simp [set, get?, different]
  | cons field rest known =>
    by_cases same : field.1 = name
    · simp [set, same, get?, different]
    · simp only [set, same, if_false, get?]
      split <;> simp [known]

end Fields

namespace Value

def kind : Value → String
  | null => "NoneType"
  | bool _ => "bool"
  | int _ => "int"
  | float _ => "float"
  | decimal _ => "Decimal"
  | bytes _ => "bytes"
  | text _ => "str"
  | list _ => "list"
  | record _ => "dict"

def isNull : Value → Bool
  | null => true
  | _ => false

/-- Empty and zero values do not hold; every other value does. -/
def holds : Value → Bool
  | null => false
  | bool value => value
  | int value => value != 0
  | float value => !(value == 0.0)
  | decimal (.finite _ coefficient _) => coefficient != 0
  | decimal _ => true
  | bytes value => !value.isEmpty
  | text value => !value.isEmpty
  | list items => !items.isEmpty
  | record fields => !fields.isEmpty

def boolText (value : Bool) : String := if value then "True" else "False"

mutual
def dump : Value → String
  | null => "None"
  | bool value => boolText value
  | int value => toString value
  | float value => Binary.toText value
  | decimal value => "Decimal('" ++ value.toText ++ "')"
  | bytes value => Text.quotedBytes value
  | text value => Text.quoted value
  | list items => "[" ++ ", ".intercalate (dumpItems items) ++ "]"
  | record fields => "\x7b" ++ ", ".intercalate (dumpFields fields) ++ "\x7d"

def dumpItems : List Value → List String
  | [] => []
  | item :: rest => dump item :: dumpItems rest

def dumpFields : List (String × Value) → List String
  | [] => []
  | (name, value) :: rest => (Text.quoted name ++ ": " ++ dump value) :: dumpFields rest
end

/-- A value as text on its own: a text is itself, and everything else is shown as inside another value. -/
def display : Value → String
  | text value => value
  | decimal value => value.toText
  | value => dump value

end Value

end FormQuery
