import FormQuery.Fault
import FormQuery.Text.Case

/-! Trees of settings. Settings come from several places, each of which gives a tree; a later tree is laid over an
earlier one leaf by leaf. Environment variables spell a path in their names. What a source gives is told path by path: a
section, a leaf, or nothing. -/

namespace FormQuery.Settings

/-- A tree: sections are records, and everything else is a leaf. -/
abbrev Tree := Fields

namespace Tree

mutual
/-- Lays a tree over another. Sections that both have are joined, and else the upper tree counts. -/
def overlay (lower : Tree) : Tree → Tree
  | [] => lower
  | (name, value) :: rest => overlay (Fields.set lower name (overlayValue (Fields.get? lower name) value)) rest

def overlayValue (lower? : Option Value) : Value → Value
  | .record upper => match lower? with
    | some (.record lower) => .record (overlay lower upper)
    | _ => .record upper
  | value => value
end

def variableMark : List Char := "FORMQL_".toList

def configVariable : String := "FORMQL_CONFIG"

def nameParts : List Char → List Char → List (List Char)
  | part, [] => [part.reverse]
  | part, '_' :: '_' :: rest => part.reverse :: nameParts [] rest
  | part, c :: rest => nameParts (c :: part) rest

/-- The sections and the leaf that a variable sets, in small letters. -/
def variablePath? (name : String) : Option (List String × String) :=
  if name = configVariable || !variableMark.isPrefixOf name.toList then none
  else
    let parts := (nameParts [] (name.toList.drop variableMark.length)).map fun part => String.ofList (Text.lower part)
    match parts.reverse with
    | leaf :: first :: sections => some ((first :: sections).reverse, leaf)
    | _ => none

/-- Sets a leaf. The sections on the way to it are made where they are missing, but a leaf is no section. -/
def insert (leaf : String) (value : Value) : List String → Tree → Except Fault Tree
  | [], tree => .ok (Fields.set tree leaf value)
  | name :: rest, tree =>
    match Fields.get? tree name with
    | none => (insert leaf value rest []).map fun inner => Fields.set tree name (.record inner)
    | some (.record inner) => (insert leaf value rest inner).map fun inner => Fields.set tree name (.record inner)
    | some _ => .error (if rest.isEmpty then .leafNotAssignable else .leafNotSection)

def ofVariables (environment : List (String × String)) : Except Fault Tree :=
  environment.foldlM (fun tree (name, value) =>
    match variablePath? name with
    | some (sections, leaf) => insert leaf (.text value) sections tree
    | none => .ok tree) []

end Tree

inductive Entry where
  | branch
  | leaf (value : Value)

def Entry.isLeaf : Entry → Bool
  | branch => false
  | leaf _ => true

abbrev Layer := List String → Option Entry

/-- Nothing is a section in one source and a leaf in the other. -/
def Layer.Agrees (one other : Layer) : Prop :=
  ∀ path first second, one path = some first → other path = some second → first.isLeaf = second.isLeaf

namespace Tree

def lookup? (tree : Tree) : Layer
  | [] => some .branch
  | name :: rest =>
    match Fields.get? tree name with
    | some (.record inner) => lookup? inner rest
    | some value => if rest = [] then some (.leaf value) else none
    | none => none

inductive NamesOnce : Tree → Prop
  | intro {tree : Tree} (names : (tree.map Prod.fst).Nodup)
      (sections : ∀ name inner, Fields.get? tree name = some (.record inner) → NamesOnce inner) : NamesOnce tree

def layered (file spelled overrides : Tree) : Tree := overlay (overlay (overlay [] file) spelled) overrides

end Tree

abbrev Assignment := List String × String

def assignment? : String × String → Option Assignment
  | (name, text) => (Tree.variablePath? name).map fun (sections, leaf) => (sections ++ [leaf], text)

def assignments (environment : List (String × String)) : List Assignment := environment.filterMap assignment?

def IsBehind (path other : List String) : Prop := other <+: path ∧ other ≠ path

instance (path other : List String) : Decidable (IsBehind path other) := inferInstanceAs (Decidable (_ ∧ _))

/-- No path goes on behind one that was assigned before. -/
def InOrder (settings : List Assignment) : Prop := settings.Pairwise fun first next => ¬IsBehind next.1 first.1

instance (settings : List Assignment) : Decidable (InOrder settings) := inferInstanceAs (Decidable (List.Pairwise _ _))

/-- No path is assigned twice, and none goes on behind another one. -/
def Apart (settings : List Assignment) : Prop :=
  settings.Pairwise fun one other => ¬one.1 <+: other.1 ∧ ¬other.1 <+: one.1

instance (settings : List Assignment) : Decidable (Apart settings) := inferInstanceAs (Decidable (List.Pairwise _ _))

/-- What assignments come to, one after the other. A later one to the same path counts, and one to a section takes the
place of all that is in it. -/
def assigned (settings : List Assignment) : Layer := fun path =>
  if ∃ setting ∈ settings, IsBehind path setting.1 then none
  else match settings.reverse.lookup path with
    | some text => some (.leaf (.text text))
    | none => if path = [] ∨ ∃ setting ∈ settings, IsBehind setting.1 path then some .branch else none

end FormQuery.Settings
