import FormQuery.Proofs.TomlTrees
import FormQuery.Proofs.VariableOrder
import Mathlib.Data.List.Pairwise

/-! Which source settles a setting. Where the sources agree on what is a section, every leaf is the one of the caller,
or else of the environment, or else of the configuration file, and there are no other leaves. -/

namespace FormQuery.Settings

variable {settings : List Assignment} {path : List String} {value : Value}

theorem Apart.inOrder (apart : Apart settings) : InOrder settings :=
  apart.imp fun other behind => other.1 behind.1

theorem Apart.distinct (apart : Apart settings) : (settings.map Prod.fst).Nodup := by
  rw [List.Nodup, List.pairwise_map]
  refine apart.imp ?_
  intro one other either same
  exact either.1 (same ▸ List.prefix_rfl)

theorem Apart.not_isBehind (apart : Apart settings) {one other : Assignment} (first : one ∈ settings)
    (second : other ∈ settings) : ¬IsBehind one.1 other.1 := by
  intro behind
  have different : other ≠ one := fun same => behind.2 (congrArg Prod.fst same)
  have symmetric : Std.Symm fun one other : Assignment => ¬one.1 <+: other.1 ∧ ¬other.1 <+: one.1 :=
    ⟨fun _ _ => And.symm⟩
  exact (List.Pairwise.forall apart second first different).1 behind.1

theorem assigned_leaf (apart : Apart settings) :
    assigned settings path = some (.leaf value) ↔ ∃ text, (path, text) ∈ settings ∧ value = .text text := by
  constructor
  · intro leaf
    rw [assigned] at leaf
    split at leaf
    next => cases leaf
    split at leaf
    next text found =>
      obtain rfl := Entry.leaf.inj (Option.some.inj leaf)
      exact ⟨text, (lookup_reverse_eq_some apart.distinct).mp found, rfl⟩
    next => split at leaf <;> cases leaf
  · intro given
    obtain ⟨text, member, rfl⟩ := given
    have clear : ¬∃ setting ∈ settings, IsBehind path setting.1 := by
      intro covered
      obtain ⟨setting, also, behind⟩ := covered
      exact apart.not_isBehind member also behind
    rw [assigned, if_neg clear, (lookup_reverse_eq_some apart.distinct).mpr member]

theorem Sources.fileTree_once {sources : Sources} {file : Tree} (read : sources.fileTree = .ok file) :
    file.NamesOnce := by
  rw [Sources.fileTree] at read
  split at read
  next => exact Toml.read_once read
  next => cases read
  next =>
    split at read
    next => cases read
    next =>
      obtain rfl := Except.ok.inj read
      exact .empty

theorem lookup?_layered {file spelled overrides : Tree} (once : file.NamesOnce) (spelledOnce : spelled.NamesOnce)
    (overridesOnce : overrides.NamesOnce) (fileVariables : file.lookup?.Agrees spelled.lookup?)
    (fileOverrides : file.lookup?.Agrees overrides.lookup?)
    (variablesOverrides : spelled.lookup?.Agrees overrides.lookup?)
    (path : List String) : (Tree.layered file spelled overrides).lookup? path =
      (overrides.lookup? path).or ((spelled.lookup? path).or (file.lookup? path)) := by
  have empty : Layer.Agrees (Tree.lookup? []) file.lookup? := by
    refine Tree.agrees_iff.mpr fun name below above missing => ?_
    cases missing
  have first : (Tree.overlay [] file).lookup? = file.lookup? := by
    funext path
    rw [Tree.lookup?_overlay once empty, Tree.lookup?_empty]
    split
    next top =>
      subst top
      rfl
    next => rw [Option.or_none]
  have second : (Tree.overlay (Tree.overlay [] file) spelled).lookup? =
      fun path => (spelled.lookup? path).or (file.lookup? path) := by
    funext path
    rw [Tree.lookup?_overlay spelledOnce (first ▸ fileVariables), first]
  rw [Tree.layered, Tree.lookup?_overlay overridesOnce (second ▸ variablesOverrides.or fileOverrides), second]

/-- Settings are those of the caller, then those of the environment, then those of the file, leaf by leaf. A leaf that
is laid over takes nothing beside it away. -/
theorem tree_layered {file overrides : Tree} {environment : List (String × String)} (once : file.NamesOnce)
    (overridesOnce : overrides.NamesOnce) (apart : Apart (assignments environment))
    (fileVariables : file.lookup?.Agrees (assigned (assignments environment)))
    (fileOverrides : file.lookup?.Agrees overrides.lookup?)
    (variablesOverrides : (assigned (assignments environment)).Agrees overrides.lookup?) :
    (∀ path value, assigned (assignments environment) path = some (.leaf value) ↔
        ∃ name text, (name, text) ∈ environment ∧ SpellsPath name path ∧ value = .text text) ∧
      ∃ tree : Tree, (∀ path, tree.lookup? path =
          (overrides.lookup? path).or ((assigned (assignments environment) path).or (file.lookup? path))) ∧
        ∀ sources : Sources, sources.fileTree = .ok file → sources.environment = environment →
          sources.overrides = overrides → sources.tree = .ok tree ∧ load sources = ofTree tree := by
  constructor
  · intro path value
    rw [assigned_leaf apart]
    constructor
    · intro given
      obtain ⟨text, member, same⟩ := given
      obtain ⟨name, inside, spells⟩ := mem_assignments.mp member
      exact ⟨name, text, inside, spells, same⟩
    · intro given
      obtain ⟨name, text, inside, spells, same⟩ := given
      exact ⟨text, mem_assignments.mpr ⟨name, inside, spells⟩, same⟩
  · rcases ofVariables_cases environment with ⟨-, spelled, ran, entries, spelledOnce⟩ | ⟨disordered, -⟩
    · rw [← entries] at fileVariables variablesOverrides ⊢
      have layers := lookup?_layered once spelledOnce overridesOnce fileVariables fileOverrides variablesOverrides
      refine ⟨Tree.layered file spelled overrides, layers, ?_⟩
      intro sources read same given
      subst same given
      have known : sources.tree = .ok (Tree.layered file spelled sources.overrides) := by
        rw [Sources.tree_of_read read, ran]
        rfl
      refine ⟨known, ?_⟩
      rw [load, known]
      rfl
    · exact absurd apart.inOrder disordered

def storageSources : Sources where
  files := [("formql.toml", "[storage]\ntable = 'a'\ndocument_column = 'b'\npartition_column = 'c'\n")]
  environment := [("FORMQL_STORAGE__TABLE", "d"), ("FORMQL_Storage__Document_Column", "e")]
  overrides := [("storage", .record [("table", .text "f")])]

/-- The caller settles the first column, the environment the second one and the file the third one. -/
theorem tree_layered_storage : ∃ tree, storageSources.tree = .ok tree ∧
    tree.lookup? ["storage", "table"] = some (.leaf (.text "f")) ∧
    tree.lookup? ["storage", "document_column"] = some (.leaf (.text "e")) ∧
    tree.lookup? ["storage", "partition_column"] = some (.leaf (.text "c")) ∧
    tree.lookup? ["storage", "row_id_column"] = none := by
  have read : storageSources.fileTree = .ok [("storage",
      .record [("table", .text "a"), ("document_column", .text "b"), ("partition_column", .text "c")])] := rfl
  have ran : Tree.ofVariables storageSources.environment =
      .ok [("storage", .record [("table", .text "d"), ("document_column", .text "e")])] := rfl
  have entries := lookup?_of_ofVariables ran
  have overridesOnce : storageSources.overrides.NamesOnce := by
    show Tree.NamesOnce (Fields.set [] "storage" (.record (Fields.set [] "table" (.text "f"))))
    exact Tree.NamesOnce.empty.set_section (Tree.NamesOnce.empty.set_leaf (by simp [Tree.IsSection]))
  have apart : Apart (assignments storageSources.environment) := by decide +kernel
  obtain ⟨-, tree, known, from_sources⟩ := tree_layered (Sources.fileTree_once read) overridesOnce apart
    (entries ▸ Tree.agrees_of_section (Tree.agrees_of_leaves (by simp [Tree.IsSection]) (by simp [Tree.IsSection])))
    (Tree.agrees_of_section (Tree.agrees_of_leaves (by simp [Tree.IsSection]) (by simp [Tree.IsSection])))
    (entries ▸ Tree.agrees_of_section (Tree.agrees_of_leaves (by simp [Tree.IsSection]) (by simp [Tree.IsSection])))
  rw [← entries] at known
  exact ⟨tree, (from_sources storageSources read rfl rfl).1, known _, known _, known _, known _⟩

end FormQuery.Settings
