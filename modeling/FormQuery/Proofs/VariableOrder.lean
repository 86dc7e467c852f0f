import FormQuery.Proofs.LayeredTrees
import FormQuery.Proofs.VariableNames
import FormQuery.Settings

/-! The tree of environment variables. One variable after the other sets a leaf, and that fails just where another leaf
stands on its way. So the order of the variables counts for whether there is a tree, but not for which tree it is. -/

namespace FormQuery.Settings

variable {path other rest front : List String} {name : String} {value : Value}

@[simp] theorem not_isBehind_nil : ¬IsBehind [] other := by
  intro behind
  exact behind.2 (List.prefix_nil.mp behind.1)

@[simp] theorem isBehind_nil : IsBehind path [] ↔ path ≠ [] := by
  simp [IsBehind, eq_comm]

@[simp] theorem isBehind_cons : IsBehind (name :: path) (name :: other) ↔ IsBehind path other := by
  simp [IsBehind]

theorem not_isBehind_cons {first : String} (different : first ≠ name) : ¬IsBehind (name :: path) (first :: other) := by
  intro behind
  exact different (List.cons_prefix_cons.mp behind.1).1

theorem IsBehind.before (behind : IsBehind path other) (inside : front <+: other) : IsBehind path front := by
  refine ⟨inside.trans behind.1, ?_⟩
  intro same
  subst same
  exact behind.2 (behind.1.eq_of_length (Nat.le_antisymm behind.1.length_le inside.length_le))

theorem IsBehind.length_lt (behind : IsBehind path other) : other.length < path.length :=
  Nat.lt_of_le_of_ne behind.1.length_le fun same => behind.2 (behind.1.eq_of_length same)

namespace Layer

/-- A source with a leaf set. Behind the leaf there is nothing, and on the way to it there are sections. -/
def assign (layer : Layer) (path : List String) (value : Value) : Layer := fun other =>
  if other = path then some (.leaf value)
  else if IsBehind other path then none
  else if IsBehind path other then some .branch
  else layer other

/-- Whether a leaf stands on the way to a path. -/
def Blocked (layer : Layer) (path : List String) : Prop :=
  ∃ front value, IsBehind path front ∧ layer front = some (.leaf value)

end Layer

namespace Tree

variable {tree inner further : Tree}

theorem blocked_cons : Layer.Blocked tree.lookup? (name :: path) ↔
    ∃ front value, IsBehind path front ∧ tree.lookup? (name :: front) = some (.leaf value) := by
  constructor
  · intro blocked
    obtain ⟨front, value, behind, leaf⟩ := blocked
    cases front with
    | nil => cases leaf
    | cons first front =>
      by_cases same : first = name
      · subst same
        exact ⟨front, value, isBehind_cons.mp behind, leaf⟩
      · exact absurd behind (not_isBehind_cons same)
  · intro blocked
    obtain ⟨front, value, behind, leaf⟩ := blocked
    exact ⟨name :: front, value, isBehind_cons.mpr behind, leaf⟩

theorem blocked_record (found : Fields.get? tree name = some (.record inner)) :
    Layer.Blocked tree.lookup? (name :: path) ↔ Layer.Blocked inner.lookup? path := by
  rw [blocked_cons]
  simp only [lookup?_record found]
  rfl

theorem not_blocked_missing (missing : Fields.get? tree name = none) : ¬Layer.Blocked tree.lookup? (name :: path) := by
  rw [blocked_cons]
  simp [lookup?_missing missing]

theorem not_blocked_top (tree : Tree) : ¬Layer.Blocked tree.lookup? [name] := by
  rw [blocked_cons]
  simp

theorem assign_section (inside : further.lookup? = Layer.assign inner.lookup? path value) (deep : path ≠ [])
    (there : ∀ rest, rest ≠ [] → tree.lookup? (name :: rest) = inner.lookup? rest) :
    lookup? (Fields.set tree name (.record further)) = Layer.assign tree.lookup? (name :: path) value := by
  funext other
  cases other with
  | nil => simp [lookup?_nil, Layer.assign]
  | cons first rest =>
    by_cases same : first = name
    · subst same
      rw [lookup?_record (Fields.get?_set_self ..), inside, Layer.assign, Layer.assign]
      cases rest with
      | nil => simp [deep, deep.symm]
      | cons second rest => simp [there]
    · rw [lookup?_congr (Fields.get?_set_of_ne tree _ (Ne.symm same)), Layer.assign]
      simp [same, not_isBehind_cons same, not_isBehind_cons (Ne.symm same)]

theorem assign_top (plain : ¬IsSection value) (tree : Tree) :
    lookup? (Fields.set tree name value) = Layer.assign tree.lookup? [name] value := by
  funext other
  cases other with
  | nil => simp [lookup?_nil, Layer.assign]
  | cons first rest =>
    by_cases same : first = name
    · subst same
      rw [lookup?_leaf (Fields.get?_set_self ..) plain, Layer.assign]
      by_cases ends : rest = [] <;> simp [ends]
    · rw [lookup?_congr (Fields.get?_set_of_ne tree _ (Ne.symm same)), Layer.assign]
      simp [same, not_isBehind_cons same, not_isBehind_cons (Ne.symm same)]

theorem insert_into_leaf {below : Value} (found : Fields.get? tree name = some below) (plain : ¬IsSection below)
    (leaf : String) : insert leaf value (name :: rest) tree =
      .error (if rest.isEmpty then .leafNotAssignable else .leafNotSection) := by
  cases below with
  | record inner => exact absurd ⟨inner, rfl⟩ plain
  | _ => simp [insert, found]

/-- A leaf is set unless another one stands on its way. -/
theorem insert_cases (leaf : String) {value : Value} (plain : ¬IsSection value) (sections : List String) (tree : Tree) :
    (¬Layer.Blocked tree.lookup? (sections ++ [leaf]) ∧ ∃ grown, insert leaf value sections tree = .ok grown ∧
        grown.lookup? = Layer.assign tree.lookup? (sections ++ [leaf]) value ∧ (tree.NamesOnce → grown.NamesOnce)) ∨
      (Layer.Blocked tree.lookup? (sections ++ [leaf]) ∧ ∃ fault ∈ [Fault.leafNotAssignable, .leafNotSection],
        insert leaf value sections tree = .error fault) := by
  induction sections generalizing tree with
  | nil =>
    exact .inl ⟨not_blocked_top tree, _, rfl, assign_top plain tree, fun once => once.set_leaf plain⟩
  | cons name rest ih =>
    have deep : rest ++ [leaf] ≠ [] := by simp
    cases found : Fields.get? tree name with
    | none =>
      rcases ih [] with ⟨-, inner, ran, inside, own⟩ | ⟨blocked, -⟩
      · have made : insert leaf value (name :: rest) tree = .ok (Fields.set tree name (.record inner)) := by
          simp [insert, found, ran, Except.map]
        refine .inl ⟨not_blocked_missing found, _, made, ?_, fun once => once.set_section (own .empty)⟩
        refine assign_section inside deep fun rest some_name => ?_
        rw [lookup?_missing found, lookup?_empty, if_neg some_name]
      · obtain ⟨front, value, -, leaf⟩ := blocked
        rw [lookup?_empty] at leaf
        split at leaf <;> cases leaf
    | some below =>
      by_cases branch : IsSection below
      · obtain ⟨own, rfl⟩ := branch
        rcases ih own with ⟨free, inner, ran, inside, still⟩ | ⟨blocked, fault, known, ran⟩
        · have made : insert leaf value (name :: rest) tree = .ok (Fields.set tree name (.record inner)) := by
            simp [insert, found, ran, Except.map]
          refine .inl ⟨fun blocked => free ((blocked_record found).mp blocked), _, made, ?_, ?_⟩
          · exact assign_section inside deep fun rest _ => lookup?_record found rest
          · exact fun once => once.set_section (still (once.section found))
        · exact .inr ⟨(blocked_record found).mpr blocked, fault, known, by simp [insert, found, ran, Except.map]⟩
      · refine .inr ⟨⟨[name], below, isBehind_cons.mpr (isBehind_nil.mpr deep), ?_⟩, _, ?_,
          insert_into_leaf found branch leaf⟩
        · rw [lookup?_leaf found branch, if_pos rfl]
        · split <;> simp

end Tree

variable {settings : List Assignment} {next : Assignment}

theorem inOrder_concat : InOrder (settings ++ [next]) ↔
    InOrder settings ∧ ∀ first ∈ settings, ¬IsBehind next.1 first.1 := by
  simp [InOrder, List.pairwise_append]

theorem mem_of_leaf (leaf : assigned settings path = some (.leaf value)) : ∃ setting ∈ settings, setting.1 = path := by
  rw [assigned] at leaf
  split at leaf
  next => cases leaf
  next =>
    split at leaf
    next text found => exact ⟨(path, text), List.mem_reverse.mp (mem_of_lookup found), rfl⟩
    next => split at leaf <;> cases leaf

theorem leaf_of_mem {setting : Assignment} (member : setting ∈ settings) :
    ∃ front value, front <+: setting.1 ∧ assigned settings front = some (.leaf value) := by
  -- Whatever covers the path is shorter, so the shortest path on the way to it is not covered any more.
  by_cases covered : ∃ other ∈ settings, IsBehind setting.1 other.1
  · obtain ⟨other, also, behind⟩ := covered
    have shorter := behind.length_lt
    obtain ⟨front, value, inside, leaf⟩ := leaf_of_mem also
    exact ⟨front, value, inside.trans behind.1, leaf⟩
  · have known : (settings.reverse.lookup setting.1).isSome = true := by
      rw [← Option.ne_none_iff_isSome, Ne, List.lookup_eq_none_iff]
      intro missing
      simpa using missing setting (List.mem_reverse.mpr member)
    obtain ⟨text, found⟩ := Option.isSome_iff_exists.mp known
    refine ⟨setting.1, .text text, List.prefix_rfl, ?_⟩
    rw [assigned, if_neg covered, found]
termination_by setting.1.length

/-- A path is blocked just where it goes on behind one that is assigned. -/
theorem blocked_assigned : (assigned settings).Blocked path ↔ ∃ setting ∈ settings, IsBehind path setting.1 := by
  constructor
  · intro blocked
    obtain ⟨front, value, behind, leaf⟩ := blocked
    obtain ⟨setting, member, rfl⟩ := mem_of_leaf leaf
    exact ⟨setting, member, behind⟩
  · intro covered
    obtain ⟨setting, member, behind⟩ := covered
    obtain ⟨front, value, inside, leaf⟩ := leaf_of_mem member
    exact ⟨front, value, behind.before inside, leaf⟩

theorem assigned_concat (free : ∀ first ∈ settings, ¬IsBehind next.1 first.1) :
    assigned (settings ++ [next]) = (assigned settings).assign next.1 (.text next.2) := by
  funext path
  have last : (settings ++ [next]).reverse.lookup path =
      if path = next.1 then some next.2 else settings.reverse.lookup path := by
    rw [List.reverse_append, List.reverse_singleton, List.singleton_append, List.lookup_cons]
    by_cases same : path = next.1
    · rw [if_pos same, beq_iff_eq.mpr same]
    · rw [if_neg same, beq_eq_false_iff_ne.mpr same]
  have covered : (∃ setting ∈ settings ++ [next], IsBehind path setting.1) ↔
      (∃ setting ∈ settings, IsBehind path setting.1) ∨ IsBehind path next.1 := by
    simp [or_and_right, exists_or]
  have outer : (∃ setting ∈ settings ++ [next], IsBehind setting.1 path) ↔
      (∃ setting ∈ settings, IsBehind setting.1 path) ∨ IsBehind next.1 path := by
    simp [or_and_right, exists_or]
  rw [assigned, Layer.assign]
  simp only [last, covered, outer]
  by_cases same : path = next.1
  · subst same
    have alone : ¬IsBehind next.1 next.1 := fun behind => behind.2 rfl
    have clear : ¬∃ setting ∈ settings, IsBehind next.1 setting.1 := by simpa using free
    simp [alone, clear]
  by_cases behind : IsBehind path next.1
  · simp [same, behind]
  by_cases before : IsBehind next.1 path
  · have clear : ¬∃ setting ∈ settings, IsBehind path setting.1 := by
      intro also
      obtain ⟨setting, member, further⟩ := also
      exact free setting member (before.before further.1)
    have missing : settings.reverse.lookup path = none := by
      rw [List.lookup_eq_none_iff]
      intro setting member
      rw [bne_iff_ne]
      intro own
      subst own
      exact free setting (List.mem_reverse.mp member) before
    simp [same, behind, before, clear, missing]
  · rw [if_neg same, if_neg same, if_neg behind, if_neg before, assigned]
    simp only [behind, before, or_false]

theorem ofVariables_concat (environment : List (String × String)) (added : String × String) :
    Tree.ofVariables (environment ++ [added]) = (Tree.ofVariables environment).bind fun tree =>
      match Tree.variablePath? added.1 with
      | some (sections, leaf) => Tree.insert leaf (.text added.2) sections tree
      | none => .ok tree := by
  rw [Tree.ofVariables, List.foldlM_append]
  simp only [List.foldlM_cons, List.foldlM_nil, bind_pure]
  rfl

/-- There is a tree of the variables just if they are in order, and then it is what they assign. -/
theorem ofVariables_cases (environment : List (String × String)) :
    (InOrder (assignments environment) ∧ ∃ tree, Tree.ofVariables environment = .ok tree ∧
        tree.lookup? = assigned (assignments environment) ∧ tree.NamesOnce) ∨
      (¬InOrder (assignments environment) ∧ ∃ fault ∈ [Fault.leafNotAssignable, .leafNotSection],
        Tree.ofVariables environment = .error fault) := by
  -- The last variable is set in the tree of those before it, so the induction takes them from the end.
  induction environment using List.reverseRecOn with
  | nil =>
    refine .inl ⟨List.Pairwise.nil, [], rfl, ?_, .empty⟩
    funext path
    rw [Tree.lookup?_empty]
    simp [assignments, assigned]
  | append_singleton environment added ih =>
    rw [ofVariables_concat]
    cases spelled : Tree.variablePath? added.1 with
    | none =>
      have same : assignments (environment ++ [added]) = assignments environment := by
        simp [assignments, assignment?, spelled]
      rw [same]
      rcases ih with ⟨ordered, tree, ran, entries, once⟩ | ⟨disordered, fault, known, ran⟩
      · exact .inl ⟨ordered, tree, by rw [ran]; rfl, entries, once⟩
      · exact .inr ⟨disordered, fault, known, by rw [ran]; rfl⟩
    | some place =>
      obtain ⟨sections, leaf⟩ := place
      have more : assignments (environment ++ [added]) =
          assignments environment ++ [(sections ++ [leaf], added.2)] := by
        simp [assignments, assignment?, spelled]
      rw [more, inOrder_concat]
      rcases ih with ⟨ordered, tree, ran, entries, once⟩ | ⟨disordered, fault, known, ran⟩
      · have plain : ¬Tree.IsSection (.text added.2) := by simp [Tree.IsSection]
        rcases Tree.insert_cases leaf plain sections tree with
          ⟨free, grown, set, grows, still⟩ | ⟨blocked, fault, known, set⟩
        · rw [entries, blocked_assigned] at free
          have clear : ∀ first ∈ assignments environment, ¬IsBehind (sections ++ [leaf]) first.1 := by
            intro first member behind
            exact free ⟨first, member, behind⟩
          refine .inl ⟨⟨ordered, clear⟩, grown, by rw [ran]; exact set, ?_, still once⟩
          rw [grows, entries]
          symm
          exact assigned_concat clear
        · rw [entries, blocked_assigned] at blocked
          obtain ⟨first, member, behind⟩ := blocked
          exact .inr ⟨fun clear => clear.2 first member behind, fault, known, by rw [ran]; exact set⟩
      · exact .inr ⟨fun clear => disordered clear.1, fault, known, by rw [ran]; rfl⟩

theorem lookup?_of_ofVariables {environment : List (String × String)} {tree : Tree}
    (ran : Tree.ofVariables environment = .ok tree) : tree.lookup? = assigned (assignments environment) := by
  rcases ofVariables_cases environment with ⟨-, own, same, entries, -⟩ | ⟨-, fault, -, failed⟩
  · rw [ran] at same
    obtain rfl := Except.ok.inj same
    exact entries
  · rw [ran] at failed
    cases failed

theorem lookup_reverse_eq_some {text : String} (distinct : (settings.map Prod.fst).Nodup) :
    settings.reverse.lookup path = some text ↔ (path, text) ∈ settings := by
  constructor
  · intro found
    exact List.mem_reverse.mp (mem_of_lookup found)
  · intro member
    cases found : settings.reverse.lookup path with
    | none => simpa using List.lookup_eq_none_iff.mp found (path, text) (List.mem_reverse.mpr member)
    | some own =>
      have same := List.inj_on_of_nodup_map distinct (List.mem_reverse.mp (mem_of_lookup found)) member rfl
      rw [(Prod.mk.inj same).2]

/-- What is assigned to different paths comes to the same in every order. -/
theorem assigned_perm {others : List Assignment} (perm : others.Perm settings)
    (distinct : (settings.map Prod.fst).Nodup) : assigned others = assigned settings := by
  have also : (others.map Prod.fst).Nodup := (perm.map Prod.fst).nodup_iff.mpr distinct
  funext path
  have texts : others.reverse.lookup path = settings.reverse.lookup path := by
    ext text
    rw [lookup_reverse_eq_some also, lookup_reverse_eq_some distinct, perm.mem_iff]
  rw [assigned, assigned]
  simp only [perm.mem_iff, texts]

theorem distinct_paths {environment : List (String × String)}
    (names : (environment.map fun added => Text.lower added.1.toList).Nodup) :
    ((assignments environment).map Prod.fst).Nodup := by
  rw [List.Nodup, List.pairwise_map] at names ⊢
  rw [assignments, List.pairwise_filterMap]
  refine names.imp ?_
  intro one other different first here second there same
  obtain ⟨spells, -⟩ := assignment?_eq_some.mp here
  obtain ⟨also, -⟩ := assignment?_eq_some.mp there
  rw [← same] at also
  exact different (lower_eq_of_spells spells also)

def depth (added : String × String) : Nat := ((assignment? added).map fun setting => setting.1.length).getD 0

/-- Variables are in order when those with longer paths come first. -/
theorem exists_inOrder (environment : List (String × String)) :
    ∃ other, other.Perm environment ∧ InOrder (assignments other) := by
  let deeper (one other : String × String) : Bool := depth other ≤ depth one
  refine ⟨environment.mergeSort deeper, List.mergeSort_perm environment deeper, ?_⟩
  have sorted : (environment.mergeSort deeper).Pairwise fun one other => deeper one other := by
    apply List.pairwise_mergeSort
    · intro one other third
      simp only [deeper, decide_eq_true_eq]
      omega
    · intro one other
      simp only [deeper, Bool.or_eq_true, decide_eq_true_eq]
      omega
  rw [InOrder, assignments, List.pairwise_filterMap]
  refine sorted.imp ?_
  intro one other short first here second there behind
  have longer := behind.length_lt
  simp only [deeper, depth, here, there, Option.map_some, Option.getD_some, decide_eq_true_eq] at short
  omega

variable {sources : Sources} {file : Tree}

theorem ofTree_cases (tree : Tree) :
    (∃ settings, ofTree tree = .ok settings) ∨ ∃ report, ofTree tree = .error (.invalid report) := by
  rw [ofTree]
  cases (check (.record tree)).toExcept "FormQLSettings" with
  | ok settings => exact .inl ⟨settings, rfl⟩
  | error report => exact .inr ⟨report, rfl⟩

theorem Sources.tree_of_read (read : sources.fileTree = .ok file) : sources.tree =
    (Tree.ofVariables sources.environment).map fun spelled => Tree.layered file spelled sources.overrides := by
  rw [Sources.tree, read]
  cases Tree.ofVariables sources.environment <;> rfl

/-- Variables give a tree just if the path of none goes on behind the path of one before it, and there is such an order
of them. In any other order loading fails on a leaf, before settings are checked. Orders that give a tree give the same
one, where names differ in more than the case of letters. -/
theorem ofVariables_orders (environment : List (String × String)) :
    ((∃ tree, Tree.ofVariables environment = .ok tree) ↔ InOrder (assignments environment)) ∧
      (∃ other, other.Perm environment ∧ InOrder (assignments other)) ∧
      (∀ sources file, sources.environment = environment → sources.fileTree = .ok file →
        if InOrder (assignments environment) then
          (∃ settings, load sources = .ok settings) ∨ ∃ report, load sources = .error (.invalid report)
        else ∃ fault ∈ [Fault.leafNotAssignable, .leafNotSection], load sources = .error fault) ∧
      ((environment.map fun added => Text.lower added.1.toList).Nodup →
        ∀ other tree again, other.Perm environment → Tree.ofVariables environment = .ok tree →
          Tree.ofVariables other = .ok again → again.lookup? = tree.lookup?) := by
  refine ⟨?_, exists_inOrder environment, ?_, ?_⟩
  · rcases ofVariables_cases environment with ⟨ordered, tree, ran, -⟩ | ⟨disordered, fault, -, ran⟩
    · exact ⟨fun _ => ordered, fun _ => ⟨tree, ran⟩⟩
    · simp [disordered, ran]
  · intro sources file own read
    subst own
    rcases ofVariables_cases sources.environment with ⟨ordered, tree, ran, -⟩ | ⟨disordered, fault, known, ran⟩
    · rw [if_pos ordered, load, Sources.tree_of_read read, ran]
      exact ofTree_cases (Tree.layered file tree sources.overrides)
    · rw [if_neg disordered, load, Sources.tree_of_read read, ran]
      exact ⟨fault, known, rfl⟩
  · intro names other tree again perm ran also
    rw [lookup?_of_ofVariables ran, lookup?_of_ofVariables also]
    exact assigned_perm (perm.filterMap assignment?) (distinct_paths names)

def storageVariables : List (String × String) :=
  [("FORMQL_STORAGE__TABLE", "t"), ("FORMQL_storage__ROW_ID_COLUMN", "key")]

theorem ofVariables_orders_storage : ∃ tree again, Tree.ofVariables storageVariables = .ok tree ∧
    Tree.ofVariables storageVariables.reverse = .ok again ∧ again.lookup? = tree.lookup? ∧
      ((∃ settings, load { environment := storageVariables } = .ok settings) ∨
        ∃ report, load { environment := storageVariables } = .error (.invalid report)) := by
  have ordered : InOrder (assignments storageVariables) := by decide +kernel
  obtain ⟨returns, -, loads, same⟩ := ofVariables_orders storageVariables
  obtain ⟨tree, ran⟩ := returns.mpr ordered
  obtain ⟨again, also⟩ := (ofVariables_orders storageVariables.reverse).1.mpr (by decide +kernel)
  have loaded := loads { environment := storageVariables } [] rfl rfl
  rw [if_pos ordered] at loaded
  exact ⟨tree, again, ran, also, same (by decide +kernel) _ tree again (List.reverse_perm _) ran also, loaded⟩

/-- A leaf that stands before a longer path stops loading, and behind it the same variables give a tree. -/
theorem leaf_before_section :
    load { environment := [("FORMQL_STORAGE__TABLE", "t"), ("FORMQL_STORAGE__TABLE__X", "y")] } =
        .error .leafNotAssignable ∧
      Tree.ofVariables [("FORMQL_STORAGE__TABLE__X", "y"), ("FORMQL_STORAGE__TABLE", "t")] =
        .ok [("storage", .record [("table", .text "t")])] := by
  exact ⟨rfl, rfl⟩

end FormQuery.Settings
