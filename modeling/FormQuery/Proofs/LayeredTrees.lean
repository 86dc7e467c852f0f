import FormQuery.Proofs.FieldNames
import FormQuery.Settings.Tree

/-! Trees laid over each other. Where trees agree on what is a section and what is a leaf, the upper one gives what
stands at its own paths and the lower one what stands at all others, however deep they are. -/

namespace FormQuery.Settings

namespace Layer

variable {one other third : Layer}

/-- A source that agrees with two agrees with both of them together. -/
theorem Agrees.or (agree : one.Agrees third) (also : other.Agrees third) :
    Agrees (fun path => (one path).or (other path)) third := by
  intro path first second here there
  rcases Option.or_eq_some_iff.mp here with known | ⟨-, known⟩
  · exact agree path first second known there
  · exact also path first second known there

end Layer

namespace Tree

variable {tree lower upper inner : Tree} {name : String} {value : Value}

theorem lookup?_nil (tree : Tree) : tree.lookup? [] = some .branch := rfl

theorem lookup?_record (found : Fields.get? tree name = some (.record inner)) (rest : List String) :
    tree.lookup? (name :: rest) = inner.lookup? rest := by
  rw [lookup?, found]

theorem lookup?_missing (missing : Fields.get? tree name = none) (rest : List String) :
    tree.lookup? (name :: rest) = none := by
  rw [lookup?, missing]

/-- Whether a value is a section. -/
def IsSection (value : Value) : Prop := ∃ inner, value = .record inner

theorem lookup?_leaf (found : Fields.get? tree name = some value) (leaf : ¬IsSection value) (rest : List String) :
    tree.lookup? (name :: rest) = if rest = [] then some (.leaf value) else none := by
  rw [lookup?, found]
  cases value with
  | record inner => exact absurd ⟨inner, rfl⟩ leaf
  | _ => rfl

theorem lookup?_empty (path : List String) : lookup? [] path = if path = [] then some .branch else none := by
  cases path <;> rfl

theorem lookup?_congr {other : Tree} (same : Fields.get? tree name = Fields.get? other name) (rest : List String) :
    tree.lookup? (name :: rest) = other.lookup? (name :: rest) := by
  rw [lookup?, lookup?, same]

theorem NamesOnce.empty : NamesOnce [] := .intro List.nodup_nil fun _ _ found => nomatch found

theorem NamesOnce.names (once : tree.NamesOnce) : (tree.map Prod.fst).Nodup := by
  cases once with
  | intro names sections => exact names

theorem NamesOnce.section (once : tree.NamesOnce) (found : Fields.get? tree name = some (.record inner)) :
    NamesOnce inner := by
  cases once with
  | intro names sections => exact sections name inner found

theorem NamesOnce.set (once : tree.NamesOnce) (inside : ∀ inner, value = .record inner → NamesOnce inner) :
    NamesOnce (Fields.set tree name value) := by
  refine .intro (Fields.nodup_set once.names) ?_
  intro other inner found
  by_cases same : name = other
  · subst same
    rw [Fields.get?_set_self] at found
    exact inside inner (Option.some.inj found)
  · rw [Fields.get?_set_of_ne tree value same] at found
    exact once.section found

theorem NamesOnce.set_section (once : tree.NamesOnce) (own : inner.NamesOnce) :
    NamesOnce (Fields.set tree name (.record inner)) := by
  refine once.set fun other same => ?_
  obtain rfl := Value.record.inj same
  exact own

theorem NamesOnce.set_leaf (once : tree.NamesOnce) (leaf : ¬IsSection value) :
    NamesOnce (Fields.set tree name value) :=
  once.set fun inner same => absurd ⟨inner, same⟩ leaf

/-- The upper tree counts at each of its names. -/
theorem get?_overlay (lower : Tree) (distinct : (upper.map Prod.fst).Nodup) (name : String) :
    Fields.get? (overlay lower upper) name = match Fields.get? upper name with
      | some value => some (overlayValue (Fields.get? lower name) value)
      | none => Fields.get? lower name := by
  induction upper generalizing lower with
  | nil => rfl
  | cons field rest ih =>
    obtain ⟨own, value⟩ := field
    rw [List.map_cons, List.nodup_cons] at distinct
    rw [overlay, ih _ distinct.2]
    by_cases same : own = name
    · subst same
      have missing : Fields.get? rest own = none := by
        cases found : Fields.get? rest own with
        | none => rfl
        | some other => exact absurd (List.mem_map_of_mem (f := Prod.fst) (Fields.mem_of_get? found)) distinct.1
      simp [Fields.get?, missing]
    · simp [Fields.get?, same, Fields.get?_set_of_ne]

theorem isLeaf_of_get? (found : Fields.get? tree name = some value) :
    ∃ entry, tree.lookup? [name] = some entry ∧ (entry.isLeaf = false ↔ IsSection value) := by
  by_cases branch : IsSection value
  · obtain ⟨inner, rfl⟩ := branch
    exact ⟨.branch, lookup?_record found [], by simp [Entry.isLeaf, IsSection]⟩
  · exact ⟨.leaf value, lookup?_leaf found branch [], by simp [Entry.isLeaf, branch]⟩

/-- Trees agree when at each name that both have there are leaves, or sections that agree. -/
theorem agrees_iff : Layer.Agrees lower.lookup? upper.lookup? ↔
    ∀ name below above, Fields.get? lower name = some below → Fields.get? upper name = some above →
      (IsSection below ↔ IsSection above) ∧
        ∀ own inner, below = .record own → above = .record inner → Layer.Agrees (lookup? own) (lookup? inner) := by
  constructor
  · intro agree name below above inLower inUpper
    constructor
    · obtain ⟨first, here, branch⟩ := isLeaf_of_get? inLower
      obtain ⟨second, there, other⟩ := isLeaf_of_get? inUpper
      rw [← branch, ← other, agree [name] first second here there]
    · intro own inner isOwn isInner path first second here there
      subst isOwn isInner
      rw [← lookup?_record inLower] at here
      rw [← lookup?_record inUpper] at there
      exact agree (name :: path) first second here there
  · intro agree path first second here there
    cases path with
    | nil =>
      obtain rfl := Option.some.inj here
      obtain rfl := Option.some.inj there
      rfl
    | cons name rest =>
      cases inLower : Fields.get? lower name with
      | none =>
        rw [lookup?_missing inLower] at here
        cases here
      | some below =>
        cases inUpper : Fields.get? upper name with
        | none =>
          rw [lookup?_missing inUpper] at there
          cases there
        | some above =>
          obtain ⟨kinds, inside⟩ := agree name below above inLower inUpper
          by_cases branch : IsSection below
          · obtain ⟨inner, rfl⟩ := kinds.mp branch
            obtain ⟨own, rfl⟩ := branch
            rw [lookup?_record inLower] at here
            rw [lookup?_record inUpper] at there
            exact inside own inner rfl rfl rest first second here there
          · rw [lookup?_leaf inLower branch] at here
            rw [lookup?_leaf inUpper fun other => branch (kinds.mpr other)] at there
            split at here
            next ends =>
              rw [if_pos ends] at there
              obtain rfl := Option.some.inj here
              obtain rfl := Option.some.inj there
              rfl
            next => cases here

theorem agrees_of_leaves (plain : ∀ field ∈ lower, ¬IsSection field.2) (also : ∀ field ∈ upper, ¬IsSection field.2) :
    Layer.Agrees lower.lookup? upper.lookup? := by
  refine agrees_iff.mpr fun name below above inLower inUpper => ?_
  have leaf := plain (name, below) (Fields.mem_of_get? inLower)
  refine ⟨iff_of_false leaf (also (name, above) (Fields.mem_of_get? inUpper)), ?_⟩
  intro own inner isOwn
  exact absurd ⟨own, isOwn⟩ leaf

theorem agrees_of_section {own : Tree} (inside : Layer.Agrees own.lookup? inner.lookup?) :
    Layer.Agrees (lookup? [(name, .record own)]) (lookup? [(name, .record inner)]) := by
  refine agrees_iff.mpr fun other below above inLower inUpper => ?_
  obtain ⟨-, rfl⟩ : name = other ∧ .record own = below := by simpa [Fields.get?] using inLower
  obtain ⟨-, rfl⟩ : name = other ∧ .record inner = above := by simpa [Fields.get?] using inUpper
  refine ⟨⟨fun _ => ⟨inner, rfl⟩, fun _ => ⟨own, rfl⟩⟩, ?_⟩
  intro first second isFirst isSecond
  obtain rfl := Value.record.inj isFirst
  obtain rfl := Value.record.inj isSecond
  exact inside

/-- What an upper tree gives counts, and elsewhere the lower one does. -/
theorem lookup?_overlay (once : upper.NamesOnce) (agree : lower.lookup?.Agrees upper.lookup?) (path : List String) :
    (overlay lower upper).lookup? path = (upper.lookup? path).or (lower.lookup? path) := by
  induction path generalizing lower upper with
  | nil => rfl
  | cons name rest ih =>
    have found := get?_overlay lower once.names name
    cases inUpper : Fields.get? upper name with
    | none =>
      rw [inUpper] at found
      rw [lookup?_congr found, lookup?_missing inUpper, Option.none_or]
    | some value =>
      simp only [inUpper] at found
      by_cases branch : IsSection value
      · obtain ⟨inner, rfl⟩ := branch
        -- A section over a section is joined, so the rest of the path meets two trees that agree again.
        cases inLower : Fields.get? lower name with
        | none =>
          rw [inLower] at found
          rw [lookup?_record found, lookup?_record inUpper, lookup?_missing inLower, Option.or_none]
        | some below =>
          obtain ⟨kinds, inside⟩ := agrees_iff.mp agree name below (.record inner) inLower inUpper
          obtain ⟨own, rfl⟩ := kinds.mpr ⟨inner, rfl⟩
          rw [inLower] at found
          rw [lookup?_record found, lookup?_record inUpper, lookup?_record inLower,
            ih (once.section inUpper) (inside own inner rfl rfl)]
      · have kept (below : Option Value) : overlayValue below value = value := by
          cases value with
          | record inner => exact absurd ⟨inner, rfl⟩ branch
          | _ => rfl
        rw [kept] at found
        rw [lookup?_leaf found branch, lookup?_leaf inUpper branch]
        split
        next => rfl
        next deep =>
          cases inLower : Fields.get? lower name with
          | none => rw [lookup?_missing inLower, Option.none_or]
          | some below =>
            have leaf : ¬IsSection below := fun other =>
              branch ((agrees_iff.mp agree name below value inLower inUpper).1.mp other)
            rw [lookup?_leaf inLower leaf, if_neg deep, Option.none_or]

end Tree

end FormQuery.Settings
