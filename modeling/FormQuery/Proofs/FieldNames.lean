import FormQuery.Proofs.DistinctItems
import FormQuery.Value
import Mathlib.Data.List.Nodup

/-! Fields whose names are distinct. Setting a field keeps them distinct, and it changes one place or adds one behind
all others. -/

namespace FormQuery

namespace Fields

variable {α : Type} {fields pairs : List (String × α)} {name : String} {value : α}

theorem get?_of_mem (member : name ∈ fields.map Prod.fst) : ∃ value, get? fields name = some value := by
  induction fields with
  | nil => cases member
  | cons field rest ih =>
    by_cases same : field.1 = name
    · exact ⟨field.2, by simp [get?, same]⟩
    · obtain own | later := List.mem_cons.mp member
      · exact absurd own.symm same
      · obtain ⟨value, found⟩ := ih later
        exact ⟨value, by simp [get?, same, found]⟩

theorem exists_get?_iff : (∃ value, get? fields name = some value) ↔ name ∈ fields.map Prod.fst :=
  ⟨fun ⟨_, found⟩ => List.mem_map_of_mem (mem_of_get? found), get?_of_mem⟩

theorem get?_of_nodup (distinct : (fields.map Prod.fst).Nodup) (member : (name, value) ∈ fields) :
    get? fields name = some value := by
  obtain ⟨other, found⟩ := get?_of_mem (List.mem_map_of_mem (f := Prod.fst) member)
  have same : (name, other) = (name, value) := List.inj_on_of_nodup_map distinct (mem_of_get? found) member rfl
  rw [found, (Prod.mk.inj same).2]

theorem mem_set {field : String × α} (member : field ∈ set fields name value) :
    field ∈ fields ∨ field = (name, value) := by
  induction fields with
  | nil => exact .inr (List.mem_singleton.mp member)
  | cons first rest ih =>
    rw [set] at member
    split at member
    next same =>
      obtain own | behind := List.mem_cons.mp member
      · exact .inr (by rw [own, same])
      · exact .inl (List.mem_cons_of_mem _ behind)
    next =>
      obtain own | behind := List.mem_cons.mp member
      · exact .inl (own ▸ List.mem_cons_self)
      · exact (ih behind).imp_left (List.mem_cons_of_mem _)

theorem set_of_mem (known : name ∈ fields.map Prod.fst) (distinct : (fields.map Prod.fst).Nodup) :
    set fields name value = fields.map fun field => if field.1 = name then (name, value) else field := by
  induction fields with
  | nil => cases known
  | cons first rest ih =>
    rw [List.map_cons, List.nodup_cons] at distinct
    rw [set, List.map_cons]
    split
    next same =>
      have others : rest.map (fun field => if field.1 = name then (name, value) else field) = rest.map id := by
        apply List.map_congr_left
        intro field member
        have other : field.1 ≠ name := by
          intro twice
          apply distinct.1
          rw [same, ← twice]
          exact List.mem_map_of_mem member
        rw [if_neg other, id]
      rw [others, same, List.map_id]
    next different =>
      have later : name ∈ rest.map Prod.fst := by
        rw [List.map_cons, List.mem_cons] at known
        exact known.resolve_left fun same => different same.symm
      rw [ih later distinct.2]

theorem set_of_not_mem (unknown : name ∉ fields.map Prod.fst) : set fields name value = fields ++ [(name, value)] := by
  induction fields with
  | nil => rfl
  | cons first rest ih =>
    rw [List.map_cons, List.mem_cons, not_or] at unknown
    rw [set, if_neg fun same => unknown.1 same.symm, ih unknown.2, List.cons_append]

theorem nodup_set (distinct : (fields.map Prod.fst).Nodup) : ((set fields name value).map Prod.fst).Nodup := by
  by_cases known : name ∈ fields.map Prod.fst
  · have names : (set fields name value).map Prod.fst = fields.map Prod.fst := by
      rw [set_of_mem known distinct, List.map_map]
      apply List.map_congr_left
      intro field member
      by_cases same : field.1 = name <;> simp [same]
    rwa [names]
  · rw [set_of_not_mem known, List.map_append, List.map_cons, List.map_nil, List.nodup_append]
    refine ⟨distinct, List.nodup_singleton _, ?_⟩
    intro first member second last same
    rw [same, List.mem_singleton.mp last] at member
    exact known member

theorem ofPairs_fields (pairs : List (String × α)) :
    ((ofPairs pairs).map Prod.fst).Nodup ∧ ∀ field ∈ ofPairs pairs, field ∈ pairs := by
  have step (done : List (String × α)) (distinct : (done.map Prod.fst).Nodup) :
      ((pairs.foldl (fun fields pair => set fields pair.1 pair.2) done).map Prod.fst).Nodup ∧
        ∀ field ∈ pairs.foldl (fun fields pair => set fields pair.1 pair.2) done,
          field ∈ done ∨ field ∈ pairs := by
    induction pairs generalizing done with
    | nil => exact ⟨distinct, fun field => .inl⟩
    | cons pair pairs ih =>
      obtain ⟨still, known⟩ := ih (set done pair.1 pair.2) (nodup_set distinct)
      refine ⟨still, ?_⟩
      intro field member
      obtain early | late := known field member
      · obtain before | own := mem_set early
        · exact .inl before
        · exact .inr (own ▸ List.mem_cons_self)
      · exact .inr (List.mem_cons_of_mem _ late)
  obtain ⟨distinct, known⟩ := step [] List.nodup_nil
  exact ⟨distinct, fun field member => (known field member).resolve_left List.not_mem_nil⟩

/-- What is kept under keys of its own stays under them. -/
theorem keyed_ofPairs (key : α → String) (items : List α) :
    ∀ field ∈ ofPairs (items.map fun item => (key item, item)), field.1 = key field.2 := by
  intro field member
  obtain ⟨item, -, rfl⟩ := List.mem_map.mp ((ofPairs_fields _).2 field member)
  rfl

theorem ofPairs_of_nodup (distinct : (pairs.map Prod.fst).Nodup) : ofPairs pairs = pairs := by
  have step (done : List (String × α)) (all : ((done ++ pairs).map Prod.fst).Nodup) :
      pairs.foldl (fun fields pair => set fields pair.1 pair.2) done = done ++ pairs := by
    induction pairs generalizing done with
    | nil => simp
    | cons pair pairs ih =>
      obtain ⟨name, value⟩ := pair
      have new : name ∉ done.map Prod.fst := by
        intro member
        rw [List.map_append, List.nodup_append] at all
        exact all.2.2 _ member _ List.mem_cons_self rfl
      have shape : done ++ (name, value) :: pairs = done ++ [(name, value)] ++ pairs := by simp
      rw [List.map_cons, List.nodup_cons] at distinct
      simp only [List.foldl_cons, set_of_not_mem new]
      rw [shape] at all ⊢
      exact ih distinct.2 _ all
  exact step [] distinct

theorem ofPairs_concat (pairs : List (String × α)) (pair : String × α) :
    ofPairs (pairs ++ [pair]) = set (ofPairs pairs) pair.1 pair.2 :=
  List.foldl_append

/-- A name has its place where the pairs have it first. -/
theorem names_ofPairs (pairs : List (String × α)) :
    (ofPairs pairs).map Prod.fst = (pairs.map Prod.fst).eraseDups := by
  induction pairs using List.reverseRecOn with
  | nil => rfl
  | append_singleton pairs pair ih =>
    rw [ofPairs_concat, List.map_append, List.map_singleton]
    by_cases known : pair.1 ∈ (ofPairs pairs).map Prod.fst
    · have early : pair.1 ∈ pairs.map Prod.fst := by rwa [ih, List.mem_eraseDups] at known
      rw [set_of_mem known (ofPairs_fields pairs).1, eraseDups_concat_of_mem early, ← ih, List.map_map]
      refine List.map_congr_left fun field _ => ?_
      by_cases same : field.1 = pair.1 <;> simp [same]
    · have unknown : pair.1 ∉ pairs.map Prod.fst := by rwa [ih, List.mem_eraseDups] at known
      rw [set_of_not_mem known, eraseDups_concat_of_not_mem unknown, List.map_append, ih]
      rfl

/-- A name has the value that the last pair with this name has. -/
theorem get?_ofPairs (pairs : List (String × α)) (name : String) :
    get? (ofPairs pairs) name = (pairs.filter fun pair => pair.1 = name).getLast?.map Prod.snd := by
  induction pairs using List.reverseRecOn with
  | nil => rfl
  | append_singleton pairs pair ih =>
    rw [ofPairs_concat, List.filter_append]
    by_cases same : pair.1 = name
    · simp [same]
    · simp [same, get?_set_of_ne, ih]

end Fields

end FormQuery
