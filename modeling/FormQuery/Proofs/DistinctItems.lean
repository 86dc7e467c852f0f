import Mathlib.Data.List.Basic
import Mathlib.Data.List.Induction
import Mathlib.Data.List.Nodup

/-! Items of lists: the different ones, in order of appearance, the one with a key that no other has, and the first and
the last one of a kind. -/

namespace FormQuery

section Distinct

variable {α β γ : Type} [BEq α] [LawfulBEq α] [BEq β] [LawfulBEq β]

theorem eraseDups_concat_of_mem {items : List α} {item : α} (known : item ∈ items) :
    (items ++ [item]).eraseDups = items.eraseDups := by
  rw [List.eraseDups_append]
  simp [List.removeAll, known]

theorem eraseDups_concat_of_not_mem {items : List α} {item : α} (unknown : item ∉ items) :
    (items ++ [item]).eraseDups = items.eraseDups ++ [item] := by
  rw [List.eraseDups_append]
  simp [List.removeAll, unknown, List.eraseDups_cons]

theorem length_eraseDups_congr {items : List γ} {view : γ → α} {other : γ → β}
    (same : ∀ first ∈ items, ∀ second ∈ items, view first = view second ↔ other first = other second) :
    (items.map view).eraseDups.length = (items.map other).eraseDups.length := by
  induction items using List.reverseRecOn with
  | nil => rfl
  | append_singleton items item ih =>
    have inner := ih fun first one second two => same first (by simp [one]) second (by simp [two])
    rw [List.map_append, List.map_append, List.map_singleton, List.map_singleton]
    by_cases known : ∃ earlier ∈ items, view earlier = view item
    · obtain ⟨earlier, member, alike⟩ := known
      have alike' := (same earlier (by simp [member]) item (by simp)).mp alike
      rw [eraseDups_concat_of_mem (List.mem_map.mpr ⟨earlier, member, alike⟩),
        eraseDups_concat_of_mem (List.mem_map.mpr ⟨earlier, member, alike'⟩), inner]
    · have unknown : ¬∃ earlier ∈ items, other earlier = other item := by
        rintro ⟨earlier, member, alike⟩
        exact known ⟨earlier, member, (same earlier (by simp [member]) item (by simp)).mpr alike⟩
      rw [← List.mem_map] at known unknown
      rw [eraseDups_concat_of_not_mem known, eraseDups_concat_of_not_mem unknown, List.length_append,
        List.length_append, inner]
      rfl

theorem nodup_eraseDups (items : List α) : items.eraseDups.Nodup := by
  induction items using List.reverseRecOn with
  | nil => exact List.nodup_nil
  | append_singleton items item ih =>
    by_cases known : item ∈ items
    · rwa [eraseDups_concat_of_mem known]
    · rw [eraseDups_concat_of_not_mem known, List.nodup_append]
      refine ⟨ih, by simp, fun earlier member last own same => known ?_⟩
      rw [List.mem_singleton.mp own] at same
      exact same ▸ List.mem_eraseDups.mp member

/-- A view that tells items apart has as its different results those of the different items. -/
theorem eraseDups_map {view : α → β} {items : List α}
    (apart : ∀ first ∈ items, ∀ second ∈ items, view first = view second → first = second) :
    (items.map view).eraseDups = items.eraseDups.map view := by
  induction items using List.reverseRecOn with
  | nil => rfl
  | append_singleton items item ih =>
    have inner := ih fun first one second two => apart first (by simp [one]) second (by simp [two])
    rw [List.map_append, List.map_singleton]
    by_cases known : item ∈ items
    · rw [eraseDups_concat_of_mem (List.mem_map_of_mem known), eraseDups_concat_of_mem known, inner]
    · have unknown : view item ∉ items.map view := fun member => by
        obtain ⟨earlier, inside, alike⟩ := List.mem_map.mp member
        exact known (apart earlier (by simp [inside]) item (by simp) alike ▸ inside)
      rw [eraseDups_concat_of_not_mem unknown, eraseDups_concat_of_not_mem known, inner, List.map_append,
        List.map_singleton]

end Distinct

theorem find?_key_eq_some {α κ : Type} [DecidableEq κ] {view : α → κ} {items : List α}
    (distinct : (items.map view).Nodup) {key : κ} {item : α} :
    items.find? (view · = key) = some item ↔ item ∈ items ∧ view item = key := by
  constructor
  · intro found
    exact ⟨List.mem_of_find?_eq_some found, by simpa using List.find?_some found⟩
  · intro ⟨member, own⟩
    obtain ⟨other, found⟩ : ∃ other, items.find? (view · = key) = some other :=
      Option.isSome_iff_exists.mp (List.find?_isSome.mpr ⟨item, member, by simpa using own⟩)
    have alike : view other = view item := by simpa [own] using List.find?_some found
    rw [found, List.inj_on_of_nodup_map distinct (List.mem_of_find?_eq_some found) member alike]

theorem find?_map_eq_some_iff {α β : Type} {items : List α} {passes : α → Bool} {view : α → β} {result : β} :
    (items.find? passes).map view = some result ↔ ∃ before item behind, items = before ++ item :: behind ∧
      view item = result ∧ passes item = true ∧ ∀ earlier ∈ before, ¬passes earlier = true := by
  rw [Option.map_eq_some_iff]
  constructor
  · intro ⟨item, found, shown⟩
    obtain ⟨passed, before, behind, rfl, others⟩ := List.find?_eq_some_iff_append.mp found
    exact ⟨before, item, behind, rfl, shown, passed, by simpa using others⟩
  · intro ⟨before, item, behind, parts, shown, passed, others⟩
    exact ⟨item, List.find?_eq_some_iff_append.mpr ⟨passed, before, behind, parts, by simpa using others⟩, shown⟩

/-- What a list maps to last comes from the last item that is mapped. -/
theorem exists_last_of_filterMap {α β : Type} {f : α → Option β} {items : List α} {last : β}
    (found : (items.filterMap f).getLast? = some last) : ∃ before item behind,
      items = before ++ item :: behind ∧ f item = some last ∧ ∀ later ∈ behind, f later = none := by
  induction items using List.reverseRecOn with
  | nil => cases found
  | append_singleton items item ih =>
    rw [List.filterMap_append] at found
    cases mapped : f item with
    | none =>
      obtain ⟨before, own, behind, rfl, same, others⟩ := ih (by simpa [mapped] using found)
      refine ⟨before, own, behind ++ [item], by simp, same, ?_⟩
      simpa [or_imp, forall_and, mapped] using others
    | some result =>
      obtain rfl : result = last := by simpa [mapped] using found
      exact ⟨items, item, [], rfl, mapped, by simp⟩

end FormQuery
