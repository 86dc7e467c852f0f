/-! Runs that may fail. A run in steps succeeds when every step does; over a list, when it does for every item. -/

namespace FormQuery

universe u v w x

variable {ε : Type u} {α : Type v} {β : Type v}

theorem ok_of_bind {first : Except ε α} {next : α → Except ε β} {result : β}
    (ran : (first >>= next) = .ok result) : ∃ value, first = .ok value ∧ next value = .ok result := by
  cases first with
  | error fault => cases ran
  | ok value => exact ⟨value, rfl, ran⟩

theorem bind_ok {first : Except ε α} {value : α} (ran : first = .ok value) (next : α → Except ε β) :
    (first >>= next) = next value := by
  rw [ran]
  rfl

theorem bind_succeeds {first : Except ε α} {next : α → Except ε β} (some_value : ∃ value, first = .ok value)
    (resume : ∀ value, ∃ result, next value = .ok result) : ∃ result, (first >>= next) = .ok result := by
  obtain ⟨value, ran⟩ := some_value
  rw [bind_ok ran]
  exact resume value

theorem ok_of_map {first : Except ε α} {f : α → β} {result : β} (ran : first.map f = .ok result) :
    ∃ value, first = .ok value ∧ f value = result := by
  cases first with
  | error fault => cases ran
  | ok value => exact ⟨value, rfl, Except.ok.inj ran⟩

/-- Whether a run succeeds with a result that passes a test. -/
def passes (test : α → Bool) : Except ε α → Bool
  | .ok result => test result
  | .error _ => false

theorem ok_of_passes {run : Except ε α} {test : α → Bool} (passed : passes test run = true) :
    ∃ result, run = .ok result ∧ test result = true := by
  cases run with
  | ok result => exact ⟨result, rfl, passed⟩
  | error fault => cases passed

/-- A run over a list gives one result to each item. -/
theorem mapM_eq_ok {α : Type w} {f : α → Except ε β} {items : List α} {results : List β} :
    items.mapM f = .ok results ↔ items.map f = results.map .ok := by
  induction items generalizing results with
  | nil => cases results <;> simp [pure, Except.pure]
  | cons item items ih =>
    rw [List.mapM_cons]
    constructor
    · intro ran
      obtain ⟨value, first, ran⟩ := ok_of_bind ran
      obtain ⟨rest, others, ran⟩ := ok_of_bind ran
      cases ran
      rw [List.map_cons, List.map_cons, first, ih.mp others]
    · intro same
      cases results with
      | nil => cases same
      | cons value rest =>
        rw [List.map_cons, List.map_cons, List.cons.injEq] at same
        rw [bind_ok same.1, bind_ok (ih.mpr same.2)]
        rfl

theorem length_of_mapM {α : Type w} {f : α → Except ε β} {items : List α} {results : List β}
    (ran : items.mapM f = .ok results) : results.length = items.length := by
  have same := congrArg List.length (mapM_eq_ok.mp ran)
  simpa using same.symm

theorem mem_of_mapM {α : Type w} {f : α → Except ε β} {items : List α} {results : List β}
    (ran : items.mapM f = .ok results) {result : β} (member : result ∈ results) :
    ∃ item ∈ items, f item = .ok result := by
  have inside : Except.ok result ∈ items.map f := by
    rw [mapM_eq_ok.mp ran]
    exact List.mem_map_of_mem member
  exact List.mem_map.mp inside

theorem mapM_succeeds {α : Type w} {f : α → Except ε β} {items : List α}
    (each : ∀ item ∈ items, ∃ result, f item = .ok result) : ∃ results, items.mapM f = .ok results := by
  induction items with
  | nil => exact ⟨[], rfl⟩
  | cons item items ih =>
    obtain ⟨value, first⟩ := each item (by simp)
    obtain ⟨rest, others⟩ := ih fun item member => each item (by simp [member])
    exact ⟨value :: rest, by rw [List.mapM_cons, bind_ok first, bind_ok others]; rfl⟩

theorem mapM_of_subset {α : Type w} {f : α → Except ε β} {items others : List α} {results : List β}
    (ran : items.mapM f = .ok results) (subset : ∀ item ∈ others, item ∈ items) :
    ∃ results, others.mapM f = .ok results := by
  refine mapM_succeeds fun item member => ?_
  have inside := List.mem_map_of_mem (f := f) (subset item member)
  rw [mapM_eq_ok.mp ran] at inside
  obtain ⟨result, -, same⟩ := List.mem_map.mp inside
  exact ⟨result, same.symm⟩

/-- A run of checks succeeds when each of them does. -/
theorem forM_eq_ok {α : Type w} {check : α → Except ε PUnit} {items : List α} :
    items.forM check = .ok ⟨⟩ ↔ ∀ item ∈ items, check item = .ok ⟨⟩ := by
  induction items with
  | nil => exact ⟨fun _ => nofun, fun _ => rfl⟩
  | cons item items ih =>
    rw [List.forall_mem_cons, ← ih]
    constructor
    · intro ran
      obtain ⟨⟨⟩, first, rest⟩ := ok_of_bind ran
      exact ⟨first, rest⟩
    · intro ⟨first, rest⟩
      exact (bind_ok first _).trans rest

theorem map_of_mapM {α : Type w} {γ : Type x} {f : α → Except ε β} {view : β → γ} {g : α → γ} {items : List α}
    {results : List β} (ran : items.mapM f = .ok results)
    (each : ∀ item ∈ items, ∀ result, f item = .ok result → view result = g item) : results.map view = items.map g := by
  induction items generalizing results with
  | nil =>
    cases ran
    rfl
  | cons item items ih =>
    rw [List.mapM_cons] at ran
    obtain ⟨result, first, ran⟩ := ok_of_bind ran
    obtain ⟨rest, others, ran⟩ := ok_of_bind ran
    cases ran
    rw [List.map_cons, List.map_cons, each item (by simp) result first,
      ih others fun item member => each item (by simp [member])]

theorem eq_map_of_mapM {α : Type w} {f : α → Except ε β} {g : α → β} {items : List α} {results : List β}
    (ran : items.mapM f = .ok results) (each : ∀ item ∈ items, ∀ result, f item = .ok result → result = g item) :
    results = items.map g := by
  have same : results.map id = items.map g := map_of_mapM ran each
  simpa using same

section TwoRuns

variable {γ δ : Type v}

/-- Two runs that look alike go on alike. -/
theorem bind_alike {view : α → γ} {last : β → δ} {first second : Except ε α}
    {next other : α → Except ε β} (same : first.map view = second.map view)
    (resume : ∀ left right, view left = view right → (next left).map last = (other right).map last) :
    (first >>= next).map last = (second >>= other).map last := by
  cases first with
  | error fault =>
    cases second with
    | error other =>
      cases same
      rfl
    | ok value => cases same
  | ok left =>
    cases second with
    | error fault => cases same
    | ok right => exact resume left right (Except.ok.inj same)

theorem mapM_alike {α : Type w} {f : α → Except ε β} {view : β → γ} {change : α → α} {items : List α}
    (each : ∀ item ∈ items, (f item).map view = (f (change item)).map view) :
    (items.mapM f).map (List.map view) = ((items.map change).mapM f).map (List.map view) := by
  induction items with
  | nil => rfl
  | cons item items ih =>
    rw [List.map_cons, List.mapM_cons, List.mapM_cons]
    refine bind_alike (each item (by simp)) fun left right first => ?_
    refine bind_alike (ih fun item member => each item (by simp [member])) fun lefts rights rest => ?_
    simp [pure, Except.pure, Except.map, first, rest]

end TwoRuns

end FormQuery
