import FormQuery.Proofs.CacheHistory
import FormQuery.Schema.Session

/-! Invalidating again changes nothing that can be seen. Two caches that differ in their generations alone go on alike:
whether a load is kept depends on how far the generation has moved since the load began, and not on where it stood. -/

namespace FormQuery.Schema

variable {τ : Type}

/-- Two loads that give the same, and that are both overtaken or both not. -/
structure Load.Alike (first second : Load τ) : Prop where
  forms : first.forms = second.forms
  finished : first.finished = second.finished
  overtaken : first.invalidations = 0 ↔ second.invalidations = 0

theorem Load.Alike.refl (load : Load τ) : load.Alike load := ⟨rfl, rfl, Iff.rfl⟩

namespace Cache

structure Alike (first second : Cache τ) : Prop where
  lifetime : first.lifetime = second.lifetime
  kept : first.kept = second.kept
  built : first.built = second.built

/-- A second answer of the same kind: only what is reported, and the generation that is left, may differ. -/
structure Lookup.Alike {σ : Type} (first second : Lookup τ σ) : Prop where
  served : first.served = second.served
  cache : first.cache.Alike second.cache
  source : first.source = second.source

namespace Alike

variable {first second : Cache τ} (alike : first.Alike second)

include alike

theorem invalidate : first.invalidate.Alike second.invalidate := ⟨alike.lifetime, rfl, alike.built⟩

/-- Any number of invalidations comes to the same, none apart. -/
theorem invalidated {count other : Nat} (both : count = 0 ↔ other = 0) :
    (first.invalidated count).Alike (second.invalidated other) := by
  constructor
  · rw [invalidated_lifetime, invalidated_lifetime, alike.lifetime]
  · simp only [invalidated_kept, both, alike.kept]
  · rw [invalidated_built, invalidated_built, alike.built]

theorem filled (snapshot : Snapshot) {load other : Load τ} (loads : load.Alike other) :
    (first.filled snapshot load).Alike (second.filled snapshot other) := by
  constructor
  · exact (alike.invalidated loads.overtaken).lifetime
  · simp only [Cache.filled, loads.overtaken, loads.finished, alike.built]
  · simp only [Cache.filled, alike.built]

variable [Clock τ]

theorem stale_iff (now : τ) : first.Stale now ↔ second.Stale now := by
  unfold Stale
  rw [alike.kept, alike.lifetime]

theorem serve (now : τ) {load other : Load τ} (loads : load.Alike other) :
    (first.serve now load).Alike (second.serve now other) ∧
      (load = other → (first.serve now load).logs = (second.serve now other).logs) := by
  obtain ⟨_, same, comes⟩ := first.serve_cases now load
  obtain ⟨_, again, goes⟩ := second.serve_cases now other
  rw [same, again]
  cases comes with
  | kept held young =>
    cases goes with
    | kept other =>
      rw [alike.kept, other] at held
      cases held
      exact ⟨⟨rfl, alike, rfl⟩, fun _ => rfl⟩
    | failed stale | built stale => exact absurd ((alike.stale_iff now).mpr stale) young
  | failed stale ran =>
    rw [loads.forms] at ran
    cases goes with
    | kept _ young => exact absurd ((alike.stale_iff now).mp stale) young
    | failed _ failed =>
      rw [ran] at failed
      cases failed
      exact ⟨⟨rfl, alike.invalidated loads.overtaken, rfl⟩, fun same => by rw [same]⟩
    | built _ built =>
      rw [ran] at built
      cases built
  | built stale ran =>
    rw [loads.forms] at ran
    cases goes with
    | kept _ young => exact absurd ((alike.stale_iff now).mp stale) young
    | failed _ failed =>
      rw [ran] at failed
      cases failed
    | built _ built =>
      rw [ran] at built
      cases built
      exact ⟨⟨by rw [alike.built], alike.filled _ loads, rfl⟩, fun same => by rw [same]⟩

/-- Whatever the source is, both read it at the same time and to the same end. -/
theorem snapshot {σ : Type} (read : σ → Load τ × σ) (now : τ) (source : σ) :
    (first.snapshot read now source).Alike (second.snapshot read now source) ∧
      (first.snapshot read now source).logs = (second.snapshot read now source).logs := by
  obtain ⟨found, reported⟩ := alike.serve now (.refl (read source).1)
  rw [snapshot_eq_serve, snapshot_eq_serve]
  exact ⟨⟨found.served, found.cache, by rw [found.source]⟩, reported rfl⟩

theorem sights (calls : List (Call τ)) : first.sights calls = second.sights calls := by
  induction calls generalizing first second with
  | nil => rfl
  | cons call rest ih =>
    cases call with
    | invalidate => exact congrArg _ (ih alike.invalidate)
    | snapshot now load =>
      obtain ⟨found, reported⟩ := alike.serve now (.refl load)
      have seen : first.sight (.snapshot now load) = second.sight (.snapshot now load) := by
        simp only [sight, found.served, found.source, reported, loaded, found.cache.kept]
      rw [Cache.sights, Cache.sights, seen]
      exact congrArg _ (ih found.cache)

end Alike

end Cache

theorem Source.loads_load (now : τ) (source : Source) : (source.load now).2.loads = source.loads + 1 := by
  unfold Source.load
  cases source.failNext <;> rfl

structure Session.Alike (first second : Session τ) : Prop where
  cache : first.cache.Alike second.cache
  source : first.source = second.source
  now : first.now = second.now

namespace Session.Alike

variable [Clock τ] {first second : Session τ} (alike : first.Alike second)

include alike

theorem lookup : first.lookup.Alike second.lookup ∧ first.lookup.logs = second.lookup.logs := by
  rw [Session.lookup, Session.lookup, alike.now, alike.source]
  exact alike.cache.snapshot ..

theorem step (step : Step τ) :
    (first.step step).Alike (second.step step) ∧ first.sight step = second.sight step := by
  have sources := alike.source
  cases step with
  | snapshot =>
    obtain ⟨found, reported⟩ := alike.lookup
    refine ⟨⟨found.cache, found.source, alike.now⟩, ?_⟩
    simp only [sight, Session.step, Session.snapshot, found.served, found.source, reported, Cache.loaded,
      found.cache.kept]
  | invalidate => exact ⟨⟨alike.cache.invalidate, sources, alike.now⟩, by simp only [sight, Session.step, sources]; rfl⟩
  | replace | failNext | raceNext =>
    refine ⟨⟨alike.cache, by simp only [Session.step, sources], alike.now⟩, ?_⟩
    simp only [sight, Session.step, sources, Cache.loaded, alike.cache.kept]
  | advance span =>
    refine ⟨⟨alike.cache, sources, by simp only [Session.step, alike.now]⟩, ?_⟩
    simp only [sight, Session.step, sources, Cache.loaded, alike.cache.kept]

theorem sights (steps : List (Step τ)) : first.sights steps = second.sights steps := by
  induction steps generalizing first second with
  | nil => rfl
  | cons step rest ih =>
    obtain ⟨still, seen⟩ := alike.step step
    rw [Session.sights, Session.sights, seen, ih still]

end Session.Alike

section Repeated

variable [Clock τ]

theorem Session.loads_of_unloaded (session : Session τ) (unloaded : session.cache.kept = none) :
    (session.step .snapshot).source.loads = session.source.loads + 1 := by
  have stale : session.cache.Stale session.now := by simp [Cache.Stale, unloaded]
  have read (load : Load τ) : (session.cache.serve session.now load).source = 1 := Cache.source_eq_one.mpr stale
  have same : (session.step .snapshot).source = (session.source.load session.now).2 := by
    show session.lookup.source = _
    rw [lookup, Cache.snapshot_eq_serve, read]
    rfl
  rw [same, Source.loads_load]

/-- Invalidating twice, or more often, is invalidating once. Whatever has happened to a session before and whatever
happens to it then, the same is seen: answers with their numbers, failures, reports, how often the source was read, and
whether a snapshot is kept. It is so for every source and for a load that is overtaken as well, and what an invalidation
does is done by the first one: nothing is kept, and the source is read for the next snapshot. -/
theorem Session.sights_invalidated (session : Session τ) :
    (∀ steps, ((session.step .invalidate).step .invalidate).sights steps = (session.step .invalidate).sights steps) ∧
      (∀ count calls, (session.cache.invalidated (count + 1)).sights calls = session.cache.invalidate.sights calls) ∧
      (∀ (now : τ) (load : Load τ) count calls,
        let often := session.cache.serve now { load with invalidations := count + 1 }
        let once := session.cache.serve now { load with invalidations := 1 }
        often.served = once.served ∧ often.source = once.source ∧ often.cache.sights calls = once.cache.sights calls) ∧
      (session.step .invalidate).cache.loaded = false ∧
      ((session.step .invalidate).step .snapshot).source.loads = session.source.loads + 1 := by
  refine ⟨fun steps => ?_, fun count calls => ?_, fun now load count calls => ?_, rfl, ?_⟩
  · have alike : ((session.step .invalidate).step .invalidate).Alike (session.step .invalidate) :=
      ⟨⟨rfl, rfl, rfl⟩, rfl, rfl⟩
    exact alike.sights steps
  · have alike : (session.cache.invalidated (count + 1)).Alike (session.cache.invalidated 1) :=
      Cache.Alike.invalidated ⟨rfl, rfl, rfl⟩ (by simp)
    exact alike.sights calls
  · have loads : ({ load with invalidations := count + 1 } : Load τ).Alike { load with invalidations := 1 } :=
      ⟨rfl, rfl, by simp⟩
    have same : session.cache.Alike session.cache := ⟨rfl, rfl, rfl⟩
    obtain ⟨found, -⟩ := same.serve now loads
    exact ⟨found.served, found.source, found.cache.sights calls⟩
  · exact (session.step .invalidate).loads_of_unloaded rfl

end Repeated

end FormQuery.Schema
