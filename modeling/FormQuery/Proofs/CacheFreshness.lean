import FormQuery.Proofs.CacheHistory
import Mathlib.Algebra.Order.Group.Defs
import Mathlib.Algebra.Order.Sub.Basic
import Mathlib.Data.Rat.Lemmas
import Mathlib.Algebra.Order.Ring.Rat

/-! How long a cache serves a snapshot. A clock that does not go back settles it: what has reached its lifetime is never
served again, even if it cannot be loaded anew, and until then, or until an invalidation, every call is served the same. -/

namespace FormQuery.Schema

/-- A clock on which a span that was reached stays reached. -/
class SteadyClock (τ : Type) [Preorder τ] [Clock τ] : Prop where
  reached_mono : ∀ {since now later span : τ}, now ≤ later → Clock.reached since now span = true →
    Clock.reached since later span = true

section Exact

variable {τ : Type} [AddCommGroup τ] [LinearOrder τ]

instance : Clock τ := ⟨fun now span => now + span, fun since now span => decide (span ≤ now - since)⟩

instance [IsOrderedAddMonoid τ] : SteadyClock τ where
  reached_mono {since now later span} ordered reached := by
    have passed : span ≤ now - since := of_decide_eq_true reached
    have longer : now - since ≤ later - since := sub_le_sub_right ordered since
    exact decide_eq_true (passed.trans longer)

end Exact

namespace Cache

variable {τ : Type} [Clock τ]

theorem after_lifetime (cache : Cache τ) (call : Call τ) : (cache.after call).lifetime = cache.lifetime := by
  cases call with
  | invalidate => rfl
  | snapshot now load =>
    obtain ⟨lookup, same, comes⟩ := cache.serve_cases now load
    rw [after, same]
    cases comes with
    | kept held young => rfl
    | failed stale ran | built stale ran => exact invalidated_lifetime cache load.invalidations

theorem run_lifetime (cache : Cache τ) (calls : List (Call τ)) : (cache.run calls).lifetime = cache.lifetime := by
  induction calls generalizing cache with
  | nil => rfl
  | cons call calls ih => exact (ih (cache.after call)).trans (cache.after_lifetime call)

theorem stale_iff {cache : Cache τ} {now : τ} : cache.Stale now ↔
    cache.kept = none ∨ ∃ kept ∈ cache.kept, ∃ span ∈ cache.lifetime, Clock.reached kept.loadedAt now span = true := by
  unfold Stale
  cases cache.kept <;> simp

theorem Stale.invalidated {cache : Cache τ} {now : τ} (stale : cache.Stale now) (count : Nat) :
    (cache.invalidated count).Stale now := by
  intro kept held
  rw [invalidated_kept] at held
  rw [invalidated_lifetime]
  split at held
  · exact stale kept held
  · cases held

/-- Wherever a snapshot is still kept, it is as old as its load, and its number is not given away again. -/
def Dated (served : Served) (finished : τ) (cache : Cache τ) : Prop :=
  served.number < cache.built ∧ ∀ kept ∈ cache.kept, kept.served = served → kept.loadedAt = finished

theorem Builds.dated {cache : Cache τ} {now : τ} {load : Load τ} {served : Served}
    (builds : cache.Builds now load served) : (cache.serve now load).cache.Dated served load.finished := by
  rw [builds.cache_eq.2]
  refine ⟨Nat.lt_succ_of_le (Nat.le_of_eq builds.cache_eq.1), ?_⟩
  intro kept held _
  simp only [filled, Option.mem_def] at held
  split at held
  · cases held
    rfl
  · cases held

theorem Dated.after {cache : Cache τ} {served : Served} {finished : τ} (dated : cache.Dated served finished)
    (call : Call τ) : (cache.after call).Dated served finished := by
  have numbers : cache.built ≤ (cache.after call).built := by
    cases call with
    | invalidate => exact Nat.le_refl _
    | snapshot now load =>
      obtain ⟨lookup, same, comes⟩ := cache.serve_cases now load
      rw [Cache.after, same]
      cases comes with
      | kept held young => exact Nat.le_refl _
      | failed stale ran => exact Nat.le_of_eq (invalidated_built cache load.invalidations).symm
      | built stale ran => exact Nat.le_succ _
  refine ⟨Nat.lt_of_lt_of_le dated.1 numbers, ?_⟩
  intro kept held same
  rcases kept_after held with ⟨before, _⟩ | ⟨now, load, _, builds, _, _⟩
  · exact dated.2 kept before same
  · have number := builds.cache_eq.1
    rw [same] at number
    exact absurd dated.1 (Nat.not_lt_of_le (Nat.le_of_eq number.symm))

theorem Dated.run {cache : Cache τ} {served : Served} {finished : τ} (dated : cache.Dated served finished)
    (calls : List (Call τ)) : (cache.run calls).Dated served finished := by
  induction calls generalizing cache with
  | nil => exact dated
  | cons call calls ih => exact ih (dated.after call)

variable [Preorder τ] [SteadyClock τ]

theorem Stale.mono {cache : Cache τ} {now later : τ} (stale : cache.Stale now) (ordered : now ≤ later) :
    cache.Stale later := by
  intro kept held
  obtain ⟨span, limited, reached⟩ := stale kept held
  exact ⟨span, limited, SteadyClock.reached_mono ordered reached⟩

theorem Dated.young {cache : Cache τ} {served : Served} {finished now : τ} {load : Load τ}
    (dated : cache.Dated served finished) (answer : (cache.serve now load).served = .ok served) {moment : τ}
    (passed : moment ≤ now) {span : τ} (limited : span ∈ cache.lifetime) :
    ¬Clock.reached finished moment span = true := by
  intro reached
  rcases served_cases answer with ⟨kept, held, same, young⟩ | builds
  · apply young
    intro other held'
    obtain rfl : kept = other := Option.some.inj (held.symm.trans held')
    rw [dated.2 kept held same]
    exact ⟨span, limited, SteadyClock.reached_mono passed reached⟩
  · exact absurd dated.1 (Nat.not_lt_of_le (Nat.le_of_eq builds.cache_eq.1.symm))

theorem run_young {cache : Cache τ} {calls : List (Call τ)} {next : τ}
    (passed : ∀ moment ∈ calls.flatMap Call.moments, moment ≤ next) (quiet : cache.Undisturbed calls)
    (young : ¬cache.Stale next) : cache.run calls = cache := by
  induction calls with
  | nil => rfl
  | cons call calls ih =>
    obtain ⟨silent, quiet⟩ := quiet
    have same : cache.after call = cache := by
      cases call with
      | invalidate => cases silent
      | snapshot now load =>
        have early : now ≤ next := passed now (by simp [Call.moments])
        obtain ⟨lookup, same, comes⟩ := cache.serve_cases now load
        rw [after, same]
        cases comes with
        | kept => rfl
        | failed stale | built stale => exact absurd (stale.mono early) young
    have rest : ∀ moment ∈ calls.flatMap Call.moments, moment ≤ next := by
      intro moment member
      apply passed
      rw [List.flatMap_cons]
      exact List.mem_append_right _ member
    rw [same] at quiet
    calc cache.run (call :: calls) = (cache.after call).run calls := rfl
      _ = cache := by rw [same, ih rest quiet]

/-- A load that fails changes nothing but what is invalidated meanwhile, so the next call has to load as well. -/
theorem retries_after_failure {cache : Cache τ} {now : τ} {load : Load τ} {fault : Fault}
    (read : (cache.serve now load).source = 1) (failed : load.forms.bind Snapshot.ofForms = .error fault) :
    (cache.serve now load).served = .error fault ∧
      (cache.serve now load).cache = cache.invalidated load.invalidations ∧
      ∀ next ≥ now, ∀ count other, (((cache.serve now load).cache.invalidated count).serve next other).source = 1 := by
  have stale := source_eq_one.mp read
  obtain ⟨lookup, same, comes⟩ := cache.serve_cases now load
  rw [same]
  cases comes with
  | kept held young => exact absurd stale young
  | built _ ran => rw [failed] at ran; cases ran
  | failed _ ran =>
    rw [failed] at ran
    cases ran
    refine ⟨rfl, rfl, ?_⟩
    intro next later count other
    exact source_eq_one.mpr (((stale.mono later).invalidated load.invalidations).invalidated count)

theorem serves_again {cache : Cache τ} {now : τ} {load : Load τ} {served : Served}
    (builds : cache.Builds now load served) (quiet : load.invalidations = 0) {later : List (Call τ)} {next : τ}
    (passed : ∀ moment ∈ later.flatMap Call.moments, moment ≤ next)
    (undisturbed : (cache.serve now load).cache.Undisturbed later)
    (young : ∀ span ∈ cache.lifetime, ¬Clock.reached load.finished next span = true) (other : Load τ) :
    (((cache.serve now load).cache.run later).serve next other).served = .ok served ∧
      (((cache.serve now load).cache.run later).serve next other).source = 0 := by
  have number := builds.cache_eq.1
  rw [builds.cache_eq.2] at undisturbed ⊢
  have held : (cache.filled served.snapshot load).kept = some ⟨served, load.finished⟩ := by
    rw [filled, if_pos quiet, ← number]
  have fresh : ¬(cache.filled served.snapshot load).Stale next := by
    intro stale
    obtain ⟨span, limited, reached⟩ := stale _ held
    exact young span (invalidated_lifetime cache load.invalidations ▸ limited) reached
  rw [run_young passed undisturbed fresh]
  obtain ⟨lookup, same, comes⟩ := (cache.filled served.snapshot load).serve_cases next other
  rw [same]
  cases comes with
  | kept again =>
    rw [held] at again
    cases again
    exact ⟨rfl, rfl⟩
  | failed stale | built stale => exact absurd stale fresh

/-- A cache after any calls, on a clock that does not go back. A call reads the source once if nothing is kept or what
is kept has reached its lifetime, and else not at all; what is kept is as old as the load that it comes from. A snapshot
that a call of the past has built is not served once it has reached its lifetime, whatever loading anew would give. A
load that fails ends the call and leaves the cache as it was, but for what is invalidated meanwhile, and the next call
reads the source as well. A load that succeeds and is not overtaken gives the one snapshot of all later calls, until an
invalidation or the end of its lifetime. -/
theorem served_until_expiry (lifetime : Option τ) (calls : List (Call τ)) (now : τ) (load : Load τ) :
    let cache := (start lifetime).run calls
    let lookup := cache.serve now load
    (lookup.source ≤ 1 ∧
        (lookup.source = 1 ↔ cache.kept = none ∨
          ∃ kept ∈ cache.kept, ∃ span ∈ lifetime, Clock.reached kept.loadedAt now span = true) ∧
        ∀ kept ∈ cache.kept, ∃ read, Origin lifetime calls read kept.served ∧ read.finished = kept.loadedAt) ∧
      (∀ earlier before read later served, calls = earlier ++ .snapshot before read :: later →
        ((start lifetime).run earlier).Builds before read served →
        ∀ moment ≤ now, ∀ span ∈ lifetime, Clock.reached read.finished moment span = true →
          lookup.served ≠ .ok served) ∧
      (∀ fault, lookup.source = 1 → load.forms.bind Snapshot.ofForms = .error fault →
        lookup.served = .error fault ∧ lookup.cache = cache.invalidated load.invalidations ∧
          ∀ next ≥ now, ∀ count other, ((lookup.cache.invalidated count).serve next other).source = 1) ∧
      ∀ served, cache.Builds now load served → load.invalidations = 0 →
        ∀ later next, (∀ moment ∈ later.flatMap Call.moments, moment ≤ next) → lookup.cache.Undisturbed later →
          (∀ span ∈ lifetime, ¬Clock.reached load.finished next span = true) →
          ∀ other, ((lookup.cache.run later).serve next other).served = .ok served ∧
            ((lookup.cache.run later).serve next other).source = 0 := by
  intro cache lookup
  have limited : cache.lifetime = lifetime := run_lifetime (start lifetime) calls
  refine ⟨⟨source_le_one cache now load, ?_, ?_⟩, ?_, ?_, ?_⟩
  · rw [← limited]
    exact source_eq_one.trans stale_iff
  · intro kept held
    exact origin_of_kept held
  · intro earlier before read later served past builds moment passed span within reached answer
    have dated : cache.Dated served read.finished := by
      have whole : cache = (((start lifetime).run earlier).serve before read).cache.run later := by
        simp only [cache, past, run_append]
        rfl
      rw [whole]
      exact builds.dated.run later
    exact dated.young answer passed (limited ▸ within) reached
  · intro fault read failed
    exact retries_after_failure read failed
  · intro served builds quiet later next passed undisturbed young other
    exact serves_again builds quiet passed undisturbed (limited ▸ young) other

/-- A snapshot expires and cannot be loaded anew: it stays where it was, but no call serves it. -/
theorem served_until_expiry_failure :
    let calls : List (Call ℚ) :=
      [.snapshot 100 ⟨.ok [], 101, 0, []⟩, .snapshot 112 ⟨.error .noFirst, 112, 0, []⟩]
    let lookup := ((start (some 10)).run calls).serve 113 ⟨.error .noFirst, 114, 0, []⟩
    lookup.source = 1 ∧ lookup.served ≠ .ok ⟨⟨[]⟩, 0⟩ ∧ lookup.served = .error .noFirst ∧
      lookup.cache = (start (some 10)).run calls ∧
      ∀ next ≥ 113, ∀ count other, ((lookup.cache.invalidated count).serve next other).source = 1 := by
  intro calls lookup
  obtain ⟨⟨_, reads, _⟩, old, fails, _⟩ :=
    served_until_expiry (some 10) calls 113 ⟨.error .noFirst, 114, 0, []⟩
  have builds : ((start (some 10)).run ([] : List (Call ℚ))).Builds 100 ⟨.ok [], 101, 0, []⟩ ⟨⟨[]⟩, 0⟩ := ⟨rfl, rfl, rfl⟩
  have reached : Clock.reached (101 : ℚ) 113 10 = true := by decide +kernel
  have read : lookup.source = 1 := by decide +kernel
  obtain ⟨fault, same, again⟩ := fails .noFirst read rfl
  refine ⟨read, ?_, fault, same, again⟩
  exact old [] 100 _ _ _ rfl builds 113 (le_refl _) 10 rfl reached

end Cache

end FormQuery.Schema
