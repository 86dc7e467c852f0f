import FormQuery.Schema.Session
import Mathlib.Data.List.Induction

/-! Where the snapshots of a cache come from. Each one that a cache keeps was built by a call in its past, and nothing
was invalidated since the load of that call began. Numbers of snapshots only grow, so a number that a call of the past
gave away and that is not kept is never seen again. -/

namespace FormQuery.Schema

namespace Cache

variable {τ : Type}

theorem invalidated_generation (cache : Cache τ) (count : Nat) :
    (cache.invalidated count).generation = cache.generation + count := by
  induction count generalizing cache with
  | zero => rfl
  | succ count ih =>
    rw [invalidated, ih]
    exact Nat.add_right_comm cache.generation 1 count

theorem invalidated_built (cache : Cache τ) (count : Nat) : (cache.invalidated count).built = cache.built := by
  induction count generalizing cache with
  | zero => rfl
  | succ count ih => exact ih cache.invalidate

theorem invalidated_lifetime (cache : Cache τ) (count : Nat) :
    (cache.invalidated count).lifetime = cache.lifetime := by
  induction count generalizing cache with
  | zero => rfl
  | succ count ih => exact ih cache.invalidate

theorem invalidated_kept (cache : Cache τ) (count : Nat) :
    (cache.invalidated count).kept = if count = 0 then cache.kept else none := by
  induction count generalizing cache with
  | zero => rfl
  | succ count ih =>
    rw [invalidated, ih, if_neg (Nat.succ_ne_zero count)]
    split <;> rfl

variable [Clock τ]

def Stale (cache : Cache τ) (now : τ) : Prop :=
  ∀ kept ∈ cache.kept, ∃ span ∈ cache.lifetime, Clock.reached kept.loadedAt now span = true

theorem expired_eq_true {cache : Cache τ} {now : τ} {kept : Kept τ} :
    cache.expired now kept = true ↔ ∃ span ∈ cache.lifetime, Clock.reached kept.loadedAt now span = true := by
  unfold expired
  cases cache.lifetime <;> simp

theorem fresh?_eq_none {cache : Cache τ} {now : τ} : cache.fresh? now = none ↔ cache.Stale now := by
  unfold fresh? Stale
  cases cache.kept with
  | none => simp
  | some kept =>
    simp only [Option.mem_some_iff, forall_eq', ← expired_eq_true]
    split
    next old => exact ⟨fun _ => old, fun _ => rfl⟩
    next young => exact ⟨fun none => (by cases none), fun old => absurd old young⟩

theorem fresh?_eq_some {cache : Cache τ} {now : τ} {served : Served} (found : cache.fresh? now = some served) :
    ∃ kept, cache.kept = some kept ∧ kept.served = served ∧ ¬cache.Stale now := by
  have young : ¬cache.Stale now := by
    intro stale
    rw [fresh?_eq_none.mpr stale] at found
    cases found
  unfold fresh? at found
  split at found
  next => cases found
  next kept held =>
    split at found
    next => cases found
    next =>
      cases found
      exact ⟨kept, held, rfl, young⟩

def filled (cache : Cache τ) (snapshot : Snapshot) (load : Load τ) : Cache τ :=
  { cache.invalidated load.invalidations with
    kept := if load.invalidations = 0 then some ⟨⟨snapshot, cache.built⟩, load.finished⟩ else none
    built := cache.built + 1 }

/-- All that a call for a snapshot can come to. -/
inductive Comes (cache : Cache τ) (now : τ) (load : Load τ) : Lookup τ Nat → Prop
  | kept {kept : Kept τ} (held : cache.kept = some kept) (young : ¬cache.Stale now) :
      Comes cache now load ⟨.ok kept.served, cache, 0, []⟩
  | failed {fault : Fault} (stale : cache.Stale now) (ran : load.forms.bind Snapshot.ofForms = .error fault) :
      Comes cache now load
        ⟨.error fault, cache.invalidated load.invalidations, 1,
          load.logs ++ List.replicate load.invalidations invalidationLog⟩
  | built {snapshot : Snapshot} (stale : cache.Stale now)
      (ran : load.forms.bind Snapshot.ofForms = .ok snapshot) :
      Comes cache now load
        ⟨.ok ⟨snapshot, cache.built⟩, cache.filled snapshot load, 1,
          load.logs ++ List.replicate load.invalidations invalidationLog ++ [loadLog snapshot]⟩

theorem serve_cases (cache : Cache τ) (now : τ) (load : Load τ) :
    ∃ lookup, cache.serve now load = lookup ∧ Comes cache now load lookup := by
  cases found : cache.fresh? now with
  | some served =>
    obtain ⟨kept, held, rfl, young⟩ := fresh?_eq_some found
    refine ⟨_, ?_, .kept held young⟩
    simp only [serve, snapshot, found]
  | none =>
    have stale := fresh?_eq_none.mp found
    have answer : cache.serve now load = cache.finish cache.generation load 1 := by
      simp only [serve, snapshot, found, Nat.zero_add]
    rw [answer, finish]
    cases ran : load.forms.bind Snapshot.ofForms with
    | error fault => exact ⟨_, rfl, .failed stale ran⟩
    | ok read =>
      refine ⟨_, ?_, .built stale ran⟩
      -- The generation is the one that the load began in exactly when nothing was invalidated.
      have same : (cache.invalidated load.invalidations).generation = cache.generation ↔ load.invalidations = 0 := by
        rw [invalidated_generation]
        omega
      simp only [filled, invalidated_kept, invalidated_built, same]
      split <;> rfl

theorem source_le_one (cache : Cache τ) (now : τ) (load : Load τ) : (cache.serve now load).source ≤ 1 := by
  obtain ⟨lookup, same, comes⟩ := cache.serve_cases now load
  rw [same]
  cases comes with
  | kept | failed | built => simp

theorem source_eq_one {cache : Cache τ} {now : τ} {load : Load τ} :
    (cache.serve now load).source = 1 ↔ cache.Stale now := by
  obtain ⟨lookup, same, comes⟩ := cache.serve_cases now load
  rw [same]
  cases comes with
  | kept held young => exact ⟨fun (read : 0 = 1) => absurd read Nat.zero_ne_one, fun stale => absurd stale young⟩
  | failed stale ran => exact ⟨fun _ => stale, fun _ => rfl⟩
  | built stale ran => exact ⟨fun _ => stale, fun _ => rfl⟩

theorem Builds.cache_eq {cache : Cache τ} {now : τ} {load : Load τ} {served : Served}
    (builds : cache.Builds now load served) :
    served.number = cache.built ∧ (cache.serve now load).cache = cache.filled served.snapshot load := by
  obtain ⟨read, forms, answer⟩ := builds
  obtain ⟨lookup, same, comes⟩ := cache.serve_cases now load
  rw [same] at read answer ⊢
  cases comes with
  | kept held young => cases read
  | failed stale ran => cases answer
  | built stale ran =>
    cases answer
    exact ⟨rfl, rfl⟩

theorem served_cases {cache : Cache τ} {now : τ} {load : Load τ} {served : Served}
    (answer : (cache.serve now load).served = .ok served) :
    (∃ kept, cache.kept = some kept ∧ kept.served = served ∧ ¬cache.Stale now) ∨ cache.Builds now load served := by
  obtain ⟨lookup, same, comes⟩ := cache.serve_cases now load
  have answered := answer
  rw [same] at answered
  cases comes with
  | kept held young =>
    cases answered
    exact Or.inl ⟨_, held, rfl, young⟩
  | failed stale ran => cases answered
  | built stale ran =>
    cases answered
    exact Or.inr ⟨source_eq_one.mpr stale, ran, answer⟩

theorem kept_after {cache : Cache τ} {call : Call τ} {kept : Kept τ} (held : (cache.after call).kept = some kept) :
    (cache.kept = some kept ∧ cache.invalidations call = 0) ∨
      ∃ now load, call = .snapshot now load ∧ cache.Builds now load kept.served ∧ load.invalidations = 0 ∧
        load.finished = kept.loadedAt := by
  cases call with
  | invalidate => cases held
  | snapshot now load =>
    obtain ⟨lookup, same, comes⟩ := cache.serve_cases now load
    have source := congrArg Lookup.source same
    have answer := congrArg Lookup.served same
    rw [after, same] at held
    rw [invalidations, same]
    cases comes with
    | kept other young => exact Or.inl ⟨held, Nat.zero_mul _⟩
    | failed stale ran =>
      rw [invalidated_kept] at held
      split at held
      next quiet => exact Or.inl ⟨held, by rw [quiet, Nat.mul_zero]⟩
      next => cases held
    | built stale ran =>
      simp only [filled] at held
      split at held
      next quiet =>
        cases held
        exact Or.inr ⟨now, load, rfl, ⟨source, ran, answer⟩, quiet, rfl⟩
      next => cases held

theorem run_append (cache : Cache τ) (calls more : List (Call τ)) :
    cache.run (calls ++ more) = (cache.run calls).run more := List.foldl_append

theorem undisturbed_append {cache : Cache τ} {calls more : List (Call τ)} :
    cache.Undisturbed (calls ++ more) ↔ cache.Undisturbed calls ∧ (cache.run calls).Undisturbed more := by
  induction calls generalizing cache with
  | nil => exact ⟨fun quiet => ⟨trivial, quiet⟩, fun both => both.2⟩
  | cons call calls ih =>
    simp only [List.cons_append, Undisturbed, ih, and_assoc]
    rfl

/-- One of some calls has built what is served from a load, and nothing was invalidated since that load began. -/
def Origin (lifetime : Option τ) (calls : List (Call τ)) (load : Load τ) (served : Served) : Prop :=
  ∃ earlier now later, calls = earlier ++ .snapshot now load :: later ∧
    ((start lifetime).run earlier).Builds now load served ∧ load.invalidations = 0 ∧
    ((start lifetime).run (earlier ++ [.snapshot now load])).Undisturbed later

theorem origin_of_kept {lifetime : Option τ} {calls : List (Call τ)} {kept : Kept τ}
    (held : ((start lifetime).run calls).kept = some kept) :
    ∃ load, Origin lifetime calls load kept.served ∧ load.finished = kept.loadedAt := by
  induction calls using List.reverseRecOn with
  | nil => cases held
  | append_singleton calls call ih =>
    rw [run_append] at held
    rcases kept_after held with ⟨before, quiet⟩ | ⟨now, load, rfl, builds, quiet, finished⟩
    · obtain ⟨load, ⟨earlier, now, later, rfl, builds, still, undisturbed⟩, finished⟩ := ih before
      refine ⟨load, ⟨earlier, now, later ++ [call], by simp, builds, still, ?_⟩, finished⟩
      rw [undisturbed_append]
      refine ⟨undisturbed, ?_, trivial⟩
      rwa [← run_append, List.append_assoc]
    · exact ⟨load, ⟨calls, now, [], rfl, builds, quiet, trivial⟩, finished⟩

/-- No snapshot with a smaller number is kept or will be built. -/
def NumbersFrom (least : Nat) (cache : Cache τ) : Prop :=
  least ≤ cache.built ∧ ∀ kept ∈ cache.kept, least ≤ kept.served.number

theorem NumbersFrom.after {least : Nat} {cache : Cache τ} (numbers : cache.NumbersFrom least) (call : Call τ) :
    (cache.after call).NumbersFrom least := by
  refine ⟨?_, ?_⟩
  · cases call with
    | invalidate => exact numbers.1
    | snapshot now load =>
      obtain ⟨lookup, same, comes⟩ := cache.serve_cases now load
      rw [Cache.after, same]
      cases comes with
      | kept held young => exact numbers.1
      | failed stale ran => exact (invalidated_built cache load.invalidations).symm ▸ numbers.1
      | built stale ran => exact Nat.le_succ_of_le numbers.1
  · intro kept held
    rcases kept_after held with ⟨before, _⟩ | ⟨now, load, _, builds, _, _⟩
    · exact numbers.2 kept before
    · rw [builds.cache_eq.1]
      exact numbers.1

theorem NumbersFrom.run {least : Nat} {cache : Cache τ} (numbers : cache.NumbersFrom least) (calls : List (Call τ)) :
    (cache.run calls).NumbersFrom least := by
  induction calls generalizing cache with
  | nil => exact numbers
  | cons call calls ih => exact ih (numbers.after call)

theorem NumbersFrom.served {least : Nat} {cache : Cache τ} (numbers : cache.NumbersFrom least) {now : τ}
    {load : Load τ} {served : Served} (answer : (cache.serve now load).served = .ok served) :
    least ≤ served.number := by
  rcases served_cases answer with ⟨kept, held, rfl, _⟩ | builds
  · exact numbers.2 kept held
  · rw [builds.cache_eq.1]
    exact numbers.1

theorem Builds.numbersFrom {cache : Cache τ} {now : τ} {load : Load τ} {served : Served}
    (builds : cache.Builds now load served) (overtaken : load.invalidations ≠ 0) :
    ((cache.serve now load).cache).NumbersFrom (served.number + 1) := by
  rw [builds.cache_eq.2, builds.cache_eq.1]
  refine ⟨Nat.le_refl _, ?_⟩
  simp [filled, overtaken]

/-- Of its source a cache sees no more than what a load gives, and whether there is one. -/
theorem snapshot_eq_serve {σ : Type} (read : σ → Load τ × σ) (cache : Cache τ) (now : τ) (source : σ) :
    cache.snapshot read now source =
      ⟨(cache.serve now (read source).1).served, (cache.serve now (read source).1).cache,
        if (cache.serve now (read source).1).source = 0 then source else (read source).2,
        (cache.serve now (read source).1).logs⟩ := by
  unfold serve snapshot
  split
  next => rfl
  next =>
    cases ran : (read source).1.forms.bind Snapshot.ofForms with
    | error fault => simp [finish, ran]
    | ok snapshot => simp [finish, ran]

end Cache

/-- The call that a step of a session makes, if it makes one. -/
def Session.callOf {τ : Type} (session : Session τ) : Step τ → List (Call τ)
  | .snapshot => [.snapshot session.now (session.source.load session.now).1]
  | .invalidate => [.invalidate]
  | .replace _ | .advance _ | .failNext _ | .raceNext => []

variable {τ : Type} [Clock τ]

def Session.calls (session : Session τ) : List (Step τ) → List (Call τ)
  | [] => []
  | step :: rest => session.callOf step ++ (session.step step).calls rest

theorem Session.run_cache (session : Session τ) (steps : List (Step τ)) :
    (session.run steps).cache = session.cache.run (session.calls steps) := by
  induction steps generalizing session with
  | nil => rfl
  | cons step rest ih =>
    have first : (session.step step).cache = session.cache.run (session.callOf step) := by
      cases step with
      | snapshot =>
        have answer := Cache.snapshot_eq_serve (Source.load session.now) session.cache session.now session.source
        exact congrArg Cache.Lookup.cache answer
      | invalidate | replace | advance | failNext | raceNext => rfl
    calc (session.run (step :: rest)).cache = ((session.step step).run rest).cache := rfl
      _ = (session.step step).cache.run ((session.step step).calls rest) := ih _
      _ = session.cache.run (session.calls (step :: rest)) := by rw [first, calls, Cache.run_append]

namespace Cache

/-- No invalidation is lost. What a call serves was read by a load that began after the last invalidation that was
completed before the call: it is the load of the call itself, or one with no invalidation since. A snapshot that is
overtaken by an invalidation goes to its own caller; it is not kept, and no later call serves it. -/
theorem served_after_invalidations (lifetime : Option τ) (calls : List (Call τ)) {now : τ} {load : Load τ}
    {served : Served} (answer : (((start lifetime).run calls).serve now load).served = .ok served) :
    (((start lifetime).run calls).Builds now load served ∨ ∃ read, Origin lifetime calls read served) ∧
      (((start lifetime).run calls).Builds now load served → load.invalidations ≠ 0 → ∀ later,
        let cache := (start lifetime).run (calls ++ .snapshot now load :: later)
        (∀ kept ∈ cache.kept, kept.served ≠ served) ∧
          ∀ moment other, (cache.serve moment other).served ≠ .ok served) := by
  refine ⟨?_, ?_⟩
  · rcases served_cases answer with ⟨kept, held, rfl, _⟩ | builds
    · obtain ⟨read, origin, _⟩ := origin_of_kept held
      exact Or.inr ⟨read, origin⟩
    · exact Or.inl builds
  · intro builds overtaken later
    have numbers : ((start lifetime).run (calls ++ .snapshot now load :: later)).NumbersFrom (served.number + 1) := by
      rw [run_append]
      exact (builds.numbersFrom overtaken).run later
    refine ⟨?_, ?_⟩
    · rintro kept held rfl
      exact absurd (numbers.2 kept held) (Nat.not_succ_le_self _)
    · intro moment other again
      exact absurd (numbers.served again) (Nat.not_succ_le_self _)

/-- A snapshot expires, the next load fails, and the one after it is overtaken: what it gave is not seen again. -/
theorem served_after_invalidations_reload :
    let calls : List (Call Nat) :=
      [.snapshot 100 ⟨.ok [], 101, 0, []⟩, .snapshot 112 ⟨.error .noFirst, 113, 0, []⟩]
    let load : Load Nat := ⟨.ok [⟨"f", "f", []⟩], 121, 1, []⟩
    let served : Served := ⟨⟨[⟨"f", "f", []⟩]⟩, 1⟩
    (((start (some 10)).run calls).serve 120 load).served = .ok served ∧
      ((start (some 10)).run calls).Builds 120 load served ∧ load.invalidations ≠ 0 ∧
      ∀ later,
        let cache := (start (some 10)).run (calls ++ .snapshot 120 load :: later)
        (∀ kept ∈ cache.kept, kept.served ≠ served) ∧
          ∀ moment other, (cache.serve moment other).served ≠ .ok served := by
  intro calls load served
  have answer : (((start (some 10)).run calls).serve 120 load).served = .ok served := rfl
  have builds : ((start (some 10)).run calls).Builds 120 load served := ⟨rfl, rfl, answer⟩
  exact ⟨answer, builds, by decide, (served_after_invalidations (some 10) calls answer).2 builds (by decide)⟩

end Cache

end FormQuery.Schema
