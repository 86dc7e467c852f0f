import FormQuery.Schema.Snapshot

/-! A cache of the schema. It is loaded at the first use, after an invalidation, and once the kept snapshot is as old as
the cache allows. A load that is overtaken by an invalidation is served to whoever waited for it, and not kept. -/

namespace FormQuery

class Clock (τ : Type) where
  after : (now span : τ) → τ
  /-- Whether the time since a moment has reached a span. -/
  reached : (since now span : τ) → Bool

instance : Clock Float := ⟨fun now span => now + span, fun since now span => decide (now - since ≥ span)⟩

instance : Clock Nat := ⟨fun now span => now + span, fun since now span => decide (now - since ≥ span)⟩

namespace Schema

/-- What reading the source of the schema gives, when it was done, and how often the cache was invalidated meanwhile. -/
structure Load (τ : Type) where
  forms : Except Fault (List Form)
  finished : τ
  invalidations : Nat := 0
  logs : List LogRecord := []

/-- A snapshot with its number: each one that is built has a number of its own. -/
structure Served where
  snapshot : Snapshot
  number : Nat
  deriving DecidableEq

structure Kept (τ : Type) where
  served : Served
  loadedAt : τ

structure Cache (τ : Type) where
  /-- The age at which a snapshot is served no more; without one it stays for ever. -/
  lifetime : Option τ := none
  kept : Option (Kept τ) := none
  generation : Nat := 0
  built : Nat := 0

namespace Cache

variable {τ : Type}

def loaded (cache : Cache τ) : Bool := cache.kept.isSome

def invalidate (cache : Cache τ) : Cache τ := { cache with kept := none, generation := cache.generation + 1 }

def invalidationLog : LogRecord := .plain loggers.schema .debug "Schema cache invalidated"

def loadLog (snapshot : Snapshot) : LogRecord :=
  .plain loggers.schema .info s!"Schema cache loaded with {snapshot.size} forms"

def expired [Clock τ] (cache : Cache τ) (now : τ) (kept : Kept τ) : Bool :=
  match cache.lifetime with
  | none => false
  | some lifetime => Clock.reached kept.loadedAt now lifetime

def fresh? [Clock τ] (cache : Cache τ) (now : τ) : Option Served :=
  match cache.kept with
  | none => none
  | some kept => if cache.expired now kept then none else some kept.served

def invalidated (cache : Cache τ) : Nat → Cache τ
  | 0 => cache
  | count + 1 => invalidated cache.invalidate count

structure Lookup (τ σ : Type) where
  served : Except Fault Served
  cache : Cache τ
  source : σ
  logs : List LogRecord

/-- Ends a load that began in a generation. The snapshot is kept only when that is still the generation. -/
def finish {σ : Type} (cache : Cache τ) (began : Nat) (load : Load τ) (source : σ) : Lookup τ σ :=
  let cache := cache.invalidated load.invalidations
  let logs := load.logs ++ List.replicate load.invalidations invalidationLog
  match load.forms.bind Snapshot.ofForms with
  | .error fault => ⟨.error fault, cache, source, logs⟩
  | .ok snapshot =>
    let served := ⟨snapshot, cache.built⟩
    let kept := if cache.generation = began then some ⟨served, load.finished⟩ else cache.kept
    ⟨.ok served, { cache with kept := kept, built := cache.built + 1 }, source, logs ++ [loadLog snapshot]⟩

/-- Serves the kept snapshot while it is fresh, and otherwise what the source has now. -/
def snapshot {σ : Type} [Clock τ] (load : σ → Load τ × σ) (cache : Cache τ) (now : τ) (source : σ) : Lookup τ σ :=
  match cache.fresh? now with
  | some served => ⟨.ok served, cache, source, []⟩
  | none =>
    let (read, source) := load source
    cache.finish cache.generation read source

end Cache

end Schema

end FormQuery
