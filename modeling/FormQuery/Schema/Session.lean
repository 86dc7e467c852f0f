import FormQuery.Compilation
import FormQuery.Program
import FormQuery.Schema.Cache

/-! A cache at work: a source whose forms change, which may fail or be overtaken, and a clock that moves on. The history
of a cache by itself are calls, one after the other; between two of them the source and the clock do what they like. What
is seen of both are answers, reports, how often the source was read, and whether a snapshot is kept; a snapshot is seen
with its number, and the generation of a cache is not seen. -/

namespace FormQuery.Schema

/-- A source in memory. Its next load can be made to fail, and its next load that does not fail to be overtaken by an
invalidation. -/
structure Source where
  forms : List Form
  failNext : Option Fault := none
  raceNext : Bool := false
  loads : Nat := 0

/-- Reads the source at a moment. A load that fails leaves a waiting invalidation to the next one. -/
def Source.load {τ : Type} (now : τ) (source : Source) : Load τ × Source :=
  let counted := { source with loads := source.loads + 1 }
  match source.failNext with
  | some fault => ({ forms := .error fault, finished := now }, { counted with failNext := none })
  | none =>
    ({ forms := .ok source.forms, finished := now, invalidations := if source.raceNext then 1 else 0 },
      { counted with raceNext := false })

structure Session (τ : Type) where
  cache : Cache τ
  source : Source
  now : τ

inductive Step (τ : Type) where
  | snapshot
  | invalidate
  | replace (forms : List Form)
  | advance (span : τ)
  | failNext (fault : Fault)
  | raceNext

def Step.logs {τ : Type} : Step τ → List LogRecord
  | invalidate => [Cache.invalidationLog]
  | _ => []

namespace Session

variable {τ : Type} [Clock τ]

def lookup (session : Session τ) : Cache.Lookup τ Source :=
  session.cache.snapshot (Source.load session.now) session.now session.source

def snapshot (session : Session τ) : Handled (Session τ) Served :=
  let found := session.lookup
  ⟨found.served, { session with cache := found.cache, source := found.source }, found.logs⟩

def compile (session : Session τ) (source : QuerySource) (layout : Layout) : Handled (Session τ) Compilation :=
  let found := session.snapshot
  let compiled := do source.compile (← found.result).snapshot layout
  let logs := match compiled with
    | .ok compilation => compilation.logs
    | .error _ => []
  ⟨compiled, found.state, found.logs ++ logs⟩

def step (session : Session τ) : Step τ → Session τ
  | .snapshot => session.snapshot.state
  | .invalidate => { session with cache := session.cache.invalidate }
  | .replace forms => { session with source := { session.source with forms := forms } }
  | .advance span => { session with now := Clock.after session.now span }
  | .failNext fault => { session with source := { session.source with failNext := some fault } }
  | .raceNext => { session with source := { session.source with raceNext := true } }

def run (session : Session τ) (steps : List (Step τ)) : Session τ := steps.foldl step session

end Session

inductive Call (τ : Type) where
  | snapshot (now : τ) (load : Load τ)
  | invalidate

/-- The moments at which a call looks at the clock: when it begins, and when its load ends. A call that reads nothing
ends as it begins. -/
def Call.moments {τ : Type} : Call τ → List τ
  | snapshot now load => [now, load.finished]
  | invalidate => []

namespace Cache

variable {τ : Type}

def start (lifetime : Option τ) : Cache τ := { lifetime }

variable [Clock τ]

def serve (cache : Cache τ) (now : τ) (load : Load τ) : Lookup τ Nat :=
  cache.snapshot (fun reads => (load, reads + 1)) now 0

def after (cache : Cache τ) : Call τ → Cache τ
  | .snapshot now load => (cache.serve now load).cache
  | .invalidate => cache.invalidate

def run (cache : Cache τ) (calls : List (Call τ)) : Cache τ := calls.foldl after cache

/-- How many invalidations are completed by a call. Those in the middle of a load need the source to be read. -/
def invalidations (cache : Cache τ) : Call τ → Nat
  | .snapshot now load => (cache.serve now load).source * load.invalidations
  | .invalidate => 1

def Undisturbed (cache : Cache τ) : List (Call τ) → Prop
  | [] => True
  | call :: rest => cache.invalidations call = 0 ∧ (cache.after call).Undisturbed rest

/-- A call reads the source, and answers with a snapshot of what it reads. -/
structure Builds (cache : Cache τ) (now : τ) (load : Load τ) (served : Served) : Prop where
  read : (cache.serve now load).source = 1
  forms : load.forms.bind Snapshot.ofForms = .ok served.snapshot
  answer : (cache.serve now load).served = .ok served

end Cache

structure Sight where
  answer? : Option (Except Fault Served)
  logs : List LogRecord
  loads : Nat
  loaded : Bool

variable {τ : Type} [Clock τ]

def Cache.sight (cache : Cache τ) : Call τ → Sight
  | .snapshot now load =>
    let found := cache.serve now load
    ⟨some found.served, found.logs, found.source, found.cache.loaded⟩
  | .invalidate => ⟨none, [invalidationLog], 0, cache.invalidate.loaded⟩

def Cache.sights (cache : Cache τ) : List (Call τ) → List Sight
  | [] => []
  | call :: rest => cache.sight call :: (cache.after call).sights rest

def Session.sight (session : Session τ) (step : Step τ) : Sight :=
  let after := session.step step
  match step with
  | .snapshot => ⟨some session.snapshot.result, session.snapshot.logs, after.source.loads, after.cache.loaded⟩
  | step => ⟨none, step.logs, after.source.loads, after.cache.loaded⟩

def Session.sights (session : Session τ) : List (Step τ) → List Sight
  | [] => []
  | step :: rest => session.sight step :: (session.step step).sights rest

end FormQuery.Schema
