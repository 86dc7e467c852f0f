import FormQuery.Storage.Connection
import Mathlib.Logic.Function.Basic

/-! Turns of programs that share a connection. A program gives way to others before each of its statements, so one turn
is a statement with all that follows it up to the next one. What a statement changes is committed in the same turn. A turn
is a part of a run, and beside programs that are over, a program runs as if it were alone. -/

namespace FormQuery

namespace Program

variable {σ α : Type}

/-- Goes on to the next statement. What there is to report and to commit on the way is done. -/
def toStatement (connected : Handler connection σ) : Program connection α → σ → Program connection α × σ
  | .done result, state => (.done result, state)
  | .report _ rest, state => rest.toStatement connected state
  | .request .commit next, state =>
    let handled := connected .commit state
    (next handled.result).toStatement connected handled.state
  | .request (.execute statement) next, state => (.request (.execute statement) next, state)

def turn (connected : Handler connection σ) : Program connection α → σ → Program connection α × σ
  | .done result, state => (.done result, state)
  | .report _ rest, state => rest.turn connected state
  | .request .commit next, state =>
    let handled := connected .commit state
    (next handled.result).turn connected handled.state
  | .request (.execute statement) next, state =>
    let handled := connected (.execute statement) state
    (next handled.result).toStatement connected handled.state

/-- Whether a program is over, with a value that passes a test. -/
def endsWith (test : α → Bool) : Program connection α → Bool
  | .done (.ok value) => test value
  | _ => false

end Program

/-- The programs of several callers take turns in a given order. -/
def interleave {ι : Type} [DecidableEq ι] (connected : Handler connection σ) :
    List ι → (ι → Program connection α) → σ → (ι → Program connection α) × σ
  | [], programs, state => (programs, state)
  | caller :: order, programs, state =>
    let (program, state) := (programs caller).turn connected state
    interleave connected order (Function.update programs caller program) state

namespace Program

variable {σ α ι : Type} [DecidableEq ι] {connected : Handler connection σ}

def ending (connected : Handler connection σ) (program : Program connection α) (state : σ) : Except Fault α × σ :=
  ((program.run connected state).result, (program.run connected state).state)

theorem ending_toStatement (program : Program connection α) (state : σ) :
    (program.toStatement connected state).1.ending connected (program.toStatement connected state).2 =
      program.ending connected state := by
  induction program generalizing state with
  | done result => rfl
  | report record rest ih => exact ih state
  | request asked next ih =>
    cases asked with
    | execute statement => rfl
    | commit => exact ih _ _

theorem ending_turn (program : Program connection α) (state : σ) :
    (program.turn connected state).1.ending connected (program.turn connected state).2 =
      program.ending connected state := by
  induction program generalizing state with
  | done result => rfl
  | report record rest ih => exact ih state
  | request asked next ih =>
    cases asked with
    | execute statement => exact ending_toStatement _ _
    | commit => exact ih _ _

theorem interleave_cons (caller : ι) (order : List ι) (programs : ι → Program connection α) (state : σ) :
    interleave connected (caller :: order) programs state =
      interleave connected order (Function.update programs caller ((programs caller).turn connected state).1)
        ((programs caller).turn connected state).2 := rfl

theorem run_of_turn {program later : Program connection α} {state between : σ}
    (turned : program.turn connected state = (later, between)) :
    (program.run connected state).state = (later.run connected between).state := by
  have same : _ = program.ending connected state := ending_turn program state
  rw [turned] at same
  exact (congrArg Prod.snd same).symm

theorem interleave_done {programs : ι → Program connection α} {caller : ι} {result : Except Fault α}
    (stopped : programs caller = .done result) (order : List ι) (state : σ) :
    (interleave connected order programs state).1 caller = .done result := by
  induction order generalizing programs state with
  | nil => exact stopped
  | cons next order ih =>
    rw [interleave_cons]
    apply ih
    by_cases same : caller = next
    · subst same
      rw [Function.update_self, stopped]
      rfl
    · rw [Function.update_of_ne same, stopped]

/-- Beside programs that are over, a program runs as if it were alone. -/
theorem interleave_alone {programs : ι → Program connection α} {caller : ι}
    (stopped : ∀ other, other ≠ caller → ∃ result, programs other = .done result) (order : List ι) (state : σ) :
    ((interleave connected order programs state).1 caller).ending connected
        (interleave connected order programs state).2 = (programs caller).ending connected state := by
  induction order generalizing programs state with
  | nil => rfl
  | cons next order ih =>
    rw [interleave_cons]
    -- A turn of the program itself is a part of its run, and a turn of another one does nothing.
    by_cases same : next = caller
    · subst same
      rw [← ending_turn (programs next) state]
      have rest : ∀ other, other ≠ next → ∃ result,
          Function.update programs next ((programs next).turn connected state).1 other = .done result := by
        intro other different
        rw [Function.update_of_ne different]
        exact stopped other different
      have last := ih rest ((programs next).turn connected state).2
      rwa [Function.update_self] at last
    · obtain ⟨result, done⟩ := stopped next same
      have turned : (programs next).turn connected state = (programs next, state) := by
        rw [done]
        rfl
      rw [turned, Function.update_eq_self]
      exact ih stopped state

theorem done_of_endsWith {program : Program connection α} {test : α → Bool} (ends : program.endsWith test = true) :
    ∃ value, program = .done (.ok value) ∧ test value = true := by
  match program, ends with
  | .done (.ok value), ends => exact ⟨value, rfl, ends⟩

theorem interleave_last {programs : ι → Program connection α} {caller : ι} {test : α → Bool}
    (stopped : ∀ other, other ≠ caller → ∃ result, programs other = .done result) {order : List ι} {state : σ}
    (finished : ((interleave connected order programs state).1 caller).endsWith test = true) :
    (interleave connected order programs state).2 = ((programs caller).run connected state).state := by
  obtain ⟨value, done, -⟩ := done_of_endsWith finished
  have same : _ = (programs caller).ending connected state := interleave_alone stopped order state
  rw [done] at same
  exact congrArg Prod.snd same

end Program

end FormQuery
