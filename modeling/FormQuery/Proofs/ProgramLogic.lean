import FormQuery.Program

/-! Rules for programs that ask a service. A rule says what is known of the moves and the result of a program, whatever
it is answered, so it holds for every handler and every state. -/

namespace FormQuery

variable {service : Service} {σ α β : Type}

namespace Program

/-- Whatever a program is answered, its moves and its result have a property. -/
def Ensures : Program service α → (List (Move service) → Except Fault α → Prop) → Prop
  | .done result, post => post [] result
  | .report record rest, post => rest.Ensures fun moves result => post (.report record :: moves) result
  | .request asked next, post =>
    ∀ answer, (next answer).Ensures fun moves result => post (.exchange ⟨asked, answer⟩ :: moves) result

variable {post : List (Move service) → Except Fault α → Prop}

/-- What is ensured is true of every run. -/
theorem Ensures.run {program : Program service α} (ensures : program.Ensures post) (handler : Handler service σ)
    (state : σ) : post (program.moves handler state) (program.run handler state).result := by
  induction program generalizing state post with
  | done result => exact ensures
  | report record rest ih => exact ih ensures state
  | request asked next ih => exact ih _ (ensures _) _

theorem requests_run (program : Program service α) (handler : Handler service σ) (state : σ) :
    (program.run handler state).requests = (exchanges (program.moves handler state)).map Exchange.request := by
  induction program generalizing state with
  | done result => rfl
  | report record rest ih => exact ih state
  | request asked next ih =>
    have rest := ih (handler asked state).result (handler asked state).state
    simp only [Run.requests, exchanges] at rest
    simp [run, moves, Run.requests, exchanges, Move.exchange?, rest]

/-- The answers of a run are those of the handler. -/
theorem answered (program : Program service α) (handler : Handler service σ) (state : σ) :
    ∀ made ∈ exchanges (program.moves handler state), ∃ before, made.answer = (handler made.request before).result := by
  induction program generalizing state with
  | done result => exact nofun
  | report record rest ih => exact ih state
  | request asked next ih =>
    intro made member
    obtain rfl | later := List.mem_cons.mp member
    · exact ⟨state, rfl⟩
    · exact ih _ _ made later

theorem Ensures.mono {program : Program service α} {other : List (Move service) → Except Fault α → Prop}
    (ensures : program.Ensures post) (implies : ∀ moves result, post moves result → other moves result) :
    program.Ensures other := by
  induction program generalizing post other with
  | done result => exact implies [] result ensures
  | report record rest ih => exact ih ensures fun moves result => implies _ result
  | request asked next ih =>
    intro answer
    exact ih answer (ensures answer) fun moves result => implies _ result

theorem Ensures.of_forall (known : ∀ moves result, post moves result) (program : Program service α) :
    program.Ensures post := by
  induction program generalizing post with
  | done result => exact known [] result
  | report record rest ih => exact ih fun moves => known _
  | request asked next ih => exact fun answer => ih answer fun moves => known _

/-- The moves of a sequence are those of the first part and, if that gives a value, those of the second. -/
theorem Ensures.bind {program : Program service α} {next : α → Program service β}
    {last : List (Move service) → Except Fault β → Prop} (first : program.Ensures post)
    (fails : ∀ moves fault, post moves (.error fault) → last moves (.error fault))
    (resume : ∀ moves value, post moves (.ok value) →
      (next value).Ensures fun more result => last (moves ++ more) result) :
    (program >>= next).Ensures last := by
  induction program generalizing post last with
  | done result =>
    cases result with
    | error fault => exact fails [] fault first
    | ok value => exact resume [] value first
  | report record rest ih =>
    apply ih first
    · intro moves fault known
      exact fails _ fault known
    · intro moves value known
      exact resume _ value known
  | request asked continuation ih =>
    intro answer
    apply ih answer (first answer)
    · intro moves fault known
      exact fails _ fault known
    · intro moves value known
      exact resume _ value known

theorem Ensures.attempt {program : Program service α}
    {last : List (Move service) → Except Fault (Except Fault α) → Prop}
    (ensures : program.Ensures fun moves result => last moves (.ok result)) : program.attempt.Ensures last := by
  induction program generalizing last with
  | done result => exact ensures
  | report record rest ih => exact ih ensures
  | request asked next ih =>
    intro answer
    exact ih answer (ensures answer)

theorem Ensures.done_bind {result : Except Fault α} {next : α → Program service β}
    {last : List (Move service) → Except Fault β → Prop} (fails : ∀ fault, result = .error fault → last [] (.error fault))
    (resume : ∀ value, result = .ok value → (next value).Ensures last) : (done result >>= next).Ensures last := by
  cases result with
  | error fault => exact fails fault rfl
  | ok value => exact resume value rfl

theorem Ensures.ask_bind {asked : service.Request} {next : service.Answer asked → Program service β}
    {last : List (Move service) → Except Fault β → Prop}
    (fails : ∀ fault, last [.exchange ⟨asked, .error fault⟩] (.error fault))
    (resume : ∀ value, (next value).Ensures fun moves result => last (.exchange ⟨asked, .ok value⟩ :: moves) result) :
    (ask service asked >>= next).Ensures last := by
  intro answer
  cases answer with
  | error fault => exact fails fault
  | ok value => exact resume value

theorem Ensures.attempt_bind {program : Program service α} {next : Except Fault α → Program service β}
    {last : List (Move service) → Except Fault β → Prop} (first : program.Ensures post)
    (resume : ∀ moves result, post moves result →
      (next result).Ensures fun more outcome => last (moves ++ more) outcome) :
    (program.attempt >>= next).Ensures last := by
  have attempted : program.attempt.Ensures fun moves ended => ∃ result, ended = .ok result ∧ post moves result := by
    apply Ensures.attempt
    exact first.mono fun moves result known => ⟨result, rfl, known⟩
  apply Ensures.bind attempted
  · rintro moves fault ⟨result, ⟨⟩, known⟩
  · rintro moves _ ⟨result, ⟨⟩, known⟩
    exact resume moves _ known

theorem Ensures.attempt_ask_bind {asked : service.Request}
    {next : Except Fault (service.Answer asked) → Program service β} {last : List (Move service) → Except Fault β → Prop}
    (resume : ∀ answer, (next answer).Ensures fun moves result => last (.exchange ⟨asked, answer⟩ :: moves) result) :
    ((ask service asked).attempt >>= next).Ensures last := by
  intro answer
  exact resume answer

theorem Ensures.tell_bind {record : LogRecord} {next : Unit → Program service β}
    {last : List (Move service) → Except Fault β → Prop}
    (rest : (next ()).Ensures fun moves result => last (.report record :: moves) result) :
    (tell record >>= next).Ensures last := rest

theorem Ensures.tells_bind {records : List LogRecord} {next : PUnit → Program service β}
    {last : List (Move service) → Except Fault β → Prop}
    (rest : (next ⟨⟩).Ensures fun moves result => last (records.map Move.report ++ moves) result) :
    (records.forM tell >>= next).Ensures last := by
  induction records generalizing last with
  | nil => exact rest
  | cons record records ih => exact ih rest

/-- Whatever a program is answered, what it has asked and was answered has a property. -/
def Says (program : Program service α) (said : List (Exchange service) → Prop) : Prop :=
  program.Ensures fun moves _ => said (exchanges moves)

/-- A program that asks nothing. -/
def Quiet (program : Program service α) : Prop := program.Says fun exchanges => exchanges = []

theorem exchanges_append (moves more : List (Move service)) :
    exchanges (moves ++ more) = exchanges moves ++ exchanges more := List.filterMap_append

namespace Quiet

theorem done (result : Except Fault α) : Quiet (.done result : Program service α) := rfl

theorem tell (record : LogRecord) : Quiet (tell record : Program service Unit) := rfl

theorem bind {program : Program service α} {next : α → Program service β} (quiet : program.Quiet)
    (rest : ∀ value, (next value).Quiet) : (program >>= next).Quiet := by
  apply Ensures.bind quiet
  · intro moves fault silent
    exact silent
  · intro moves value silent
    apply (rest value).mono
    intro more result still
    rw [exchanges_append, silent, still, List.append_nil]

end Quiet

namespace Says

variable {said : List (Exchange service) → Prop}

theorem mono {program : Program service α} {other : List (Exchange service) → Prop} (first : program.Says said)
    (implies : ∀ exchanges, said exchanges → other exchanges) : program.Says other :=
  Ensures.mono first fun _ _ => implies _

theorem of_quiet {program : Program service α} (quiet : program.Quiet) (silent : said []) : program.Says said := by
  apply Ensures.mono quiet
  intro moves result none
  rwa [none]

theorem tell_bind {record : LogRecord} {next : Unit → Program service α} (rest : (next ()).Says said) :
    (tell record >>= next).Says said := rest

theorem tells_bind {records : List LogRecord} {next : PUnit → Program service α} (rest : (next ⟨⟩).Says said) :
    (records.forM tell >>= next).Says said := by
  induction records with
  | nil => exact rest
  | cons record records ih => exact ih

theorem bind_quiet {program : Program service α} {next : α → Program service β} (first : program.Says said)
    (rest : ∀ value, (next value).Quiet) : (program >>= next).Says said := by
  apply Ensures.bind first
  · intro moves fault known
    exact known
  · intro moves value known
    apply Ensures.mono (rest value)
    intro more result none
    rwa [exchanges_append, none, List.append_nil]

theorem ask_bind {asked : service.Request} {next : service.Answer asked → Program service β}
    (fails : ∀ fault, said [⟨asked, .error fault⟩])
    (rest : ∀ value, (next value).Says fun more => said (⟨asked, .ok value⟩ :: more)) :
    (ask service asked >>= next).Says said := by
  intro answer
  cases answer with
  | error fault => exact fails fault
  | ok value => exact rest value

theorem attempt {program : Program service α} (first : program.Says said) : program.attempt.Says said :=
  Ensures.attempt first

/-- A fault is an answer like any other for a program that attempts what it asks. -/
theorem attempt_ask_bind {asked : service.Request}
    {next : Except Fault (service.Answer asked) → Program service β}
    (rest : ∀ answer, (next answer).Says fun more => said (⟨asked, answer⟩ :: more)) :
    ((ask service asked).attempt >>= next).Says said := by
  intro answer
  exact rest answer

end Says

end Program

end FormQuery
