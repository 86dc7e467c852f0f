import FormQuery.Program

/-! Rules for the runs of a program by one handler. A rule says what is known of the result and of the state that a run
leaves behind. -/

namespace FormQuery

variable {service : Service} {σ α β : Type} {handler : Handler service σ} {state : σ}

namespace Program

/-- A run from a state ends with a result and a state that have a property. -/
def Leads (handler : Handler service σ) (program : Program service α) (state : σ)
    (post : Except Fault α → σ → Prop) : Prop :=
  post (program.run handler state).result (program.run handler state).state

namespace Leads

variable {middle : Except Fault α → σ → Prop} {post : Except Fault β → σ → Prop}

theorem bind {program : Program service α} {next : α → Program service β} (first : program.Leads handler state middle)
    (fails : ∀ fault after, middle (.error fault) after → post (.error fault) after)
    (rest : ∀ value after, middle (.ok value) after → (next value).Leads handler after post) :
    (program >>= next).Leads handler state post := by
  induction program generalizing state with
  | done result =>
    cases result with
    | error fault => exact fails fault state first
    | ok value => exact rest value state first
  | report record program ih => exact ih first
  | request asked continuation ih => exact ih _ first

theorem attempt_bind {program : Program service α} {next : Except Fault α → Program service β}
    (first : program.Leads handler state middle)
    (rest : ∀ result after, middle result after → (next result).Leads handler after post) :
    (program.attempt >>= next).Leads handler state post := by
  induction program generalizing state with
  | done result => exact rest result state first
  | report record program ih => exact ih first
  | request asked continuation ih => exact ih _ first

theorem ask {asked : service.Request} {post : Except Fault (service.Answer asked) → σ → Prop}
    (fails : ∀ fault, (handler asked state).result = .error fault → post (.error fault) (handler asked state).state)
    (answers : ∀ value, (handler asked state).result = .ok value → post (.ok value) (handler asked state).state) :
    (ask service asked).Leads handler state post := by
  show post (handler asked state).result (handler asked state).state
  cases answered : (handler asked state).result with
  | error fault => exact fails fault answered
  | ok value => exact answers value answered

theorem ask_bind {asked : service.Request} {next : service.Answer asked → Program service β}
    (fails : ∀ fault, (handler asked state).result = .error fault → post (.error fault) (handler asked state).state)
    (rest : ∀ value, (handler asked state).result = .ok value →
      (next value).Leads handler (handler asked state).state post) :
    (Program.ask service asked >>= next).Leads handler state post := by
  have first : (Program.ask service asked).Leads handler state fun result after =>
      (handler asked state).result = result ∧ after = (handler asked state).state := ⟨rfl, rfl⟩
  apply first.bind
  · rintro fault _ ⟨failed, rfl⟩
    exact fails fault failed
  · rintro value _ ⟨answered, rfl⟩
    exact rest value answered

theorem done_bind {result : Except Fault α} {next : α → Program service β}
    (fails : ∀ fault, result = .error fault → post (.error fault) state)
    (rest : ∀ value, result = .ok value → (next value).Leads handler state post) :
    (done result >>= next).Leads handler state post := by
  cases result with
  | error fault => exact fails fault rfl
  | ok value => exact rest value rfl

theorem tell_bind {record : LogRecord} {next : Unit → Program service β} (rest : (next ()).Leads handler state post) :
    (tell record >>= next).Leads handler state post := rest

theorem tells_bind {records : List LogRecord} {next : PUnit → Program service β}
    (rest : (next ⟨⟩).Leads handler state post) : (records.forM tell >>= next).Leads handler state post := by
  induction records with
  | nil => exact rest
  | cons record records ih => exact ih

end Leads

end Program

end FormQuery
