import FormQuery.Fault
import FormQuery.Log.Record

/-! Programs that ask a service for answers and report what they do. A program is a tree: what is asked next may depend
on the answers so far. So the requests of a run are what the service was asked, and nothing else. Its moves are its own;
what the service reports is no move. -/

namespace FormQuery

/-- What can be asked, and the type of the answer to each request. -/
structure Service where
  Request : Type
  Answer : Request → Type

inductive Program (service : Service) (α : Type) where
  | done (result : Except Fault α)
  | report (record : LogRecord) (rest : Program service α)
  | request (asked : service.Request) (next : Except Fault (service.Answer asked) → Program service α)

namespace Program

variable {service : Service} {α β : Type}

def bind : Program service α → (α → Program service β) → Program service β
  | done (.ok value), resume => resume value
  | done (.error fault), _ => done (.error fault)
  | report record rest, resume => report record (bind rest resume)
  | request asked next, resume => request asked fun answer => bind (next answer) resume

instance : Monad (Program service) where
  pure value := done (.ok value)
  bind := bind

def ask (service : Service) (asked : service.Request) : Program service (service.Answer asked) := request asked done

def tell (record : LogRecord) : Program service Unit := report record (done (.ok ()))

/-- Makes a fault a value, so that a program can go on after it. -/
def attempt : Program service α → Program service (Except Fault α)
  | done result => done (.ok result)
  | report record rest => report record (attempt rest)
  | request asked next => request asked fun answer => attempt (next answer)

end Program

/-- What a service does on a request: an answer, its next state and what it reports. -/
structure Handled (σ α : Type) where
  result : Except Fault α
  state : σ
  logs : List LogRecord := []

abbrev Handler (service : Service) (σ : Type) :=
  (asked : service.Request) → σ → Handled σ (service.Answer asked)

inductive Event (service : Service) where
  | asked (request : service.Request)
  | logged (record : LogRecord)

structure Run (service : Service) (σ α : Type) where
  result : Except Fault α
  state : σ
  events : List (Event service)

namespace Run

variable {service : Service} {σ α : Type}

def requests (run : Run service σ α) : List service.Request :=
  run.events.filterMap fun
    | .asked request => some request
    | .logged _ => none

def logs (run : Run service σ α) : List LogRecord :=
  run.events.filterMap fun
    | .asked _ => none
    | .logged record => some record

end Run

variable {service : Service} {σ α : Type}

def Program.run (handler : Handler service σ) : Program service α → σ → Run service σ α
  | .done result, state => ⟨result, state, []⟩
  | .report record rest, state =>
    let later := run handler rest state
    { later with events := .logged record :: later.events }
  | .request asked next, state =>
    let handled := handler asked state
    let later := run handler (next handled.result) handled.state
    { later with events := .asked asked :: handled.logs.map .logged ++ later.events }

def Run.handled (run : Run service σ α) : Handled σ α := ⟨run.result, run.state, run.logs⟩

structure Exchange (service : Service) where
  request : service.Request
  answer : Except Fault (service.Answer request)

inductive Move (service : Service) where
  | exchange (made : Exchange service)
  | report (record : LogRecord)

def Move.exchange? : Move service → Option (Exchange service)
  | exchange made => some made
  | report _ => none

def exchanges (moves : List (Move service)) : List (Exchange service) := moves.filterMap Move.exchange?

def Program.moves (handler : Handler service σ) : Program service α → σ → List (Move service)
  | .done _, _ => []
  | .report record rest, state => .report record :: moves handler rest state
  | .request asked next, state =>
    let handled := handler asked state
    .exchange ⟨asked, handled.result⟩ :: moves handler (next handled.result) handled.state

end FormQuery
