import Workflow.Command
import Workflow.Settings

/-!
# The engine

An `Engine` is equipment with settings. It executes work on somebody's behalf, all of it or nothing,
and carries out deferred jobs when they are due. A job that fails has changed nothing but its own
record: it has one try less and keeps the reason.

* `Engine.execute`: one piece of work, on behalf of a subject; `Engine.ask`: one command.
* `Engine.runDueJobs`: one look at the schedule.
* `Engine.drain`: as many looks as it takes.
-/

namespace Workflow

/-- Equipment with settings. -/
structure Engine where
  /-- How the engine is to behave. -/
  settings : Settings := {}
  /-- What commands are carried out with. -/
  equipment : Equipment := {}

namespace Engine

/-- An engine by settings that are in order, with more handlers and perhaps a way of its own to
find the targets of messages. -/
def build (settings : Settings) (handlers : Handlers) (lookup : Option Correlation.Lookup) :
    Except Settings.Fault Engine := do
  let settings ← settings.checked
  return ⟨settings, ⟨Suspension.handlers ++ handlers, lookup.getD .standard⟩⟩

/-- The context of work on somebody's behalf. -/
def contextFor (e : Engine) (subject : Option Subject) : Context := ⟨e.settings.enforced, subject⟩

/-- Do a piece of work on somebody's behalf, all of it or nothing. -/
def execute {α : Type} (e : Engine) (subject : Option Subject) (work : Action α) (st : State) :
    Except Error α × State :=
  (Action.atomically work).run (e.contextFor subject) st

/-- Carry out a command on somebody's behalf. -/
def ask (e : Engine) (subject : Option Subject) (c : Command) (st : State) :
    Except Error Reply × State :=
  e.execute subject (c.perform e.equipment) st

/-! ## Deferred jobs -/

/-- What came of the jobs that were taken from the schedule. -/
structure Report where
  /-- How many were taken. -/
  acquired : Nat := 0
  /-- How many succeeded. -/
  executed : Nat := 0
  /-- How many failed. -/
  failed : Nat := 0
  /-- How many failed and have no try left. -/
  exhausted : Nat := 0
  deriving DecidableEq, Repr

/-- The report with one job more. -/
def Report.addSuccess (r : Report) : Report := { r with executed := r.executed + 1 }

/-- The report with one more job that failed and has so many tries left. -/
def Report.addFailure (r : Report) (left : Nat) : Report :=
  { r with failed := r.failed + 1, exhausted := if left = 0 then r.exhausted + 1 else r.exhausted }

/-- Carry out a job on nobody's behalf, all of it or nothing, and note it if it fails. -/
def runJob (e : Engine) (r : Report) (j : DeferredJob) : Action Report := do
  let work := Action.atomically (Action.unauthenticated (j.perform e.equipment.handlers))
  match ← Action.attempt work with
  | .ok () => return r.addSuccess
  | .error reason => r.addFailure <$> Action.change (·.recordFailure j.id reason.message)

/-- Carry out jobs one after the other. -/
def runJobs (e : Engine) : Report → List DeferredJob → Action Report
  | r, [] => pure r
  | r, j :: rest => do
    let r ← e.runJob r j
    runJobs e r rest

/-- Carry out the jobs that are due, as many as are taken at once. -/
def runDueJobs (e : Engine) (now : Int) : Action Report := do
  let jobs ← Action.consult fun _ s => .ok (s.acquire now e.settings.batch)
  e.runJobs { acquired := jobs.length } jobs

/-- Carry out due jobs until none is left, looking at most `looks` times. A look that fails does
not keep the next from being taken. -/
def drain (e : Engine) (now : Int) : (looks : Nat) → Action Unit
  | 0 => pure ()
  | looks + 1 => do
    let due ← Action.consult fun _ s => .ok (s.dueJobs now)
    if due.isEmpty then pure ()
    else do
      discard (Action.attempt (e.runDueJobs now))
      drain e now looks

end Engine

end Workflow
