import Workflow.Suspension.Change

/-!
# Carrying out deferred jobs

A `Handler` carries out the deferred jobs of one type from their configuration text. Handlers are
registered under their types; the last one registered for a type counts. The handlers for changes
of states are always there.

* `DeferredJob.perform` runs a job and takes it off the schedule.
-/

namespace Workflow

/-- What carries out a deferred job, given its configuration. -/
abbrev Handler : Type := String → Action Unit

/-- Handlers under the types of job that they are for, in order of registration. -/
abbrev Handlers : Type := List (String × Handler)

namespace Handlers

/-- The handler for a type of job: the last one registered. -/
def find? (hs : Handlers) (type : String) : Option Handler := hs.reverse.lookup type

/-- The types that have a handler, in ascending order. -/
def types (hs : Handlers) : List String := (Table.ofList hs).keys

end Handlers

namespace Suspension

/-- The types of handler for changes of states, each with the change that it carries out. -/
def handledChanges : List (String × Target × SuspensionState) :=
  Target.values.flatMap fun target =>
    [SuspensionState.suspended, .active].map fun state =>
      (target.handlerType state, target, state)

/-- The handler for one kind of change: the configuration has to be about this kind. -/
def handler (target : Target) (state : SuspensionState) : Handler := fun text => do
  let config ← match Config.ofText? text with
    | some config => pure config
    | none => Action.fail .unreadable
  if config.target = target && config.state = state then config.toRequest.perform .schedule
  else
    Action.fail
      (.invalid (.handler (target.handlerType state) config.state config.target))

/-- The handlers for changes of states. -/
def handlers : Handlers := handledChanges.map fun (type, target, state) =>
  (type, handler target state)

end Suspension

namespace DeferredJob

/-- Run a job, on nobody's behalf, and take it off the schedule. -/
def perform (hs : Handlers) (j : DeferredJob) : Action Unit := do
  match hs.find? j.handlerType with
  | none => Action.fail (.missing (.handler j.handlerType))
  | some handler =>
    Action.unauthenticated (handler j.configuration)
    Action.update (·.unschedule j.id)

end DeferredJob

end Workflow
