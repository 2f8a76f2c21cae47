import Workflow.Action
import Workflow.Authorization.ById
import Workflow.Store.Schedule
import Workflow.Store.States
import Workflow.Suspension.Config

/-!
# Carrying out requests

A request is checked, then the subject must be permitted to make it; then the states change, or the
change is put on the schedule for its date, and the audit log gets one entry. A change takes the
dependent resources along by a request of its own, which leaves no entry.

* `Request.change` carries a request out.
* `Request.perform` is the same, except that a request which comes from the schedule and whose
  resources are gone is skipped.
-/

namespace Workflow.Suspension

/-- Where a request comes from. -/
inductive Origin where
  /-- Somebody makes it. -/
  | request
  /-- Its date has come. -/
  | schedule
  deriving DecidableEq, Repr

/-- What the subject needs for a request whose resources are addressed by a selector. Jobs are open
to everybody. -/
def Request.require (r : Request) (selector : RowSelector) (c : Context) (s : Store) :
    Except Error Unit :=
  let a := c.authority s
  match r.target with
  | .processDefinition => do
    let key ← match selector with
      | .processDefinitionKey key => .ok key
      | other => (Store.row s.definitions .processDefinition other.value).map (·.key)
    a.requireUpdateDefinition key
    if r.dependents then a.requireUpdateInstances key else .ok ()
  | .processInstance =>
    match selector with
    | .processDefinitionId id => c.requireUpdateInstances s id
    | .processDefinitionKey key => a.requireUpdateInstances key
    | other => c.requireUpdateInstance s other.value
  | .jobDefinition =>
    match selector with
    | .processDefinitionId id => c.requireUpdateDefinition s id
    | .processDefinitionKey key => a.requireUpdateDefinition key
    | other => do
      let d ← Store.row s.jobDefinitions .jobDefinition other.value
      a.requireUpdateDefinition d.definitionKey
  | .job => .ok ()

/-- The state of the resource that is addressed by its own id, if one is; it has to exist. -/
def Request.before (r : Request) (selector : RowSelector) (s : Store) :
    Except Error (Option SuspensionState) :=
  match selector with
  | .id id =>
    match s.state? r.target id with
    | some state => .ok (some state)
    | none => .error (.missing (.row r.target.rowKind id))
  | _ => .ok none

/-- The job definitions that change together with process definitions. -/
def RowSelector.jobDefinitions : RowSelector → RowSelector
  | id v => processDefinitionId v
  | other => other

/-- Give the addressed resources their state; job definitions follow their process definitions. -/
def Request.write (r : Request) (selector : RowSelector) : Action Unit := do
  discard (Action.change (·.setState r.target selector r.state))
  match r.target with
  | .processDefinition =>
    discard (Action.change (·.setState .jobDefinition selector.jobDefinitions r.state))
  | _ => pure ()

/-- Put the change on the schedule. -/
def Request.schedule (r : Request) (date : Int) : Action Unit := do
  let job := DeferredJob.new (← Action.fresh) date (r.target.handlerType r.state)
    (Config.ofRequest r).text
  Action.update (·.putDeferredJob job)

/-- Carry out a request, given how the request for the dependent resources is carried out. -/
def Request.changeWith (nested : Request → Action Unit) (r : Request) : Action Unit := do
  let r := r.normalized
  let selector ← Action.decided r.selector
  Action.consult (r.require selector)
  let before ← match r.date with
    | none => do
      let before ← Action.consult fun _ s => r.before selector s
      r.write selector
      match r.cascade? with
      | some next => nested { next with audited := false }
      | none => pure ()
      pure before
    | some date => do
      r.schedule date
      pure none
  if r.audited then Action.audit (r.entry before)

/-- The work, except that a request from the schedule is skipped once something is missing. What
was written up to there stays. -/
def Origin.tolerate (o : Origin) (work : Action Unit) : Action Unit := do
  match ← Action.attempt work with
  | .ok () => pure ()
  | .error e => if o = .schedule && e.isMissing then pure () else Action.fail e

/-- Carry out a request that takes dependent resources along over so many levels. -/
def Request.changeUpTo (o : Origin) : Nat → Request → Action Unit
  | 0 => changeWith fun _ => pure ()
  | levels + 1 => changeWith fun next => o.tolerate (changeUpTo o levels next)

/-- Carry out a request. -/
def Request.change (r : Request) (o : Origin) : Action Unit := r.changeUpTo o r.target.depth

/-- Carry out a request; skip it if it comes from the schedule and its resources are gone. -/
def Request.perform (r : Request) (o : Origin) : Action Unit := o.tolerate (r.change o)

end Workflow.Suspension
