import Workflow.Store

/-!
# Changing states in the store

`Store.setState` gives a state to the rows of one kind that a selector picks. Each kind of row is
picked by some kinds of selector only: `RowSelector.picksDefinition?` and its siblings say by which,
and what is compared.
-/

namespace Workflow

namespace Suspension.RowSelector

/-- The process definitions that a selector picks, if it can pick any. -/
def picksDefinition? : RowSelector → Option (ProcessDefinition → Bool)
  | id v => some fun d => d.id = v
  | processDefinitionKey v => some fun d => d.key = v
  | _ => none

/-- The process instances that a selector picks, if it can pick any. -/
def picksInstance? : RowSelector → Option (Execution → Bool)
  | id v | processInstanceId v => some fun e => e.id = v
  | processDefinitionId v => some fun e => e.definitionId = v
  | processDefinitionKey v => some fun e => e.definitionKey = v
  | jobDefinitionId _ => none

/-- The job definitions that a selector picks, if it can pick any. -/
def picksJobDefinition? : RowSelector → Option (JobDefinition → Bool)
  | id v | jobDefinitionId v => some fun d => d.id = v
  | processDefinitionId v => some fun d => d.definitionId = v
  | processDefinitionKey v => some fun d => d.definitionKey = v
  | processInstanceId _ => none

/-- Whether a selector picks a job. -/
def picksJob : RowSelector → Job → Bool
  | id v, j => j.id = v
  | jobDefinitionId v, j => j.jobDefinitionId = some v
  | processInstanceId v, j => j.instanceId = some v
  | processDefinitionId v, j => j.definitionId = some v
  | processDefinitionKey v, j => j.definitionKey = some v

end Suspension.RowSelector

namespace Store

open Suspension (Target RowSelector)

/-- Give a state to the process definitions that are picked. -/
def setDefinitionStates (s : Store) (picks : ProcessDefinition → Bool) (state : SuspensionState) :
    Store :=
  { s with
    definitions := s.definitions.map fun d => if picks d then { d with state := state } else d }

/-- The ids of the process instances that are picked. -/
def pickedInstances (s : Store) (picks : Execution → Bool) : List String :=
  (s.executions.rows.filter fun e => e.isInstance && picks e).map (·.id)

/-- Give a state to all executions and tasks of some process instances. -/
def setInstanceStates (s : Store) (ids : List String) (state : SuspensionState) : Store :=
  { s with
    executions := s.executions.map fun e =>
      if ids.contains e.instanceId then { e with state := state } else e
    tasks := s.tasks.map fun t =>
      if t.instanceId.any ids.contains then { t with state := state } else t }

/-- Give a state to the job definitions that are picked. -/
def setJobDefinitionStates (s : Store) (picks : JobDefinition → Bool) (state : SuspensionState) :
    Store :=
  { s with
    jobDefinitions := s.jobDefinitions.map fun d =>
      if picks d then { d with state := state } else d }

/-- Give a state to the jobs that are picked. -/
def setJobStates (s : Store) (picks : Job → Bool) (state : SuspensionState) : Store :=
  { s with jobs := s.jobs.map fun j => if picks j then { j with state := state } else j }

/-- Give a state to the resources of a kind that a selector picks, and count them. A selector that
cannot pick definitions or job definitions is noticed only when there is one to look at. -/
def setState (s : Store) (target : Target) (selector : RowSelector) (state : SuspensionState) :
    Except Error (Nat × Store) :=
  let refused : Except Error (Nat × Store) := .error (.invalid (.rowSelector target selector))
  match target with
  | .processDefinition =>
    match selector.picksDefinition? with
    | some picks => .ok (s.definitions.rows.countP picks, s.setDefinitionStates picks state)
    | none => if s.definitions.rows.isEmpty then .ok (0, s) else refused
  | .processInstance =>
    match selector.picksInstance? with
    | some picks =>
      let ids := s.pickedInstances picks
      .ok (ids.length, s.setInstanceStates ids state)
    | none => refused
  | .jobDefinition =>
    match selector.picksJobDefinition? with
    | some picks => .ok (s.jobDefinitions.rows.countP picks, s.setJobDefinitionStates picks state)
    | none => if s.jobDefinitions.rows.isEmpty then .ok (0, s) else refused
  | .job => .ok (s.jobs.rows.countP selector.picksJob, s.setJobStates selector.picksJob state)

end Store

end Workflow
