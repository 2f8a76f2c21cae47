import Workflow.Authorization.Administration
import Workflow.Correlation.Delivery
import Workflow.DeferredWork
import Workflow.Search
import Workflow.TaskWork

/-!
# Commands

A `Command` is something that the engine can be asked for; a `Reply` is what it answers.
`Command.perform` carries a command out by means of the `Equipment` of an engine.
-/

namespace Workflow

open Correlation (Message Match Lookup)

/-- What an engine carries out commands with. -/
structure Equipment where
  /-- What carries out deferred jobs. -/
  handlers : Handlers := Suspension.handlers
  /-- How the targets of messages are found. -/
  lookup : Lookup := .standard

/-- Something that the engine can be asked for. -/
inductive Command where
  /-- Deliver a message to its one target. -/
  | correlate (m : Message)
  /-- Deliver a message to all its targets. -/
  | correlateAll (m : Message)
  /-- Deliver a message to one execution. -/
  | receive (message executionId : Option String) (payload : Option Variables)
  /-- Start an instance by a message. -/
  | startInstance (message businessKey : Option String) (vars : Variables)
  /-- Suspend or activate resources. -/
  | setStates (r : Suspension.Request)
  /-- Hand a task to a user. -/
  | delegate (taskId user : Option String)
  /-- Set the priority of a task. -/
  | setPriority (taskId : Option String) (priority : Int)
  /-- Make a grant that is not stored yet. -/
  | newGrant (kind : GrantKind) (resource : Resource)
  /-- Store a grant. -/
  | saveGrant (g : Grant)
  /-- Delete a grant. -/
  | deleteGrant (id : Option String)
  /-- Search for grants. -/
  | grants (q : GrantQuery)
  /-- Ask whether somebody has a permission. -/
  | isPermitted (s : Subject) (permission : Permission) (resource : Resource)
      (resourceId : Option String)
  /-- Search for process instances. -/
  | instances (q : InstanceQuery)
  /-- Search for jobs. -/
  | jobs (q : JobQuery)
  /-- Search for tasks. -/
  | tasks (q : TaskQuery)
  /-- Run a deferred job. -/
  | runDeferred (j : DeferredJob)

/-- What the engine answers. -/
inductive Reply where
  /-- It is done. -/
  | done
  /-- The target of a message. -/
  | target (m : Match)
  /-- The targets of a message. -/
  | targets (ms : List Match)
  /-- A process instance that was started. -/
  | started (e : Execution)
  /-- A grant. -/
  | grant (g : Grant)
  /-- The grants that were searched for. -/
  | grants (gs : List Grant)
  /-- Yes or no. -/
  | answer (b : Bool)
  /-- The process instances that were searched for. -/
  | instances (es : List Execution)
  /-- The jobs that were searched for. -/
  | jobs (js : List Job)
  /-- The tasks that were searched for. -/
  | tasks (ts : List Task)

/-- Carry out a command. -/
def Command.perform (equipment : Equipment) : Command → Action Reply
  | correlate m => .target <$> Correlation.correlate equipment.lookup m
  | correlateAll m => .targets <$> Correlation.correlateAll equipment.lookup m
  | receive message executionId payload =>
    (fun _ => .done) <$> Correlation.receive message executionId payload
  | startInstance message businessKey vars =>
    .started <$> Correlation.startInstance message businessKey vars
  | setStates r => (fun _ => .done) <$> r.perform .request
  | delegate taskId user => (fun _ => .done) <$> TaskWork.delegate taskId user
  | setPriority taskId priority => (fun _ => .done) <$> TaskWork.setPriority taskId priority
  | newGrant kind resource => .grant <$> Administration.newGrant kind resource
  | saveGrant g => .grant <$> Administration.saveGrant g
  | deleteGrant id => do
    let id ← Action.decided (ensureGiven "authorizationId" id)
    Administration.deleteGrant id
    return .done
  | grants q => .grants <$> Administration.selectGrants q
  | isPermitted s permission resource resourceId =>
    Action.authorize fun a => .ok (.answer (a.permitsSubject s permission resource resourceId))
  | instances q => .instances <$> Search.instances q
  | jobs q => .jobs <$> Search.jobs q
  | tasks q => .tasks <$> Search.tasks q
  | runDeferred j => (fun _ => .done) <$> j.perform equipment.handlers

end Workflow
