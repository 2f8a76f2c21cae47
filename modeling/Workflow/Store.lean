import Workflow.Audit
import Workflow.Error
import Workflow.Query

/-!
# The store

A `Store` is everything the engine remembers: one table for each kind of row, filed under the rows'
ids, the audit log and the events that were delivered. Here are the look-ups and the queries, which
answer in ascending order of id, and the operations that file one row. What changes states,
schedules changes, drives executions or administers grants builds on these.
-/

namespace Workflow

open Suspension (Target)

/-- An event that was handed to an execution. -/
structure Delivery where
  /-- The subscription that it met. -/
  subscription : Subscription
  /-- The variables that it carried. -/
  payload : Option Variables
  deriving DecidableEq

/-- Everything the engine remembers. -/
structure Store where
  /-- The grants. -/
  grants : Table Grant := ∅
  /-- The deployed process definitions. -/
  definitions : Table ProcessDefinition := ∅
  /-- The executions, process instances among them. -/
  executions : Table Execution := ∅
  /-- The job definitions. -/
  jobDefinitions : Table JobDefinition := ∅
  /-- The jobs. -/
  jobs : Table Job := ∅
  /-- The tasks. -/
  tasks : Table Task := ∅
  /-- The subscriptions that wait. -/
  subscriptions : Table Subscription := ∅
  /-- The changes that wait for their due date. -/
  deferredJobs : Table DeferredJob := ∅
  /-- The audit log, oldest entry first. -/
  log : List LogEntry := []
  /-- The delivered events, oldest first. -/
  deliveries : List Delivery := []
  deriving DecidableEq

namespace Store

instance : EmptyCollection Store := ⟨{}⟩

instance : Inhabited Store := ⟨∅⟩

/-! ## Filing rows -/

/-- File a grant under its id. -/
def putGrant (s : Store) (g : Grant) : Store := { s with grants := s.grants.insert g.id g }

/-- File a process definition under its id. -/
def putDefinition (s : Store) (d : ProcessDefinition) : Store :=
  { s with definitions := s.definitions.insert d.id d }

/-- File an execution under its id. -/
def putExecution (s : Store) (e : Execution) : Store :=
  { s with executions := s.executions.insert e.id e }

/-- File a job definition under its id. -/
def putJobDefinition (s : Store) (d : JobDefinition) : Store :=
  { s with jobDefinitions := s.jobDefinitions.insert d.id d }

/-- File a job under its id. -/
def putJob (s : Store) (j : Job) : Store := { s with jobs := s.jobs.insert j.id j }

/-- File a task under its id. -/
def putTask (s : Store) (t : Task) : Store := { s with tasks := s.tasks.insert t.id t }

/-- File a subscription under its id. -/
def putSubscription (s : Store) (sub : Subscription) : Store :=
  { s with subscriptions := s.subscriptions.insert sub.id sub }

/-- File a deferred job under its id. -/
def putDeferredJob (s : Store) (j : DeferredJob) : Store :=
  { s with deferredJobs := s.deferredJobs.insert j.id j }

/-- Put a task in place of the stored one with its id. -/
def replaceTask (s : Store) (t : Task) : Except Error Store :=
  if s.tasks.contains t.id then .ok (s.putTask t)
  else .error (.missing (.row .task t.id))

/-- Append an entry to the audit log. -/
def record (s : Store) (entry : LogEntry) : Store := { s with log := s.log ++ [entry] }

/-! ## Looking up -/

/-- The row filed under an id, which has to be there. -/
def row {α : Type} (t : Table α) (kind : RowKind) (id : String) : Except Error α :=
  match t.get? id with
  | some a => .ok a
  | none => .error (.missing (.row kind id))

/-- The definition of a key that has the greatest version; of several such the last by id. -/
def latestDefinition? (s : Store) (key : String) : Option ProcessDefinition :=
  Table.greatest? (fun d => (d.version : Int)) (s.definitions.rows.filter (·.key = key))

/-- The process instances of a definition. -/
def instancesOf (s : Store) (definitionId : String) : List Execution :=
  s.executions.rows.filter fun e => e.isInstance && e.definitionId = definitionId

/-- The subscription of a start event to a message; of several the one created last. -/
def startSubscription? (s : Store) (message : String) : Option Subscription :=
  Table.greatest? (·.created)
    (s.subscriptions.rows.filter fun sub => sub.isMessage && sub.isStart && sub.isNamed message)

/-- The subscriptions of an execution to events of a type, and of a name if one is given. -/
def subscriptionsOf (s : Store) (executionId : String) (type : EventType) (name : Option String) :
    List Subscription :=
  s.subscriptions.rows.filter fun sub =>
    sub.eventType = type && sub.isOf executionId && name.all sub.isNamed

/-- The state of one resource, if it exists. -/
def state? (s : Store) (target : Target) (id : String) : Option SuspensionState :=
  match target with
  | .processDefinition => (s.definitions.get? id).map (·.state)
  | .processInstance => ((s.executions.get? id).filter (·.isInstance)).map (·.state)
  | .jobDefinition => (s.jobDefinitions.get? id).map (·.state)
  | .job => (s.jobs.get? id).map (·.state)

/-! ## Queries -/

/-- The executions that meet a query; one whose process instance is not stored meets none. -/
def selectExecutions (s : Store) (q : ExecutionQuery) : List Execution :=
  s.executions.rows.filter fun e =>
    match s.executions.get? e.instanceId with
    | some owner => q.accepts e owner s.subscriptions.rows
    | none => false

/-- The process instances that meet a query and may be seen. -/
def selectInstances (s : Store) (q : InstanceQuery) : List Execution :=
  s.executions.rows.filter fun e => q.accepts e && q.guard.shows s.grants.rows e.columns

/-- The jobs that meet a query and may be seen. -/
def selectJobs (s : Store) (q : JobQuery) : List Job :=
  s.jobs.rows.filter fun j => q.accepts j && q.guard.shows s.grants.rows j.columns

/-- The tasks that meet a query and may be seen; tasks of cases are seen by everybody. -/
def selectTasks (s : Store) (q : TaskQuery) : List Task :=
  s.tasks.rows.filter fun t =>
    q.accepts t && (t.caseExecutionId.isSome || q.guard.shows s.grants.rows t.columns)

/-- The grants that meet a query and may be seen. -/
def selectGrants (s : Store) (q : GrantQuery) : List Grant :=
  s.grants.rows.filter fun g => q.accepts g && q.guard.shows s.grants.rows g.columns

end Store

end Workflow
