import Workflow.Suspension.State

/-!
# Jobs, job definitions and deferred jobs

A `Job` is asynchronous work of a process instance, created from a `JobDefinition`. A `DeferredJob`
is a change that the scheduler keeps until its due date: the type of its handler and the
configuration text that the handler reads.

Dates are milliseconds since the start of 1970, in universal time.
-/

namespace Workflow

/-- What the jobs of one activity of a process definition have in common. -/
structure JobDefinition where
  /-- The id of the job definition. -/
  id : String
  /-- The process definition it belongs to. -/
  definitionId : String
  /-- The key of that definition. -/
  definitionKey : String
  /-- The activity whose jobs it describes. -/
  activityId : String
  /-- The type of job. -/
  jobType : String
  /-- Whether its jobs may run. -/
  state : SuspensionState
  deriving DecidableEq

/-- An active job definition. -/
def JobDefinition.new (fresh definitionId definitionKey activityId jobType : String) :
    JobDefinition :=
  ⟨fresh, definitionId, definitionKey, activityId, jobType, .active⟩

/-- Asynchronous work of a process instance. -/
structure Job where
  /-- The id of the job. -/
  id : String
  /-- The job definition it was created from. -/
  jobDefinitionId : Option String
  /-- The execution it works for. -/
  executionId : Option String
  /-- The process instance it works for. -/
  instanceId : Option String
  /-- The process definition of that instance. -/
  definitionId : Option String
  /-- The key of that definition. -/
  definitionKey : Option String
  /-- When it may run. -/
  dueDate : Option Int
  /-- How often it may still be tried. -/
  retries : Nat
  /-- Whether it may run at all. -/
  state : SuspensionState
  deriving DecidableEq

namespace Job

/-- An active job that belongs to nothing yet. -/
def new (fresh : String) : Job :=
  ⟨fresh, none, none, none, none, none, none, 3, .active⟩

/-- A job of a job definition, for a process instance; it takes over the definition's state. -/
def ofDefinition (fresh : String) (d : JobDefinition) (instanceId : String) : Job :=
  { new fresh with
    jobDefinitionId := some d.id
    executionId := some instanceId
    instanceId := some instanceId
    definitionId := some d.definitionId
    definitionKey := some d.definitionKey
    state := d.state }

end Job

/-- A change that waits for its due date. -/
structure DeferredJob where
  /-- The id of the deferred job. -/
  id : String
  /-- When it is to run. -/
  dueDate : Int
  /-- The type of handler that runs it. -/
  handlerType : String
  /-- What the handler reads. -/
  configuration : String
  /-- How often it may still be tried. -/
  retries : Nat
  /-- Why the last try failed. -/
  failure : Option String
  deriving DecidableEq

namespace DeferredJob

/-- How often a deferred job is tried. -/
def defaultRetries : Nat := 3

/-- A deferred job that was not tried yet. -/
def new (fresh : String) (dueDate : Int) (handlerType configuration : String) : DeferredJob :=
  ⟨fresh, dueDate, handlerType, configuration, defaultRetries, none⟩

/-- Whether the due date has come. -/
def isDue (j : DeferredJob) (now : Int) : Bool := j.dueDate ≤ now

/-- Whether no try is left. -/
def isFailed (j : DeferredJob) : Bool := j.retries = 0

/-- The job after a try that failed for `reason`. -/
def afterFailure (j : DeferredJob) (reason : String) : DeferredJob :=
  { j with retries := j.retries - 1, failure := some reason }

end DeferredJob

end Workflow
