import Workflow.Process

/-!
# Tasks

A `Task` is work for a person: inside a process instance, inside a case, or on its own.
-/

namespace Workflow

/-- How far a delegation has come. -/
inductive DelegationState where
  /-- The delegate has the task. -/
  | pending
  /-- The delegate has given the task back. -/
  | resolved
  deriving DecidableEq, Repr

/-- Work for a person. -/
structure Task where
  /-- The id of the task. -/
  id : String
  /-- A name for people. -/
  name : Option String
  /-- How urgent it is. -/
  priority : Int
  /-- Who is to do it. -/
  assignee : Option String
  /-- Who answers for it once it was delegated. -/
  owner : Option String
  /-- Whether it was delegated. -/
  delegation : Option DelegationState
  /-- The execution that created it. -/
  executionId : Option String
  /-- The process instance of that execution. -/
  instanceId : Option String
  /-- The definition of that instance. -/
  definitionId : Option String
  /-- The key of that definition. -/
  definitionKey : Option String
  /-- The case execution that created it. -/
  caseExecutionId : Option String
  /-- Whether it may make progress. -/
  state : SuspensionState
  deriving DecidableEq

namespace Task

/-- The priority of a new task. -/
def defaultPriority : Int := 50

/-- A task of its own. -/
def standalone (fresh : String) : Task :=
  ⟨fresh, none, defaultPriority, none, none, none, none, none, none, none, none, .active⟩

/-- A task created by an execution; it takes over the execution's state. -/
def ofExecution (fresh : String) (e : Execution) : Task :=
  { standalone fresh with
    executionId := some e.id
    instanceId := some e.instanceId
    definitionId := some e.definitionId
    definitionKey := some e.definitionKey
    state := e.state }

/-- Hand the task to a user. The first delegation makes the assignee the owner. -/
def delegate (t : Task) (user : String) : Task :=
  { t with
    owner := t.owner.or t.assignee
    assignee := some user
    delegation := some .pending }

/-- Whether the task belongs neither to a process nor to a case. -/
def isStandalone (t : Task) : Bool := t.executionId.isNone && t.caseExecutionId.isNone

end Task

end Workflow
