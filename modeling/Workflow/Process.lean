import Workflow.Suspension.State
import Workflow.Value

/-!
# Process definitions and executions

An `Execution` is a path through a process instance. The process instance itself is the execution
that is its own instance; its variables are the process variables.
-/

namespace Workflow

/-- A deployed process definition. Versions of one process share a key. -/
structure ProcessDefinition where
  /-- The id of this version. -/
  id : String
  /-- The key that all versions share. -/
  key : String
  /-- The number of this version. -/
  version : Nat
  /-- A name for people. -/
  name : Option String
  /-- Whether new instances may be started. -/
  state : SuspensionState
  deriving DecidableEq

namespace ProcessDefinition

/-- An active definition without a name. Its id is made of key, version and a fresh id. -/
def new (fresh key : String) (version : Nat) : ProcessDefinition where
  id := key ++ ":" ++ toString version ++ ":" ++ fresh
  key := key
  version := version
  name := none
  state := .active

/-- Whether the definition is suspended. -/
def isSuspended (d : ProcessDefinition) : Bool := d.state.isSuspended

end ProcessDefinition

/-- A path of execution inside a process instance. -/
structure Execution where
  /-- The id of the execution. -/
  id : String
  /-- The process instance it belongs to. -/
  instanceId : String
  /-- The execution it was split off from. -/
  parentId : Option String
  /-- The definition of its process. -/
  definitionId : String
  /-- The key of that definition. -/
  definitionKey : String
  /-- The activity it stands at. -/
  activityId : Option String
  /-- The business key of the instance. -/
  businessKey : Option String
  /-- Whether it is at work, rather than waiting for children. -/
  isActive : Bool
  /-- Whether it may make progress. -/
  state : SuspensionState
  /-- Variables; on an instance, the process variables. -/
  vars : Variables
  deriving DecidableEq

namespace Execution

/-- A new process instance of a definition. -/
def instanceOf (fresh : String) (d : ProcessDefinition) : Execution where
  id := fresh
  instanceId := fresh
  parentId := none
  definitionId := d.id
  definitionKey := d.key
  activityId := none
  businessKey := none
  isActive := true
  state := .active
  vars := ∅

/-- A new execution split off from `parent`. -/
def childOf (fresh : String) (parent : Execution) : Execution where
  id := fresh
  instanceId := parent.instanceId
  parentId := some parent.id
  definitionId := parent.definitionId
  definitionKey := parent.definitionKey
  activityId := none
  businessKey := none
  isActive := true
  state := parent.state
  vars := ∅

/-- Whether the execution is a process instance. -/
def isInstance (e : Execution) : Bool := e.id = e.instanceId

/-- Whether the execution is suspended. -/
def isSuspended (e : Execution) : Bool := e.state.isSuspended

/-- The execution under another id; a process instance stays its own instance. -/
def withId (e : Execution) (id : String) : Execution :=
  { e with id := id, instanceId := if e.isInstance then id else e.instanceId }

end Execution

end Workflow
