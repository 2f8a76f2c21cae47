import Workflow.Text.Quoted

/-!
# What a suspension change can be about

A change is about resources of one kind, a `Target`. The resources are addressed through selectors:
a `SelectorKind` says what is compared, a `RowSelector` carries the value it is compared with.
-/

namespace Workflow.Suspension

/-- The kinds of resource whose state can be changed. -/
inductive Target where
  | processDefinition
  | processInstance
  | jobDefinition
  | job
  deriving DecidableEq, Repr

namespace Target

/-- Every kind, definitions first. -/
def values : List Target := [processDefinition, processInstance, jobDefinition, job]

/-- The name of a kind. -/
def name : Target → String
  | processDefinition => "process definition"
  | processInstance => "process instance"
  | jobDefinition => "job definition"
  | job => "job"

/-- How many levels of dependent resources a kind has below it: instances and then jobs below a
definition, jobs below an instance or a job definition. -/
def depth : Target → Nat
  | processDefinition => 2
  | processInstance => 1
  | jobDefinition => 1
  | job => 0

end Target

/-- What a request can address resources by, in the order in which it is considered. -/
inductive SelectorKind where
  | resourceId
  | jobDefinitionId
  | processInstanceId
  | processDefinitionId
  | processDefinitionKey
  deriving DecidableEq, Repr

namespace SelectorKind

/-- Every kind, in the order in which it is considered. -/
def values : List SelectorKind :=
  [resourceId, jobDefinitionId, processInstanceId, processDefinitionId, processDefinitionKey]

/-- The name of a kind. -/
def name : SelectorKind → String
  | resourceId => "resource id"
  | jobDefinitionId => "job definition id"
  | processInstanceId => "process instance id"
  | processDefinitionId => "process definition id"
  | processDefinitionKey => "process definition key"

end SelectorKind

/-- Which rows of a kind of resource a change applies to. -/
inductive RowSelector where
  /-- The resource of this id. -/
  | id (value : String)
  | jobDefinitionId (value : String)
  | processInstanceId (value : String)
  | processDefinitionId (value : String)
  | processDefinitionKey (value : String)
  deriving DecidableEq, Repr

namespace RowSelector

/-- The value that rows are compared with. -/
def value : RowSelector → String
  | id v | jobDefinitionId v | processInstanceId v | processDefinitionId v
  | processDefinitionKey v => v

/-- The selector of a kind with a value. -/
def ofKind : SelectorKind → String → RowSelector
  | .resourceId, v => id v
  | .jobDefinitionId, v => jobDefinitionId v
  | .processInstanceId, v => processInstanceId v
  | .processDefinitionId, v => processDefinitionId v
  | .processDefinitionKey, v => processDefinitionKey v

/-- A selector written for a reader. -/
def shown (s : RowSelector) : String :=
  let label := match s with
    | id _ => "Id"
    | jobDefinitionId _ => "JobDefinitionId"
    | processInstanceId _ => "ProcessInstanceId"
    | processDefinitionId _ => "ProcessDefinitionId"
    | processDefinitionKey _ => "ProcessDefinitionKey"
  label ++ "(" ++ Text.quoted s.value ++ ")"

end RowSelector

end Workflow.Suspension
