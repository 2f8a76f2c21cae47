import Workflow.Authorization.Guard
import Workflow.Subscription

/-!
# Queries

A query holds what the rows it asks for have in common; a criterion that is absent asks for nothing.
`accepts` says whether a row meets the criteria. Queries of users also carry a `Guard`, which is
applied to the rows that are accepted.
-/

namespace Workflow

/-- Whether a value is what is wanted, if anything is. -/
def meets {α : Type} [DecidableEq α] (wanted : Option α) (value : α) : Bool :=
  wanted.all (· = value)

/-- Whether a value that may be absent is there and is what is wanted, if anything is. -/
def meetsSome {α : Type} [DecidableEq α] (wanted : Option α) (value : Option α) : Bool :=
  wanted.all (value = some ·)

theorem meets_iff {α : Type} [DecidableEq α] {wanted : Option α} {value : α} :
    meets wanted value = true ↔ ∀ v ∈ wanted, value = v := by
  cases wanted <;> simp [meets, eq_comm]

theorem meetsSome_iff {α : Type} [DecidableEq α] {wanted : Option α} {value : Option α} :
    meetsSome wanted value = true ↔ ∀ v ∈ wanted, value = some v := by
  cases wanted <;> simp [meetsSome]

/-- A query for grants. -/
structure GrantQuery where
  /-- The grant of this id. -/
  id : Option String := none
  /-- Grants about one of these users; all grants if there are none. -/
  users : List String := []
  /-- Grants about one of these groups; all grants if there are none. -/
  groups : List String := []
  /-- Grants about this kind of resource. -/
  resource : Option Resource := none
  /-- Grants about this resource. -/
  resourceId : Option String := none
  /-- Whether grants about all resources count as being about this one. -/
  includeAny : Bool := false
  /-- Grants that carry this permission. -/
  permission : Option Permission := none
  /-- Which rows the asking user may see. -/
  guard : Guard := .none
  deriving DecidableEq

/-- Whether a grant meets the criteria. -/
def GrantQuery.accepts (q : GrantQuery) (g : Grant) : Bool :=
  meets q.id g.id &&
  (q.users.isEmpty || g.user.any q.users.contains) &&
  (q.groups.isEmpty || g.group.any q.groups.contains) &&
  meets q.resource g.resource &&
  (meets q.resourceId g.resourceId || (q.includeAny && g.isAny)) &&
  q.permission.all g.carries

/-- A query for process instances. -/
structure InstanceQuery where
  /-- The instance of this id. -/
  id : Option String := none
  /-- Instances with this business key. -/
  businessKey : Option String := none
  /-- Instances of this definition. -/
  definitionId : Option String := none
  /-- Instances of definitions with this key. -/
  definitionKey : Option String := none
  /-- Instances in this state. -/
  state : Option SuspensionState := none
  /-- Which rows the asking user may see. -/
  guard : Guard := .none
  deriving DecidableEq

/-- Whether an execution is a process instance that meets the criteria. -/
def InstanceQuery.accepts (q : InstanceQuery) (e : Execution) : Bool :=
  e.isInstance &&
  meets q.id e.id &&
  meetsSome q.businessKey e.businessKey &&
  meets q.definitionId e.definitionId &&
  meets q.definitionKey e.definitionKey &&
  meets q.state e.state

/-- A query for jobs. -/
structure JobQuery where
  /-- The job of this id. -/
  id : Option String := none
  /-- Jobs of this job definition. -/
  jobDefinitionId : Option String := none
  /-- Jobs of this process instance. -/
  instanceId : Option String := none
  /-- Jobs of instances of this definition. -/
  definitionId : Option String := none
  /-- Jobs of instances of definitions with this key. -/
  definitionKey : Option String := none
  /-- Jobs in this state. -/
  state : Option SuspensionState := none
  /-- Which rows the asking user may see. -/
  guard : Guard := .none
  deriving DecidableEq

/-- Whether a job meets the criteria. -/
def JobQuery.accepts (q : JobQuery) (j : Job) : Bool :=
  meets q.id j.id &&
  meetsSome q.jobDefinitionId j.jobDefinitionId &&
  meetsSome q.instanceId j.instanceId &&
  meetsSome q.definitionId j.definitionId &&
  meetsSome q.definitionKey j.definitionKey &&
  meets q.state j.state

/-- A query for tasks. -/
structure TaskQuery where
  /-- The task of this id. -/
  id : Option String := none
  /-- Tasks of this process instance. -/
  instanceId : Option String := none
  /-- Tasks of this user. -/
  assignee : Option String := none
  /-- Which rows the asking user may see. -/
  guard : Guard := .none
  deriving DecidableEq

/-- Whether a task meets the criteria. -/
def TaskQuery.accepts (q : TaskQuery) (t : Task) : Bool :=
  meets q.id t.id &&
  meetsSome q.instanceId t.instanceId &&
  meetsSome q.assignee t.assignee

/-- A query for executions. Business key and variables are those of the process instance. -/
structure ExecutionQuery where
  /-- Executions of this process instance. -/
  instanceId : Option String := none
  /-- Executions of instances with this business key. -/
  businessKey : Option String := none
  /-- Executions that wait for the message of this name. -/
  message : Option String := none
  /-- Executions that wait for any message. -/
  anyMessage : Bool := false
  /-- Executions of instances with these variables. -/
  vars : Variables := ∅
  /-- Executions that are not suspended. -/
  active : Bool := false
  deriving DecidableEq

/-- Whether an execution of a process instance meets the criteria, given all subscriptions. -/
def ExecutionQuery.accepts (q : ExecutionQuery) (e owner : Execution)
    (subscriptions : List Subscription) : Bool :=
  meets q.instanceId e.instanceId &&
  meetsSome q.businessKey owner.businessKey &&
  !(q.active && e.isSuspended) &&
  owner.vars.cover q.vars &&
  match q.message with
  | some name => subscriptions.any fun s => s.isMessage && s.isOf e.id && s.isNamed name
  | none => !q.anyMessage || subscriptions.any fun s => s.isMessage && s.isOf e.id

end Workflow
