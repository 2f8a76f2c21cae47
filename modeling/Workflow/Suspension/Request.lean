import Workflow.Audit
import Workflow.Error

/-!
# Requests to change states

A `Request` asks for resources of one kind to be suspended or activated, now or at a date. The
resources are addressed through `Selectors`; each kind of resource has an order in which it looks
at them, and the first one that is given counts.

* `Request.selector` picks the selector, or says what is wrong.
* `Request.cascade?` is the request for the resources that depend on those of a request;
  `Request.cascades` are all that follow from it.
-/

namespace Workflow.Suspension

/-- What a request addresses resources by. -/
structure Selectors where
  /-- The resource itself. -/
  resourceId : Option String := none
  /-- A job definition. -/
  jobDefinitionId : Option String := none
  /-- A process instance. -/
  processInstanceId : Option String := none
  /-- A process definition. -/
  processDefinitionId : Option String := none
  /-- The key of a process definition. -/
  processDefinitionKey : Option String := none
  deriving DecidableEq, Repr

namespace Selectors

/-- What is given for a kind of selector. -/
def get (s : Selectors) : SelectorKind → Option String
  | .resourceId => s.resourceId
  | .jobDefinitionId => s.jobDefinitionId
  | .processInstanceId => s.processInstanceId
  | .processDefinitionId => s.processDefinitionId
  | .processDefinitionKey => s.processDefinitionKey

/-- The kinds of selector that are given, in the order in which they are considered. -/
def supplied (s : Selectors) : List SelectorKind := SelectorKind.values.filter (s.get · |>.isSome)

/-- The selector of rows for a kind, if it is given. -/
def rowSelector? (s : Selectors) (kind : SelectorKind) : Option RowSelector :=
  (s.get kind).map (RowSelector.ofKind kind)

end Selectors

namespace Target

/-- What resources of a kind are addressed by, what counts most first. -/
def order : Target → List SelectorKind
  | processDefinition => [.resourceId, .processDefinitionKey]
  | processInstance | jobDefinition => [.resourceId, .processDefinitionId, .processDefinitionKey]
  | job =>
    [.resourceId, .jobDefinitionId, .processInstanceId, .processDefinitionId,
      .processDefinitionKey]

/-- The name of a kind in the audit log. -/
def entity : Target → String
  | processDefinition => "ProcessDefinition"
  | processInstance => "ProcessInstance"
  | jobDefinition => "JobDefinition"
  | job => "Job"

/-- The name of a change in the audit log. -/
def operation (t : Target) (state : SuspensionState) : String :=
  let verb := match state with
    | .suspended => "Suspend"
    | .active => "Activate"
  match t with
  | processInstance => verb
  | _ => verb ++ t.entity

/-- The type of handler that carries out a change later. -/
def handlerType (t : Target) (state : SuspensionState) : String :=
  let verb := match state with
    | .suspended => "suspend-"
    | .active => "activate-"
  let noun := match t with
    | processDefinition => "processdefinition"
    | processInstance => "processinstance"
    | jobDefinition => "job-definition"
    | job => "job"
  verb ++ noun

end Target

/-- A request to give resources of one kind a state. -/
structure Request where
  /-- The kind of resource. -/
  target : Target
  /-- The state they are to have. -/
  state : SuspensionState
  /-- Which resources. -/
  selectors : Selectors
  /-- Whether resources that depend on them change too. -/
  dependents : Bool
  /-- When; now, if there is no date. -/
  date : Option Int
  /-- Whether the audit log gets an entry. -/
  audited : Bool
  deriving DecidableEq, Repr

namespace Request

/-- A request that names no resource yet. Instances always take their jobs along. -/
def new (target : Target) (state : SuspensionState) : Request :=
  ⟨target, state, {}, target = .processInstance, none, true⟩

/-- The request with the resource's own id in one place. An instance may also be named as process
instance, a job definition as job definition; the resource id counts more. -/
def normalized (r : Request) : Request :=
  let s := r.selectors
  match r.target with
  | .processInstance =>
    { r with selectors :=
      { s with resourceId := s.resourceId.or s.processInstanceId, processInstanceId := none } }
  | .jobDefinition =>
    { r with selectors :=
      { s with resourceId := s.resourceId.or s.jobDefinitionId, jobDefinitionId := none } }
  | _ => r

/-- The selector that counts. Nothing may be given that the kind of resource is not addressed by,
and something must be given. -/
def selector (r : Request) : Except Error RowSelector :=
  match r.selectors.supplied.find? fun kind => !r.target.order.contains kind with
  | some kind => .error (.invalid (.selectorKind r.target kind))
  | none =>
    match r.target.order.findSome? r.selectors.rowSelector? with
    | some selector => .ok selector
    | none => .error (.invalid (.noSelector r.target))

/-- The request for what depends on the resources of a request: the instances of definitions, the
jobs of instances and of job definitions. -/
def cascade? (r : Request) : Option Request :=
  let s := r.selectors
  if r.dependents then
    match r.target with
    | .processDefinition =>
      some { new .processInstance r.state with
        selectors :=
          { processDefinitionId := s.resourceId, processDefinitionKey := s.processDefinitionKey } }
    | .processInstance =>
      some { new .job r.state with
        selectors :=
          { processInstanceId := s.resourceId
            processDefinitionId := s.processDefinitionId
            processDefinitionKey := s.processDefinitionKey } }
    | .jobDefinition =>
      some { new .job r.state with
        selectors :=
          { jobDefinitionId := s.resourceId
            processDefinitionId := s.processDefinitionId
            processDefinitionKey := s.processDefinitionKey } }
    | .job => none
  else none

/-- Dependent resources lie deeper. -/
theorem depth_cascade? {r next : Request} (h : r.cascade? = some next) :
    next.target.depth < r.target.depth := by
  unfold cascade? at h
  split at h
  · split at h <;> rename_i ht <;> rw [ht]
    · exact Option.some.inj h ▸ (by decide : 1 < 2)
    · exact Option.some.inj h ▸ (by decide : 0 < 1)
    · exact Option.some.inj h ▸ (by decide : 0 < 1)
    · cases h
  · cases h

/-- The requests for what depends on the resources of a request, each from the one before. -/
def cascades (r : Request) : List Request :=
  match _h : r.cascade? with
  | some next => next :: next.cascades
  | none => []
termination_by r.target.depth
decreasing_by exact depth_cascade? _h

/-- What the audit log says of a request: every selector in its own place, the resource's own id in
the place of its kind. `before` is the state of a resource that was addressed by its own id. -/
def entry (r : Request) (before : Option SuspensionState) : LogEntry :=
  let s := r.selectors
  let entry := { LogEntry.new (r.target.operation r.state) r.target.entity with
    changes := [⟨"suspensionState", before.map (·.name), some r.state.name⟩]
    jobDefinitionId := s.jobDefinitionId
    instanceId := s.processInstanceId
    definitionId := s.processDefinitionId
    definitionKey := s.processDefinitionKey }
  match s.resourceId with
  | none => entry
  | some id =>
    match r.target with
    | .job => { entry with jobId := some id }
    | .jobDefinition => { entry with jobDefinitionId := some id }
    | .processInstance => { entry with instanceId := some id }
    | .processDefinition => { entry with definitionId := some id }

end Request

end Workflow.Suspension
