import Workflow.Record
import Workflow.Subscription
import Workflow.Task

/-!
# Records of process definitions, executions, tasks and subscriptions
-/

namespace Workflow

/-! ## Names -/

namespace SuspensionState

/-- Both states. -/
def values : List SuspensionState := [active, suspended]

/-- The state of a name. -/
def ofValue? (v : Value) : Option SuspensionState := v.asCase? values name

/-- The name of a state as a value. -/
def toValue (s : SuspensionState) : Value := .text s.name

end SuspensionState

namespace DelegationState

/-- Both states. -/
def values : List DelegationState := [pending, resolved]

/-- The name of a state. -/
def name : DelegationState → String
  | pending => "PENDING"
  | resolved => "RESOLVED"

/-- The state of a name. -/
def ofValue? (v : Value) : Option DelegationState := v.asCase? values name

end DelegationState

namespace EventType

/-- Every kind of event. -/
def values : List EventType := [message, signal, compensate]

/-- The name of a kind. -/
def name : EventType → String
  | message => "message"
  | signal => "signal"
  | compensate => "compensate"

/-- The kind of a name. -/
def ofValue? (v : Value) : Option EventType := v.asCase? values name

end EventType

/-! ## Process definitions -/

namespace ProcessDefinition

/-- The record of a process definition. -/
def toValue (d : ProcessDefinition) : Value :=
  .object [
    ("id", .text d.id),
    ("key", .text d.key),
    ("version", .integer d.version),
    ("name", .ofText? d.name),
    ("suspension_state", d.state.toValue)]

/-- The process definition of a record. -/
def ofValue? (v : Value) : Option ProcessDefinition := do
  match ← v.parts? ["id", "key", "version", "name", "suspension_state"] with
  | [id, key, version, name, state] =>
    return {
      id := ← part Value.asText? id
      key := ← part Value.asText? key
      version := ← part Value.asWord32? version
      name := ← optionalPart Value.asText? name
      state := ← part SuspensionState.ofValue? state }
  | _ => none

end ProcessDefinition

/-! ## Executions -/

namespace Execution

/-- The record of an execution. -/
def toValue (e : Execution) : Value :=
  .object [
    ("id", .text e.id),
    ("process_instance_id", .text e.instanceId),
    ("parent_id", .ofText? e.parentId),
    ("process_definition_id", .text e.definitionId),
    ("process_definition_key", .text e.definitionKey),
    ("activity_id", .ofText? e.activityId),
    ("business_key", .ofText? e.businessKey),
    ("is_active", .bool e.isActive),
    ("suspension_state", e.state.toValue),
    ("variables", .ofVariables e.vars)]

/-- The execution of a record. -/
def ofValue? (v : Value) : Option Execution := do
  match ← v.parts? ["id", "process_instance_id", "parent_id", "process_definition_id",
      "process_definition_key", "activity_id", "business_key", "is_active", "suspension_state",
      "variables"] with
  | [id, instanceId, parentId, definitionId, definitionKey, activityId, businessKey, isActive,
      state, vars] =>
    return {
      id := ← part Value.asText? id
      instanceId := ← part Value.asText? instanceId
      parentId := ← optionalPart Value.asText? parentId
      definitionId := ← part Value.asText? definitionId
      definitionKey := ← part Value.asText? definitionKey
      activityId := ← optionalPart Value.asText? activityId
      businessKey := ← optionalPart Value.asText? businessKey
      isActive := ← part Value.asBool? isActive
      state := ← part SuspensionState.ofValue? state
      vars := ← part Value.asVariables? vars }
  | _ => none

end Execution

/-! ## Tasks -/

namespace Task

/-- The record of a task. -/
def toValue (t : Task) : Value :=
  .object [
    ("id", .text t.id),
    ("name", .ofText? t.name),
    ("priority", .integer t.priority),
    ("assignee", .ofText? t.assignee),
    ("owner", .ofText? t.owner),
    ("delegation_state", .ofText? (t.delegation.map (·.name))),
    ("execution_id", .ofText? t.executionId),
    ("process_instance_id", .ofText? t.instanceId),
    ("process_definition_id", .ofText? t.definitionId),
    ("process_definition_key", .ofText? t.definitionKey),
    ("case_execution_id", .ofText? t.caseExecutionId),
    ("suspension_state", t.state.toValue)]

/-- The task of a record. -/
def ofValue? (v : Value) : Option Task := do
  match ← v.parts? ["id", "name", "priority", "assignee", "owner", "delegation_state",
      "execution_id", "process_instance_id", "process_definition_id", "process_definition_key",
      "case_execution_id", "suspension_state"] with
  | [id, name, priority, assignee, owner, delegation, executionId, instanceId, definitionId,
      definitionKey, caseExecutionId, state] =>
    return {
      id := ← part Value.asText? id
      name := ← optionalPart Value.asText? name
      priority := ← part Value.asInt32? priority
      assignee := ← optionalPart Value.asText? assignee
      owner := ← optionalPart Value.asText? owner
      delegation := ← optionalPart DelegationState.ofValue? delegation
      executionId := ← optionalPart Value.asText? executionId
      instanceId := ← optionalPart Value.asText? instanceId
      definitionId := ← optionalPart Value.asText? definitionId
      definitionKey := ← optionalPart Value.asText? definitionKey
      caseExecutionId := ← optionalPart Value.asText? caseExecutionId
      state := ← part SuspensionState.ofValue? state }
  | _ => none

end Task

/-! ## Subscriptions -/

/-- The record of a subscription. -/
def Subscription.toValue (s : Subscription) : Value :=
  .object [
    ("id", .text s.id),
    ("event_type", .text s.eventType.name),
    ("event_name", .ofText? s.eventName),
    ("execution_id", .ofText? s.executionId),
    ("process_instance_id", .ofText? s.instanceId),
    ("process_definition_id", .ofText? s.definitionId),
    ("activity_id", .ofText? s.activityId),
    ("configuration", .ofText? s.configuration),
    ("created", .integer s.created)]

end Workflow
