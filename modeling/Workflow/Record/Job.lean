import Workflow.Audit
import Workflow.Error
import Workflow.Job
import Workflow.Record.Process

/-!
# Records of jobs and of the audit log
-/

namespace Workflow

/-! ## Job definitions and jobs -/

namespace JobDefinition

/-- The record of a job definition. -/
def toValue (d : JobDefinition) : Value :=
  .object [
    ("id", .text d.id),
    ("process_definition_id", .text d.definitionId),
    ("process_definition_key", .text d.definitionKey),
    ("activity_id", .text d.activityId),
    ("job_type", .text d.jobType),
    ("suspension_state", d.state.toValue)]

/-- The job definition of a record. -/
def ofValue? (v : Value) : Option JobDefinition := do
  match ← v.parts? ["id", "process_definition_id", "process_definition_key", "activity_id",
      "job_type", "suspension_state"] with
  | [id, definitionId, definitionKey, activityId, jobType, state] =>
    return {
      id := ← part Value.asText? id
      definitionId := ← part Value.asText? definitionId
      definitionKey := ← part Value.asText? definitionKey
      activityId := ← part Value.asText? activityId
      jobType := ← part Value.asText? jobType
      state := ← part SuspensionState.ofValue? state }
  | _ => none

end JobDefinition

/-- The record of a job. -/
def Job.toValue (j : Job) : Value :=
  .object [
    ("id", .text j.id),
    ("job_definition_id", .ofText? j.jobDefinitionId),
    ("execution_id", .ofText? j.executionId),
    ("process_instance_id", .ofText? j.instanceId),
    ("process_definition_id", .ofText? j.definitionId),
    ("process_definition_key", .ofText? j.definitionKey),
    ("due_date", .ofOption .integer j.dueDate),
    ("retries", .integer j.retries),
    ("suspension_state", j.state.toValue)]

/-- The record of a deferred job. -/
def DeferredJob.toValue (j : DeferredJob) : Value :=
  .object [
    ("id", .text j.id),
    ("due_date", .integer j.dueDate),
    ("handler_type", .text j.handlerType),
    ("handler_configuration", .text j.configuration),
    ("retries", .integer j.retries),
    ("exception_message", .ofText? (j.failure.map Error.shown))]

/-! ## The audit log -/

namespace PropertyChange

/-- The record of a change. -/
def toValue (c : PropertyChange) : Value :=
  .object [
    ("property_name", .text c.property),
    ("org_value", .ofText? c.before),
    ("new_value", .ofText? c.after)]

/-- The change of a record. -/
def ofValue? (v : Value) : Option PropertyChange := do
  match ← v.parts? ["property_name", "org_value", "new_value"] with
  | [property, before, after] =>
    return {
      property := ← part Value.asText? property
      before := ← optionalPart Value.asText? before
      after := ← optionalPart Value.asText? after }
  | _ => none

end PropertyChange

/-- The record of an entry of the audit log. -/
def LogEntry.toValue (e : LogEntry) : Value :=
  .object [
    ("operation_type", .text e.operation),
    ("entity_type", .text e.entity),
    ("user_id", .ofText? e.user),
    ("job_id", .ofText? e.jobId),
    ("job_definition_id", .ofText? e.jobDefinitionId),
    ("process_instance_id", .ofText? e.instanceId),
    ("process_definition_id", .ofText? e.definitionId),
    ("process_definition_key", .ofText? e.definitionKey),
    ("task_id", .ofText? e.taskId),
    ("property_changes", .list (e.changes.map (·.toValue)))]

end Workflow
