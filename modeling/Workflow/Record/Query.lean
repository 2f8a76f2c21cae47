import Workflow.Query
import Workflow.Record.Authorization
import Workflow.Record.Process

/-!
# Queries as values

Queries are read from objects with a member for each criterion. A member that is missing or null
asks for nothing; members of other names are not looked at.
-/

namespace Workflow

/-! ## Checks and guards -/

/-- The check that an object asks for. -/
def Check.ofQuery? (v : Value) : Option Check := do
  return {
    permission := ← v.need "permission" Permission.ofValueName?
    resource := ← v.need "resource" Resource.ofValue?
    resourceId := ← v.may "resource_id" Value.asText?
    column := ← v.may "query_param" Value.asText?
    unmatched := ← v.may "no_match_default" Value.asBool? }

namespace Guard

/-- The guard that an object asks for. -/
def ofQuery? (v : Value) : Option Guard := do
  return {
    enforced := ← v.orElse "enabled" false Value.asBool?
    user := ← v.may "user" Value.asText?
    groups := ← v.orElse "groups" [] (Value.asList? Value.asText?)
    checks := ← v.orElse "checks" [] (Value.asList? Check.ofQuery?) }

/-- The guard of a query; without one nothing is guarded. -/
def within? (v : Value) : Option Guard := v.orElse "authorization" .none ofQuery?

end Guard

/-! ## Queries -/

/-- The query for grants that an object stands for. -/
def GrantQuery.ofValue? (v : Value) : Option GrantQuery := do
  return {
    id := ← v.may "id" Value.asText?
    users := ← v.orElse "users" [] (Value.asList? Value.asText?)
    groups := ← v.orElse "groups" [] (Value.asList? Value.asText?)
    resource := ← v.may "resource" Resource.ofValue?
    resourceId := ← v.may "resource_id" Value.asText?
    includeAny := ← v.orElse "include_any" false Value.asBool?
    permission := ← v.may "permission" Permission.ofValueName?
    guard := ← Guard.within? v }

/-- The query for process instances that an object stands for. -/
def InstanceQuery.ofValue? (v : Value) : Option InstanceQuery := do
  return {
    id := ← v.may "process_instance_id" Value.asText?
    businessKey := ← v.may "business_key" Value.asText?
    definitionId := ← v.may "process_definition_id" Value.asText?
    definitionKey := ← v.may "process_definition_key" Value.asText?
    state := ← v.may "state" SuspensionState.ofValue?
    guard := ← Guard.within? v }

/-- The query for jobs that an object stands for. -/
def JobQuery.ofValue? (v : Value) : Option JobQuery := do
  return {
    id := ← v.may "job_id" Value.asText?
    jobDefinitionId := ← v.may "job_definition_id" Value.asText?
    instanceId := ← v.may "process_instance_id" Value.asText?
    definitionId := ← v.may "process_definition_id" Value.asText?
    definitionKey := ← v.may "process_definition_key" Value.asText?
    state := ← v.may "state" SuspensionState.ofValue?
    guard := ← Guard.within? v }

/-- The query for tasks that an object stands for. -/
def TaskQuery.ofValue? (v : Value) : Option TaskQuery := do
  return {
    id := ← v.may "task_id" Value.asText?
    instanceId := ← v.may "process_instance_id" Value.asText?
    assignee := ← v.may "assignee" Value.asText?
    guard := ← Guard.within? v }

/-- The query for executions that an object stands for. -/
def ExecutionQuery.ofValue? (v : Value) : Option ExecutionQuery := do
  return {
    instanceId := ← v.may "process_instance_id" Value.asText?
    businessKey := ← v.may "business_key" Value.asText?
    message := ← v.may "message" Value.asText?
    anyMessage := ← v.orElse "any_message" false Value.asBool?
    vars := ← v.orElse "variables" ∅ Value.asVariables?
    active := ← v.orElse "active" false Value.asBool? }

end Workflow
