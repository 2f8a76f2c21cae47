import Workflow.Correlation.Message
import Workflow.Record.Suspension

/-!
# Requests and messages as values

Requests to change states and messages are read from objects whose members may be missing or null.
A request may also be asked for by name: `Request.ofName?` knows the usual ones, which address
resources by their own id or by the key of their process definition.
-/

namespace Workflow

namespace Suspension

/-- The selectors that an object gives. -/
def Selectors.ofQuery? (v : Value) : Option Selectors := do
  return {
    resourceId := ← v.may "id" Value.asText?
    jobDefinitionId := ← v.may "job_definition_id" Value.asText?
    processInstanceId := ← v.may "process_instance_id" Value.asText?
    processDefinitionId := ← v.may "process_definition_id" Value.asText?
    processDefinitionKey := ← v.may "process_definition_key" Value.asText? }

namespace Request

/-- The request that an object stands for. -/
def ofValue? (v : Value) : Option Request := do
  let r := new (← v.need "target" Target.ofValue?) (← v.need "state" SuspensionState.ofValue?)
  return { r with
    selectors := ← Selectors.ofQuery? v
    dependents := ← v.orElse "include" r.dependents Value.asBool?
    date := ← v.may "date" Value.asDate? }

/-- What resources have a name for: their kind, whether they are addressed by key, and whether the
request may speak of dependent resources and have a date. -/
def nouns : List (String × Target × Bool × Bool) := [
  ("process_instance_by_id", .processInstance, false, false),
  ("process_instance_by_process_definition_key", .processInstance, true, false),
  ("job_by_id", .job, false, false),
  ("job_definition_by_id", .jobDefinition, false, true),
  ("process_definition_by_id", .processDefinition, false, true),
  ("process_definition_by_key", .processDefinition, true, true)]

/-- The request of a name. Where it may speak of dependent resources it does, and has the date. -/
def ofName? (name id : String) (dependents : Bool) (date : Option Int) : Option Request :=
  [("suspend_", SuspensionState.suspended), ("activate_", .active)].findSome? fun (verb, state) =>
    nouns.findSome? fun (noun, target, byKey, broad) =>
      if name = verb ++ noun then
        let r := { new target state with
          selectors := if byKey then { processDefinitionKey := id } else { resourceId := id } }
        some (if broad then { r with dependents := dependents, date := date } else r)
      else none

end Request

end Suspension

/-- The message that an object stands for; of variables given twice those given as more count. -/
def Correlation.Message.ofValue? (v : Value) : Option Correlation.Message := do
  let vars ← v.orElse "variables" ∅ Value.asVariables?
  return {
    name := ← v.may "message" Value.asText?
    criteria := {
      businessKey := ← v.may "business_key" Value.asText?
      instanceId := ← v.may "process_instance_id" Value.asText?
      keys := ← v.orElse "keys" ∅ Value.asVariables? }
    vars := vars.union (← v.orElse "more_variables" ∅ Value.asVariables?) }

end Workflow
