import Workflow.Correlation.Criteria
import Workflow.Record.Process
import Workflow.Suspension.Request

/-!
# Records of selectors, requests and criteria
-/

namespace Workflow

namespace Suspension

namespace Target

/-- The name of a kind in records. -/
def slug : Target → String
  | processDefinition => "process-definition"
  | processInstance => "process-instance"
  | jobDefinition => "job-definition"
  | job => "job"

/-- The kind of a name. -/
def ofValue? (v : Value) : Option Target := v.asCase? values slug

/-- The name of a kind as a value. -/
def toValue (t : Target) : Value := .text t.slug

end Target

namespace SelectorKind

/-- The name of a kind in records. -/
def field : SelectorKind → String
  | resourceId => "resourceId"
  | jobDefinitionId => "jobDefinitionId"
  | processInstanceId => "processInstanceId"
  | processDefinitionId => "processDefinitionId"
  | processDefinitionKey => "processDefinitionKey"

/-- The name of a kind in the record of a selector of rows. -/
def tag : SelectorKind → String
  | resourceId => "id"
  | kind => kind.field

/-- The kind of a tag that is a case of an enumeration. -/
def ofCase? (v : Value) : Option SelectorKind := v.asCase? values tag

/-- The kind of a tag that is a name. -/
def ofName? (v : Value) : Option SelectorKind := v.asText?.bind fun s => values.find? (·.tag = s)

end SelectorKind

namespace RowSelector

/-- The kind of a selector. -/
def kind : RowSelector → SelectorKind
  | id _ => .resourceId
  | jobDefinitionId _ => .jobDefinitionId
  | processInstanceId _ => .processInstanceId
  | processDefinitionId _ => .processDefinitionId
  | processDefinitionKey _ => .processDefinitionKey

/-- The record of a selector of rows. -/
def toValue (s : RowSelector) : Value :=
  .object [("by", .text s.kind.tag), ("value", .text s.value)]

/-- The selector of rows of a record. The tag of an object may be written as a case, the one of a
list only as a name. -/
def ofValue? (v : Value) : Option RowSelector := do
  let kind? :=
    match v with
    | .list _ => SelectorKind.ofName?
    | _ => SelectorKind.ofCase?
  match ← v.parts? ["by", "value"] with
  | [tag, value] => return ofKind (← part kind? tag) (← part Value.asText? value)
  | _ => none

end RowSelector

namespace Selectors

/-- The members of the record of selectors, in order; those that are not given are left out. -/
def named (s : Selectors) : List (String × Value) :=
  SelectorKind.values.filterMap fun kind => (s.get kind).map fun v => (kind.field, .text v)

/-- The selectors of a record. -/
def ofValue? (v : Value) : Option Selectors := do
  match ← v.parts? (SelectorKind.values.map (·.field)) with
  | [resourceId, jobDefinitionId, processInstanceId, processDefinitionId,
      processDefinitionKey] =>
    return {
      resourceId := ← optionalPart Value.asText? resourceId
      jobDefinitionId := ← optionalPart Value.asText? jobDefinitionId
      processInstanceId := ← optionalPart Value.asText? processInstanceId
      processDefinitionId := ← optionalPart Value.asText? processDefinitionId
      processDefinitionKey := ← optionalPart Value.asText? processDefinitionKey }
  | _ => none

end Selectors

/-- The record of a request. -/
def Request.toValue (r : Request) : Value :=
  .object [
    ("target", r.target.toValue),
    ("state", r.state.toValue),
    ("selectors", .members r.selectors.named),
    ("include", .bool r.dependents),
    ("date", .ofOption .integer r.date),
    ("logs", .bool r.audited)]

end Suspension

namespace Correlation.Criteria

/-- The record of criteria. -/
def toValue (c : Criteria) : Value :=
  .object [
    ("businessKey", .ofText? c.businessKey),
    ("processInstanceId", .ofText? c.instanceId),
    ("correlationKeys", .ofVariables c.keys)]

/-- The criteria of a record. -/
def ofValue? (v : Value) : Option Criteria := do
  match ← v.parts? ["businessKey", "processInstanceId", "correlationKeys"] with
  | [businessKey, instanceId, keys] =>
    return {
      businessKey := ← optionalPart Value.asText? businessKey
      instanceId := ← optionalPart Value.asText? instanceId
      keys := ← part Value.asVariables? keys }
  | _ => none

end Correlation.Criteria

end Workflow
