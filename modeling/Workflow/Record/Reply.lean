import Workflow.Engine
import Workflow.Record.Authorization
import Workflow.Record.Job

/-!
# Records of replies and errors

What the engine answers, as values: rows that were searched for stand by their ids, a single row or
target by its record. An error is its kind, as much of its message as is shown, and what it is
about.
-/

namespace Workflow

/-! ## Targets of messages -/

/-- The record of a target. -/
def Correlation.Match.toValue : Correlation.Match → Value
  | .waiting execution subscription =>
    .object [
      ("execution", .text execution.id),
      ("subscription", .text subscription.id),
      ("is_execution", .bool true),
      ("key", .text execution.definitionKey)]
  | .start definition activityId =>
    .object [
      ("definition", .text definition.id),
      ("start_activity", .ofText? activityId),
      ("is_execution", .bool false),
      ("key", .text definition.key)]

/-- The record of a delivered event. -/
def Delivery.toValue (d : Delivery) : Value :=
  .object [
    ("subscription", d.subscription.toValue),
    ("payload", .ofOption .ofVariables d.payload)]

/-! ## Replies -/

/-- The record of a reply. -/
def Reply.toValue : Reply → Value
  | .done => .null
  | .target m => m.toValue
  | .targets ms => .list (ms.map (·.toValue))
  | .started e => e.toValue
  | .grant g => g.toValue
  | .grants gs => .ofTexts (gs.map (·.id))
  | .answer b => .bool b
  | .instances es => .ofTexts (es.map (·.id))
  | .jobs js => .ofTexts (js.map (·.id))
  | .tasks ts => .ofTexts (ts.map (·.id))

/-- The record of a report. -/
def Engine.Report.toValue (r : Engine.Report) : Value :=
  .object [
    ("acquired", .integer r.acquired),
    ("executed", .integer r.executed),
    ("failed", .integer r.failed),
    ("exhausted", .integer r.exhausted)]

/-! ## Errors -/

namespace Error

/-- The name of a kind of error. -/
def kind : Error → String
  | invalid _ => "Validation"
  | denied _ => "Authorization"
  | missing _ => "NotFound"
  | ambiguous _ => "Cardinality"
  | storage _ => "Storage"
  | unreadable => "Serialization"

/-- What an error is about. -/
def details : Error → List (String × Value)
  | denied d => [
      ("user", .text d.user),
      ("permission", .text d.permission.name),
      ("resource", .text d.resource.name),
      ("resource_id", .ofText? d.resourceId)]
  | missing what => [("kind", .text what.kind), ("id", .text what.id)]
  | ambiguous which => [
      ("message_name", .ofText? which.messageName),
      ("matches", .integer which.found)]
  | invalid _ | storage _ | unreadable => []

/-- The members of the record of an error. Only an error that may pass is marked as such. -/
def named (e : Error) : List (String × Value) :=
  [("error", .text e.kind), ("message", .text (shown e.message))] ++ e.details ++
    if e.isRetryable then [("retryable", .bool true)] else []

/-- The record of an error. -/
def toValue (e : Error) : Value := .object e.named

end Error

/-- The record of an outcome. -/
def Value.ofOutcome : Except Error Value → Value
  | .ok v => .object [("ok", v)]
  | .error e => e.toValue

end Workflow
