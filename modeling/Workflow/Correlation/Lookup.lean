import Workflow.Correlation.Message
import Workflow.Store

/-!
# Looking up the targets of a message

A `Lookup` finds the executions that wait for a message and the process definition that it starts.
It reads the store and decides nothing about permissions. `Lookup.standard` matches executions by a
query and start events by name.
-/

namespace Workflow.Correlation

/-- How the targets of a message are found. -/
structure Lookup where
  /-- The executions that wait for a message of this name that meets the criteria. -/
  waiting : Store → Option String → Criteria → Except Error (List Match)
  /-- What a message of this name starts. -/
  start : Store → Option String → Criteria → Except Error (Option Match)

/-- The query for the executions that a message is for: active ones that wait for it. -/
def Criteria.query (criteria : Criteria) (name : Option String) : ExecutionQuery where
  instanceId := criteria.instanceId
  businessKey := criteria.businessKey
  message := name
  anyMessage := name.isNone
  vars := criteria.keys
  active := true

/-- The executions that a message is for, each with the first subscription that meets it. -/
def waitingMatches (s : Store) (name : Option String) (criteria : Criteria) : List Match :=
  (s.selectExecutions (criteria.query name)).filterMap fun e =>
    (s.subscriptionsOf e.id .message name).head?.map (.waiting e)

/-- The active process definition that a message starts. A message without a name, or one that
is for an existing instance, starts none. -/
def startMatch? (s : Store) (name : Option String) (criteria : Criteria) : Option Match :=
  match name, criteria.instanceId with
  | some name, none => do
    let subscription ← s.startSubscription? name
    let definitionId ← subscription.configuration.or subscription.definitionId
    let definition ← s.definitions.get? definitionId
    if definition.isSuspended then none else some (.start definition subscription.activityId)
  | _, _ => none

/-- Waiting executions by a query, start events by name. -/
def Lookup.standard : Lookup where
  waiting s name criteria := .ok (waitingMatches s name criteria)
  start s name criteria := .ok (startMatch? s name criteria)

end Workflow.Correlation
