import Workflow.Correlation.Criteria
import Workflow.Error
import Workflow.Process
import Workflow.Subscription

/-!
# Messages

A `Message` comes with a name, or without one, with the criteria by which its target is looked up
and with variables for the target. A `Match` is a target that was found.
-/

namespace Workflow.Correlation

/-- A message that looks for a target. -/
structure Message where
  /-- The name; without one any message that is waited for will do. -/
  name : Option String
  /-- What the target is looked up by. -/
  criteria : Criteria
  /-- What the target is given. -/
  vars : Variables
  deriving DecidableEq

namespace Message

/-- A message has to have a name or criteria. -/
def requireCriteria (m : Message) : Except Error Unit :=
  if m.name.isNone && m.criteria.isEmpty then .error (.invalid .noCriteria) else .ok ()

/-- What an execution is handed with the message: nothing if there are no variables. -/
def payload (m : Message) : Option Variables :=
  if m.vars.entries.isEmpty then none else some m.vars

end Message

/-- A target of a message. -/
inductive Match where
  /-- An execution that waits, and the subscription it waits with. -/
  | waiting (execution : Execution) (subscription : Subscription)
  /-- A process definition that is started by the message, at an activity. -/
  | start (definition : ProcessDefinition) (activityId : Option String)
  deriving DecidableEq

namespace Match

/-- Whether the target is an execution that waits. -/
def isWaiting : Match → Bool
  | waiting _ _ => true
  | start _ _ => false

/-- The key of the process definition that the target belongs to. -/
def definitionKey : Match → String
  | waiting execution _ => execution.definitionKey
  | start definition _ => definition.key

end Match

end Workflow.Correlation
