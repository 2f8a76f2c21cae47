import Workflow.Value

/-!
# Correlation criteria

What a waiting execution is looked up by, apart from the name of the message.
-/

namespace Workflow.Correlation

/-- What the executions that a message is for have in common. -/
structure Criteria where
  /-- The business key of their process instance. -/
  businessKey : Option String
  /-- Their process instance. -/
  instanceId : Option String
  /-- Process variables of their instance with the values that these must have. -/
  keys : Variables
  deriving DecidableEq

namespace Criteria

/-- Whether nothing is asked for. -/
def isEmpty (c : Criteria) : Bool :=
  c.businessKey.isNone && c.instanceId.isNone && c.keys.entries.isEmpty

/-- The criteria written for a reader. -/
def shown (c : Criteria) : String :=
  "CorrelationSet [businessKey=" ++ c.businessKey.getD "null" ++
    ", processInstanceId=" ++ c.instanceId.getD "null" ++
    ", correlationKeys=" ++ c.keys.shown ++ "]"

end Criteria

end Workflow.Correlation
