/-!
# Suspension states

Process definitions, executions, tasks, job definitions and jobs are active or suspended.
-/

namespace Workflow

/-- Whether a resource may make progress. -/
inductive SuspensionState where
  | active
  | suspended
  deriving DecidableEq, Repr, Inhabited

namespace SuspensionState

/-- The number under which a state is stored. -/
def code : SuspensionState → Nat
  | active => 1
  | suspended => 2

/-- The name of a state. -/
def name : SuspensionState → String
  | active => "active"
  | suspended => "suspended"

/-- Whether the state forbids progress. -/
def isSuspended (s : SuspensionState) : Bool := s = suspended

end SuspensionState

end Workflow
