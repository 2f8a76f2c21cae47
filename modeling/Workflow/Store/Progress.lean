import Workflow.Store

/-!
# Progress of executions

Delivering an event hands its variables to the process instance of the execution that waits and
uses the subscription up. Starting an instance files it at its first activity.
-/

namespace Workflow

namespace Store

/-- Put variables over those of an execution, if it is stored. -/
def setVariables (s : Store) (executionId : String) (vars : Variables) : Store :=
  { s with
    executions := s.executions.modify executionId fun e =>
      { e with vars := e.vars.union vars } }

/-- Hand an event to the execution that a subscription belongs to. -/
def deliver (s : Store) (subscription : Subscription) (payload : Option Variables) :
    Except Error Store := do
  let executionId ← match subscription.executionId with
    | some id => .ok id
    | none => .error (.invalid .noExecution)
  let execution ← row s.executions .execution executionId
  let resumed := match payload with
    | some vars => s.setVariables execution.instanceId vars
    | none => s
  return { resumed with
    subscriptions := resumed.subscriptions.erase subscription.id
    deliveries := resumed.deliveries ++ [⟨subscription, payload⟩] }

end Store

/-- A new process instance of a definition, standing at an activity. -/
def Execution.started (fresh : String) (definition : ProcessDefinition)
    (businessKey activityId : Option String) (vars : Variables) : Execution :=
  { Execution.instanceOf fresh definition with
    businessKey := businessKey
    activityId := activityId
    vars := vars }

end Workflow
