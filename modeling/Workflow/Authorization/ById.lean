import Workflow.Action

/-!
# Requirements on resources named by id

Some requirements are about the key of a process definition or about the process instance of an
execution. Where a request gives an id, the row is looked up first and has to be there.
-/

namespace Workflow.Context

/-- To see the process instance of the execution of this id. -/
def requireReadInstance (c : Context) (s : Store) (id : String) : Except Error Unit := do
  let e ← Store.row s.executions .processInstance id
  (c.authority s).requireReadInstance e.instanceId e.definitionKey

/-- To change the process instance of the execution of this id. -/
def requireUpdateInstance (c : Context) (s : Store) (id : String) : Except Error Unit := do
  let e ← Store.row s.executions .processInstance id
  (c.authority s).requireUpdateInstance e.instanceId e.definitionKey

/-- To change all instances of the process whose definition has this id. -/
def requireUpdateInstances (c : Context) (s : Store) (definitionId : String) :
    Except Error Unit := do
  let d ← Store.row s.definitions .processDefinition definitionId
  (c.authority s).requireUpdateInstances d.key

/-- To change the process definition of this id. -/
def requireUpdateDefinition (c : Context) (s : Store) (definitionId : String) :
    Except Error Unit := do
  let d ← Store.row s.definitions .processDefinition definitionId
  (c.authority s).requireUpdateDefinition d.key

end Workflow.Context
