import Workflow.Action

/-!
# Work on tasks

Handing a task to somebody else and setting its priority. Both leave an entry in the audit log that
says what the property was before and what it is now.
-/

namespace Workflow.TaskWork

/-- The task that is to be worked on. -/
def find (taskId : Option String) : Action Task := do
  let id ← Action.decided (ensureGiven "taskId" taskId)
  Action.consult fun _ s =>
    match s.tasks.get? id with
    | some t => .ok t
    | none => .error (.missing (.task id))

/-- What the audit log says of a change to a task. -/
def entry (operation : String) (t : Task) (change : PropertyChange) : LogEntry :=
  { LogEntry.new operation "Task" with
    taskId := some t.id
    instanceId := t.instanceId
    definitionId := t.definitionId
    definitionKey := t.definitionKey
    changes := [change] }

/-- Hand a task to a user. -/
def delegate (taskId user : Option String) : Action Unit := do
  let t ← find taskId
  let user ← Action.decided (ensureGiven "userId" user)
  Action.authorize (·.requireUpdateTask t)
  Action.modify (·.replaceTask (t.delegate user))
  Action.audit (entry "Delegate" (t.delegate user) ⟨"delegation", t.assignee, some user⟩)

/-- Set the priority of a task. -/
def setPriority (taskId : Option String) (priority : Int) : Action Unit := do
  let t ← find taskId
  Action.authorize (·.requireUpdateTask t)
  let changed := { t with priority := priority }
  Action.modify (·.replaceTask changed)
  Action.audit
    (entry "SetPriority" changed
      ⟨"priority", some (toString t.priority), some (toString priority)⟩)

end Workflow.TaskWork
