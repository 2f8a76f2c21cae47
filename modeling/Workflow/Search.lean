import Workflow.Action

/-!
# Searching for instances, jobs and tasks

Whatever guard a query comes with is replaced: the rows that are shown are those that the subject
may see, because of a permission on the row itself or because of one on its process.
-/

namespace Workflow

/-- The guard that shows the rows for which the subject has a permission on the resource that a
column names, or a permission on the process definition of the row. -/
def Authority.guardOr (a : Authority) (resource : Resource) (column : String)
    (onDefinition : Permission) : Guard :=
  a.alsoGuard (a.guardBy .read resource column) onDefinition .processDefinition
    Column.definitionKey

/-- The query that shows only process instances that the subject may see. -/
def InstanceQuery.guarded (q : InstanceQuery) (a : Authority) : InstanceQuery :=
  { q with guard := a.guardOr .processInstance Column.id .readInstances }

/-- The query that shows only jobs of process instances that the subject may see. -/
def JobQuery.guarded (q : JobQuery) (a : Authority) : JobQuery :=
  { q with guard := a.guardOr .processInstance Column.instanceId .readInstances }

/-- The query that shows only tasks that the subject may see. -/
def TaskQuery.guarded (q : TaskQuery) (a : Authority) : TaskQuery :=
  { q with guard := a.guardOr .task Column.id .readTasks }

namespace Search

/-- The process instances that meet a query and that the subject may see. -/
def instances (q : InstanceQuery) : Action (List Execution) :=
  Action.consult fun c s => .ok (s.selectInstances (q.guarded (c.authority s)))

/-- The jobs that meet a query and that the subject may see. -/
def jobs (q : JobQuery) : Action (List Job) :=
  Action.consult fun c s => .ok (s.selectJobs (q.guarded (c.authority s)))

/-- The tasks that meet a query and that the subject may see. -/
def tasks (q : TaskQuery) : Action (List Task) :=
  Action.consult fun c s => .ok (s.selectTasks (q.guarded (c.authority s)))

end Search

end Workflow
