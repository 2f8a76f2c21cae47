import Workflow.Permission
import Workflow.Resource
import Workflow.Job
import Workflow.Task
import Workflow.Grant

/-!
# Checks

A `Check` asks for one permission on one resource. Several checks that are handed over together are
alternatives: it is enough that one of them is satisfied.

Where rows of a table are filtered, a check is bound to each row in turn: it names the `Column` that
holds the resource id. Every kind of row that can be filtered says what its columns hold.
-/

namespace Workflow

/-- Does somebody have a permission on a resource? -/
structure Check where
  /-- The permission asked for. -/
  permission : Permission
  /-- The kind of resource. -/
  resource : Resource
  /-- The resource; without one only grants on all resources of the kind count. -/
  resourceId : Option String
  /-- The column of a filtered row that holds the resource id. -/
  column : Option String
  /-- The answer when no grant is about the resource. -/
  unmatched : Option Bool
  deriving DecidableEq, Repr

namespace Check

/-- A check for a resource, or for all resources of a kind. -/
def new (permission : Permission) (resource : Resource) (resourceId : Option String) : Check :=
  ⟨permission, resource, resourceId, none, none⟩

/-- A check for the resource whose id a filtered row has in a column. -/
def ofColumn (permission : Permission) (resource : Resource) (column : String) : Check :=
  ⟨permission, resource, none, some column, none⟩

/-- The same check for another resource. -/
def withResourceId (c : Check) (resourceId : Option String) : Check :=
  { c with resourceId := resourceId }

end Check

/-! ## Columns -/

/-- What the columns of a row hold. -/
abbrev Columns : Type := String → Option String

namespace Column

/-- The column of the row's own id. -/
def id : String := "RES.ID_"

/-- The column of the process instance that owns the row. -/
def instanceId : String := "RES.PROC_INST_ID_"

/-- The column of the key of the process definition that owns the row. -/
def definitionKey : String := "PROCDEF.KEY_"

end Column

/-- The columns of a row inside a process. -/
def processColumns (id : String) (instanceId definitionKey : Option String) : Columns := fun name =>
  if name = Column.id then some id
  else if name = Column.instanceId then instanceId
  else if name = Column.definitionKey then definitionKey
  else none

/-- The columns of an execution. -/
def Execution.columns (e : Execution) : Columns :=
  processColumns e.id (some e.instanceId) (some e.definitionKey)

/-- The columns of a job. -/
def Job.columns (j : Job) : Columns := processColumns j.id j.instanceId j.definitionKey

/-- The columns of a task. -/
def Task.columns (t : Task) : Columns := processColumns t.id t.instanceId t.definitionKey

/-- The columns of a grant: it belongs to no process. -/
def Grant.columns (g : Grant) : Columns := processColumns g.id none none

/-- A check bound to a row: its resource id is what its column holds. -/
def Check.bindTo (c : Check) (row : Columns) : Check := c.withResourceId (c.column.bind row)

end Workflow
