/-!
# The audit log

Every administrative operation leaves one `LogEntry`: what was done to what, by whom, and how a
property changed.
-/

namespace Workflow

/-- How an operation changed one property. -/
structure PropertyChange where
  /-- The name of the property. -/
  property : String
  /-- The value before. -/
  before : Option String
  /-- The value after. -/
  after : Option String
  deriving DecidableEq, Repr

/-- What the audit log keeps of one operation. Entries also have an id, which is generated, and the
time at which they were made; both are left out here, since nothing reads them, and the log keeps
its entries in the order in which they were made. -/
structure LogEntry where
  /-- What was done. -/
  operation : String
  /-- The kind of thing it was done to. -/
  entity : String
  /-- On whose behalf; absent for work of the engine itself. -/
  user : Option String
  /-- The job it was done to. -/
  jobId : Option String
  /-- The job definition it was done to or through. -/
  jobDefinitionId : Option String
  /-- The process instance it was done to or through. -/
  instanceId : Option String
  /-- The process definition it was done to or through. -/
  definitionId : Option String
  /-- The key of the definition it was done to or through. -/
  definitionKey : Option String
  /-- The task it was done to. -/
  taskId : Option String
  /-- What changed. -/
  changes : List PropertyChange
  deriving DecidableEq, Repr

/-- An entry that only says what was done to what kind of thing. -/
def LogEntry.new (operation entity : String) : LogEntry :=
  ⟨operation, entity, none, none, none, none, none, none, none, []⟩

end Workflow
