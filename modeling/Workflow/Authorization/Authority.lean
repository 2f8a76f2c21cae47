import Workflow.Authorization.Guard
import Workflow.Error

/-!
# What a subject may do

An `Authority` is what decides about permissions while a command runs: whether they are enforced,
for whom, and by which grants. Where they are not enforced, or nobody is named, everything is
permitted.

* `permitsAny` asks, `requireAny` fails with the denial of the last alternative.
* `requireStart`, `requireInstance`, `requireTask` and the others say what commands need.
* `guardBy` and `alsoGuard` make the guard of a query.
-/

namespace Workflow

/-- What decides about permissions. -/
structure Authority where
  /-- Whether permissions are enforced. -/
  enforced : Bool
  /-- Who needs them. -/
  subject : Option Subject
  /-- The grants that decide. -/
  grants : List Grant
  deriving DecidableEq

namespace Authority

/-- Who needs permissions; nobody does where they are not enforced. -/
def bound? (a : Authority) : Option Subject := if a.enforced then a.subject else none

/-! ## Asking and requiring -/

/-- Whether one of several alternative checks is satisfied. -/
def permitsAny (a : Authority) (checks : List Check) : Bool :=
  match a.bound? with
  | some s => satisfiesAny a.grants s checks
  | none => true

/-- Whether the subject has a permission. -/
def permits (a : Authority) (permission : Permission) (resource : Resource)
    (resourceId : Option String) : Bool :=
  a.permitsAny [.new permission resource resourceId]

/-- Whether somebody other than the subject has a permission. -/
def permitsSubject (a : Authority) (s : Subject) (permission : Permission) (resource : Resource)
    (resourceId : Option String) : Bool :=
  !a.enforced || satisfiesAny a.grants s [.new permission resource resourceId]

/-- Fail unless one of several alternative checks is satisfied. The denial is about the last of
them; where there is none, nothing is required. -/
def requireAny (a : Authority) (checks : List Check) : Except Error Unit :=
  match a.bound? with
  | none => .ok ()
  | some s =>
    if a.permitsAny checks then .ok ()
    else
      match checks.getLast? with
      | some c => .error (.denied ⟨s.user, c.permission, c.resource, c.resourceId⟩)
      | none => .ok ()

/-- Fail unless the subject has a permission. -/
def require (a : Authority) (permission : Permission) (resource : Resource)
    (resourceId : Option String) : Except Error Unit :=
  a.requireAny [.new permission resource resourceId]

/-! ## What commands need -/

/-- To start an instance: to create instances at all, and instances of this process. -/
def requireStart (a : Authority) (definitionKey : String) : Except Error Unit := do
  a.require .create .processInstance none
  a.require .createInstances .processDefinition (some definitionKey)

/-- To act on an instance: a permission on it, or one on all instances of its process. -/
def requireInstance (a : Authority) (onInstance onDefinition : Permission)
    (instanceId definitionKey : String) : Except Error Unit :=
  a.requireAny
    [.new onInstance .processInstance (some instanceId),
      { Check.new onDefinition .processDefinition (some definitionKey) with
        unmatched := some false }]

/-- To see an instance. -/
def requireReadInstance (a : Authority) : String → String → Except Error Unit :=
  a.requireInstance .read .readInstances

/-- To change an instance. -/
def requireUpdateInstance (a : Authority) : String → String → Except Error Unit :=
  a.requireInstance .update .updateInstances

/-- To delete an instance. -/
def requireDeleteInstance (a : Authority) : String → String → Except Error Unit :=
  a.requireInstance .delete .deleteInstances

/-- To change all instances of a process. -/
def requireUpdateInstances (a : Authority) (definitionKey : String) : Except Error Unit :=
  a.require .updateInstances .processDefinition (some definitionKey)

/-- To change a process definition. -/
def requireUpdateDefinition (a : Authority) (definitionKey : String) : Except Error Unit :=
  a.require .update .processDefinition (some definitionKey)

/-- To act on a task. A task of an execution needs a permission on it, or one on all tasks of its
process; a task of its own needs the former; a task of a case needs nothing. -/
def requireTask (a : Authority) (onTask onDefinition : Permission) (t : Task) :
    Except Error Unit :=
  if t.executionId.isSome then
    let ofTask := Check.new onTask .task (some t.id)
    match t.definitionKey with
    | some key =>
      a.requireAny
        [ofTask,
          { Check.new onDefinition .processDefinition (some key) with unmatched := some false }]
    | none => a.requireAny [ofTask]
  else if t.caseExecutionId.isNone then a.require onTask .task (some t.id)
  else .ok ()

/-- To see a task. -/
def requireReadTask (a : Authority) : Task → Except Error Unit := a.requireTask .read .readTasks

/-- To work on a task. -/
def requireUpdateTask (a : Authority) : Task → Except Error Unit :=
  a.requireTask .update .updateTasks

/-! ## Guards of queries -/

/-- The guard that shows the rows for which the subject has a permission on the resource that a
column names. -/
def guardBy (a : Authority) (permission : Permission) (resource : Resource) (column : String) :
    Guard :=
  let checks := [Check.ofColumn permission resource column]
  match a.bound? with
  | some s => ⟨true, some s.user, s.groups, checks⟩
  | none => ⟨false, none, [], checks⟩

/-- A guard that shows more: also the rows for which the subject has this permission. -/
def alsoGuard (a : Authority) (g : Guard) (permission : Permission) (resource : Resource)
    (column : String) : Guard :=
  match a.bound? with
  | some _ => { g with checks := g.checks ++ [Check.ofColumn permission resource column] }
  | none => g

end Authority

end Workflow
