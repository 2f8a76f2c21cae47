/-!
# Protected resources

A `Resource` is a kind of thing that grants protect. A grant names one resource by its id, or all
of a kind by the id `anyId`.
-/

namespace Workflow

/-- A kind of thing that grants protect. -/
inductive Resource where
  | application
  | user
  | group
  | groupMembership
  | authorization
  | filter
  | processDefinition
  | task
  | processInstance
  deriving DecidableEq, Repr

/-- The id that stands for every resource of a kind, and for every user. -/
def anyId : String := "*"

namespace Resource

/-- Every kind, in order of number. -/
def values : List Resource :=
  [application, user, group, groupMembership, authorization, filter, processDefinition, task,
    processInstance]

/-- The number under which a kind is stored. -/
def number : Resource → Nat
  | application => 0
  | user => 1
  | group => 2
  | groupMembership => 3
  | authorization => 4
  | filter => 5
  | processDefinition => 6
  | task => 7
  | processInstance => 8

/-- The name of a kind. -/
def name : Resource → String
  | application => "Application"
  | user => "User"
  | group => "Group"
  | groupMembership => "GroupMembership"
  | authorization => "Authorization"
  | filter => "Filter"
  | processDefinition => "ProcessDefinition"
  | task => "Task"
  | processInstance => "ProcessInstance"

/-- The kind stored under a number. -/
def ofNumber? (n : Int) : Option Resource := values.find? fun r => (r.number : Int) = n

end Resource

end Workflow
