import Workflow.Correlation.Criteria
import Workflow.Grant
import Workflow.Suspension.State
import Workflow.Suspension.Target

/-!
# Errors

An `Error` says why a command was not carried out: the request was `Invalid`, the subject lacks a
permission, something is `Missing`, a message is `Ambiguous`, storage failed, or stored text could
not be read. Each cause keeps what it is about; the wording stands in the `message` functions.
-/

namespace Workflow

open Suspension (Target SelectorKind RowSelector)

/-- What a request can lack or have too much of. -/
inductive Invalid where
  /-- The shape of a grant is wrong. -/
  | grant (fault : Grant.Fault)
  /-- An argument was not given. -/
  | absent (what : String)
  /-- An argument was not given, or is empty. -/
  | absentOrEmpty (what : String)
  /-- Grants on a resource are to be deleted, but none is named. -/
  | noResourceId
  /-- A change names something that its kind of resource is not addressed by. -/
  | selectorKind (target : Target) (kind : SelectorKind)
  /-- Rows of this kind cannot be picked like this. -/
  | rowSelector (target : Target) (selector : RowSelector)
  /-- A change names no resource. -/
  | noSelector (target : Target)
  /-- A deferred change was given to the handler of another. -/
  | handler (handlerType : String) (state : SuspensionState) (target : Target)
  /-- A message has neither a name nor criteria. -/
  | noCriteria
  /-- An instance is to be started by a message without a name. -/
  | noMessageName
  /-- The subscription found for a message does not say what to start. -/
  | notStartEvent (message : String)
  /-- An event is to be delivered to a start event. -/
  | noExecution
  /-- Anything else. -/
  | other (reason : String)
  deriving DecidableEq

namespace Invalid

/-- What is wrong with a grant, in words. -/
def grantMessage : Grant.Fault → String
  | .everybodyWithUser user =>
    "Illegal value '" ++ user.getD "null" ++ "' for userId for GLOBAL authorization: must be '*'"
  | .everybodyWithGroup => "Cannot use groupId for GLOBAL authorization"
  | .noSubject => "Authorization must either have a 'userId' or a 'groupId'"
  | .twoSubjects => "Authorization must either have a 'userId' or a 'groupId', not both"
  | .emptyResourceId => "Authorization resourceId is empty"

/-- What a change of a kind of resource has to name, in words. -/
def selectorMessage : Target → String
  | .processDefinition => "Process definition id nor process definition key cannot be null"
  | .processInstance =>
    "ProcessInstanceId, ProcessDefinitionId nor ProcessDefinitionKey cannot be null."
  | .jobDefinition =>
    "Job definition id, process definition id nor process definition key cannot be null"
  | .job =>
    "Job id, job definition id, process instance id, process definition id nor " ++
      "process definition key cannot be null"

/-- The fault in words. -/
def message : Invalid → String
  | grant fault => grantMessage fault
  | absent what => what ++ " is null"
  | absentOrEmpty what => what ++ " is null or empty"
  | noResourceId => "Resource id cannot be null"
  | selectorKind target kind => "Cannot select " ++ target.name ++ " by " ++ kind.name
  | rowSelector target selector => "Cannot select " ++ target.name ++ " by " ++ selector.shown
  | noSelector target => selectorMessage target
  | handler handlerType state target =>
    "Job handler '" ++ handlerType ++ "' cannot " ++ state.name ++ " a " ++ target.name
  | noCriteria =>
    "At least one of the following correlation criteria has to be present: " ++
      "messageName, businessKey, correlationKeys, processInstanceId"
  | noMessageName => "Cannot start process instance by message: message name is null"
  | notStartEvent message =>
    "Cannot start process instance by message: subscription to message with name '" ++ message ++
      "' is not a message start event"
  | noExecution => "Subscription has no execution"
  | other reason => reason

end Invalid

/-- A permission that a subject lacks. -/
structure Denial where
  /-- The user. -/
  user : String
  /-- The permission. -/
  permission : Permission
  /-- The kind of resource. -/
  resource : Resource
  /-- The resource, if it is one in particular. -/
  resourceId : Option String
  deriving DecidableEq, Repr

/-- The denial in words. -/
def Denial.message (d : Denial) : String :=
  "The user with id '" ++ d.user ++ "' does not have '" ++ d.permission.name ++
    "' permission on resource '" ++
    match d.resourceId with
    | some id => id ++ "' of type '" ++ d.resource.name ++ "'."
    | none => d.resource.name ++ "'."

/-- The kinds of row that commands look up by id. -/
inductive RowKind where
  | grant
  | processDefinition
  | processInstance
  | execution
  | jobDefinition
  | job
  | task
  deriving DecidableEq, Repr

/-- The name of a kind of row. -/
def RowKind.name : RowKind → String
  | grant => "authorization"
  | processDefinition => "process definition"
  | processInstance => "process instance"
  | execution => "execution"
  | jobDefinition => "job definition"
  | job => "job"
  | task => "task"

/-- The kind of row that holds a resource whose state can be changed. -/
def Suspension.Target.rowKind : Target → RowKind
  | .processDefinition => .processDefinition
  | .processInstance => .processInstance
  | .jobDefinition => .jobDefinition
  | .job => .job

/-- Something that a command needs and that does not exist. -/
inductive Missing where
  /-- A row. -/
  | row (kind : RowKind) (id : String)
  /-- The task to work on. -/
  | task (id : String)
  /-- A handler for a type of deferred job. -/
  | handler (handlerType : String)
  /-- A subscription of an execution to a message. -/
  | subscription (executionId : String) (message : Option String)
  /-- A start event for a message. -/
  | startEvent (message : String)
  /-- The process definition that a start event belongs to. -/
  | startedDefinition (id : String)
  /-- Anything else, with words of its own if need be. -/
  | other (kind id : String) (text : Option String)
  deriving DecidableEq

namespace Missing

/-- What kind of thing is missing. -/
def kind : Missing → String
  | row kind _ => kind.name
  | task _ => "task"
  | handler _ => "job handler"
  | subscription _ _ => "event subscription"
  | startEvent _ => "message start event subscription"
  | startedDefinition _ => "process definition"
  | other kind _ _ => kind

/-- What it was looked up by. -/
def id : Missing → String
  | row _ id => id
  | task id => id
  | handler handlerType => handlerType
  | subscription executionId _ => executionId
  | startEvent message => message
  | startedDefinition id => id
  | other _ id _ => id

/-- The usual words for a thing that is not there. -/
def plainMessage (kind id : String) : String := "Cannot find " ++ kind ++ " with id '" ++ id ++ "'"

/-- What is missing, in words. -/
def message : Missing → String
  | row kind id => plainMessage kind.name id
  | task id => "Cannot find task with id " ++ id
  | handler handlerType => "No job handler registered for type '" ++ handlerType ++ "'"
  | subscription executionId message =>
    "Execution with id '" ++ executionId ++
      "' does not have a subscription to a message event with name '" ++
      message.getD "null" ++ "'"
  | startEvent message =>
    "Cannot start process instance by message: no subscription to message with name '" ++
      message ++ "' found"
  | startedDefinition id => "No process definition found for id '" ++ id ++ "'"
  | other kind id text => text.getD (plainMessage kind id)

end Missing

/-- A message that has no target, or more than one, where it needs exactly one. -/
inductive Ambiguous where
  /-- So many targets meet the criteria. -/
  | targets (message : Option String) (found : Nat) (criteria : Correlation.Criteria)
  /-- So many subscriptions of one execution are to the message. -/
  | subscriptions (message : Option String) (found : Nat) (executionId : String)
  /-- Anything else. -/
  | other (message : Option String) (found : Nat) (text : String)
  deriving DecidableEq

namespace Ambiguous

/-- The name of the message. -/
def messageName : Ambiguous → Option String
  | targets name _ _ | subscriptions name _ _ | other name _ _ => name

/-- How many targets there are. -/
def found : Ambiguous → Nat
  | targets _ n _ | subscriptions _ n _ | other _ n _ => n

/-- The ambiguity in words. -/
def message : Ambiguous → String
  | targets name 0 _ =>
    "Cannot correlate message '" ++ name.getD "null" ++
      "': no process definition or execution matches the parameters"
  | targets name n criteria =>
    "Cannot correlate a message with name '" ++ name.getD "null" ++
      "' to a single execution. " ++ toString n ++
      " executions match the correlation keys: " ++ criteria.shown
  | subscriptions _ _ executionId =>
    "More than one matching message subscription found for execution " ++ executionId
  | other _ _ text => text

end Ambiguous

/-- A failure of storage. -/
inductive StorageFault where
  /-- A grant is to be added under an id that is taken. -/
  | duplicateGrant (id : String)
  /-- Anything else. -/
  | other (reason : String)
  deriving DecidableEq, Repr

/-- The failure in words. -/
def StorageFault.message : StorageFault → String
  | duplicateGrant id => "Authorization with id '" ++ id ++ "' already exists"
  | other reason => reason

/-- Why a command was not carried out. -/
inductive Error where
  /-- The request is malformed or incomplete. -/
  | invalid (fault : Invalid)
  /-- The subject lacks a permission. -/
  | denied (denial : Denial)
  /-- Something that is needed does not exist. -/
  | missing (what : Missing)
  /-- A message does not have exactly one target. -/
  | ambiguous (which : Ambiguous)
  /-- Storage failed. -/
  | storage (fault : StorageFault)
  /-- Stored text could not be read. -/
  | unreadable
  deriving DecidableEq

namespace Error

/-- The error in words. -/
def message : Error → String
  | invalid fault => "Validation failed: " ++ fault.message
  | denied denial => denial.message
  | missing what => what.message
  | ambiguous which => which.message
  | storage fault => "Storage error: " ++ fault.message
  | unreadable => "Serialization error"

/-- The part of a message that records show. What a text had in the way of reading it is left out:
where a message begins with the words for that, only these words are shown. -/
def shown (message : String) : String :=
  let words := unreadable.message
  if words.toList.isPrefixOf message.toList then words else message

/-- What is shown is how the message begins. -/
theorem shown_prefix (message : String) : (shown message).toList <+: message.toList := by
  by_cases h : unreadable.message.toList.isPrefixOf message.toList
  · simpa [shown, h] using List.isPrefixOf_iff_prefix.1 h
  · simp [shown, h]

/-- Whether the same request may succeed when it is made again: only storage is that fickle. -/
def isRetryable : Error → Bool
  | storage _ => true
  | _ => false

/-- Whether the subject lacks a permission. -/
def isDenied : Error → Bool
  | denied _ => true
  | _ => false

/-- Whether something does not exist. -/
def isMissing : Error → Bool
  | missing _ => true
  | _ => false

end Error

/-- An argument that must be given. -/
def ensureGiven {α : Type} (what : String) : Option α → Except Error α
  | some a => .ok a
  | none => .error (.invalid (.absent what))

/-- A text that must be given and not be empty. -/
def ensureNotEmpty (what : String) : Option String → Except Error String
  | some "" | none => .error (.invalid (.absentOrEmpty what))
  | some text => .ok text

end Workflow
