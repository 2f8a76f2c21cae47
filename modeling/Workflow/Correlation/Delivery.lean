import Workflow.Action
import Workflow.Correlation.Lookup
import Workflow.Store.Progress

/-!
# Delivering messages

Delivery has three phases: the targets are looked up, whoever asks; the subject must be permitted
to act on every one of them; only then is the message handed out. So a delivery that is denied has
changed nothing.

* `correlate` needs exactly one target: the execution that waits or, if none does, a definition.
* `correlateAll` takes all executions that wait and a definition besides.
* `receive` addresses one execution, `startInstance` one start event.
-/

namespace Workflow.Correlation

/-- To act on a target: to change its instance, or to start one. -/
def Match.require (m : Match) (a : Authority) : Except Error Unit :=
  match m with
  | .waiting execution _ => a.requireUpdateInstance execution.instanceId execution.definitionKey
  | .start definition _ => a.requireStart definition.key

/-- Hand an event to an execution. -/
def deliver (subscription : Subscription) (payload : Option Variables) : Action Unit :=
  Action.modify (·.deliver subscription payload)

/-- Start an instance of a definition. -/
def start (definition : ProcessDefinition) (businessKey activityId : Option String)
    (vars : Variables) : Action Execution := do
  let e := Execution.started (← Action.fresh) definition businessKey activityId vars
  Action.update (·.putExecution e)
  return e

/-- Hand the message to a target. -/
def Message.dispatch (m : Message) : Match → Action Unit
  | .waiting _ subscription => deliver subscription m.payload
  | .start definition activityId =>
    discard (start definition m.criteria.businessKey activityId m.vars)

/-- The only one of several targets. -/
def Message.single (m : Message) : List Match → Except Error Match
  | [target] => .ok target
  | targets => .error (.ambiguous (.targets m.name targets.length m.criteria))

/-- The targets for a delivery to one: the executions that wait or, if none does, a definition. -/
def Lookup.candidates (l : Lookup) (m : Message) (s : Store) : Except Error (List Match) := do
  match ← l.waiting s m.name m.criteria with
  | [] => return (← l.start s m.name m.criteria).toList
  | waiting => return waiting

/-- The targets for a delivery to all: the executions that wait, then a definition. -/
def Lookup.all (l : Lookup) (m : Message) (s : Store) : Except Error (List Match) := do
  let waiting ← l.waiting s m.name m.criteria
  return waiting ++ (← l.start s m.name m.criteria).toList

/-- To act on every target. -/
def requireAll (a : Authority) : List Match → Except Error Unit
  | [] => .ok ()
  | m :: rest => do
    m.require a
    requireAll a rest

/-- Hand the message to every target in turn. -/
def Message.dispatchAll (m : Message) : List Match → Action Unit
  | [] => pure ()
  | target :: rest => do
    m.dispatch target
    m.dispatchAll rest

/-- Deliver a message to its one target. The subject must be permitted to act on every candidate,
even if there are too many. -/
def correlate (l : Lookup) (m : Message) : Action Match := do
  Action.decided m.requireCriteria
  let candidates ← Action.consult fun _ s => l.candidates m s
  Action.authorize (requireAll · candidates)
  let target ← Action.decided (m.single candidates)
  m.dispatch target
  return target

/-- Deliver a message to all its targets. -/
def correlateAll (l : Lookup) (m : Message) : Action (List Match) := do
  Action.decided m.requireCriteria
  let targets ← Action.consult fun _ s => l.all m s
  Action.authorize (requireAll · targets)
  m.dispatchAll targets
  return targets

/-- The only subscription of an execution to a message. -/
def subscriptionFor (s : Store) (executionId : String) (name : Option String) :
    Except Error Subscription :=
  match s.subscriptionsOf executionId .message name with
  | [subscription] => .ok subscription
  | [] => .error (.missing (.subscription executionId name))
  | several => .error (.ambiguous (.subscriptions name several.length executionId))

/-- The process instance that a subscription names. -/
def instanceOf (s : Store) (subscription : Subscription) (executionId : String) :
    Except Error Execution :=
  match subscription.instanceId with
  | some id => Store.row s.executions .processInstance id
  | none => .error (.missing (.row .processInstance executionId))

/-- Deliver a message to one execution. -/
def receive (name executionId : Option String) (payload : Option Variables) : Action Unit := do
  let executionId ← Action.decided (ensureGiven "executionId" executionId)
  let subscription ← Action.consult fun _ s => subscriptionFor s executionId name
  let owner ← Action.consult fun _ s => instanceOf s subscription executionId
  Action.authorize (·.requireUpdateInstance owner.instanceId owner.definitionKey)
  deliver subscription payload

/-- The start event for a message. -/
def startEventFor (s : Store) (name : String) : Except Error Subscription :=
  match s.startSubscription? name with
  | some subscription => .ok subscription
  | none => .error (.missing (.startEvent name))

/-- The process definition that a start event starts. -/
def startedDefinition (s : Store) (subscription : Subscription) (name : String) :
    Except Error ProcessDefinition :=
  match subscription.configuration with
  | none => .error (.invalid (.notStartEvent name))
  | some id =>
    match s.definitions.get? id with
    | some definition => .ok definition
    | none => .error (.missing (.startedDefinition id))

/-- Start an instance by a message. -/
def startInstance (name businessKey : Option String) (vars : Variables) :
    Action Execution := do
  let name ← match name with
    | some name => pure name
    | none => Action.fail (.invalid .noMessageName)
  let subscription ← Action.consult fun _ s => startEventFor s name
  let definition ← Action.consult fun _ s => startedDefinition s subscription name
  Action.authorize (·.requireStart definition.key)
  start definition businessKey subscription.activityId vars

end Workflow.Correlation
