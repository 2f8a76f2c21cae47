/-!
# Event subscriptions

An execution that waits for an event has a `Subscription` to it. A subscription without an
execution belongs to the start event of a process definition.
-/

namespace Workflow

/-- The kinds of event that can be waited for. -/
inductive EventType where
  | message
  | signal
  | compensate
  deriving DecidableEq, Repr

/-- A registration for an event. -/
structure Subscription where
  /-- The id of the subscription. -/
  id : String
  /-- The kind of event. -/
  eventType : EventType
  /-- The name of the event. -/
  eventName : Option String
  /-- The execution that waits; absent for a start event. -/
  executionId : Option String
  /-- The process instance of that execution. -/
  instanceId : Option String
  /-- The process definition it belongs to. -/
  definitionId : Option String
  /-- The activity that waits, or that a new instance starts at. -/
  activityId : Option String
  /-- For a start event, the definition to create an instance of. -/
  configuration : Option String
  /-- When it was created. -/
  created : Int
  deriving DecidableEq

namespace Subscription

/-- The subscription of an execution to a message. -/
def toMessage (fresh name executionId instanceId activityId : String) (created : Int) :
    Subscription where
  id := fresh
  eventType := .message
  eventName := some name
  executionId := some executionId
  instanceId := some instanceId
  definitionId := none
  activityId := some activityId
  configuration := none
  created := created

/-- The subscription of a start event of a process definition to a message. -/
def toStartMessage (fresh name definitionId activityId : String) (created : Int) :
    Subscription where
  id := fresh
  eventType := .message
  eventName := some name
  executionId := none
  instanceId := none
  definitionId := some definitionId
  activityId := some activityId
  configuration := some definitionId
  created := created

/-- Whether a message is waited for. -/
def isMessage (s : Subscription) : Bool := s.eventType = .message

/-- Whether the subscription belongs to a start event. -/
def isStart (s : Subscription) : Bool := s.executionId.isNone

/-- Whether the subscription is to an event of this name. -/
def isNamed (s : Subscription) (name : String) : Bool := s.eventName = some name

/-- Whether this execution waits. -/
def isOf (s : Subscription) (executionId : String) : Bool := s.executionId = some executionId

end Subscription

end Workflow
