import Conveyor.Exception

/-!
# Events

What a queue announces to its subscribers, and the filters by which they choose.
-/

namespace Conveyor

inductive EventType where
  | itemFailed
  | addFailed
  | addingCompleted
  | completed
  | disposed
deriving DecidableEq

namespace EventType

def name : EventType → String
  | .itemFailed => "ItemFailed"
  | .addFailed => "AddFailed"
  | .addingCompleted => "AddingCompleted"
  | .completed => "Completed"
  | .disposed => "Disposed"

/-- The events that report a failure; all others mark a step of the queue's life. -/
def isException : EventType → Bool
  | .itemFailed | .addFailed => true
  | .addingCompleted | .completed | .disposed => false

end EventType

structure QueueEvent where
  type : EventType
  queue : String
  /-- How many items were pending, or abandoned if the event is `disposed`. -/
  size : Option Nat := none
  exception : Option QueueException := none
deriving DecidableEq

/-- The event of a raised exception; its type follows the kind of exception. -/
def QueueEvent.ofException (e : QueueException) : QueueEvent where
  type := match e.kind with
    | .handler => .itemFailed
    | .add => .addFailed
  queue := e.queue
  exception := some e

inductive EventFilter where
  | exceptionsOnly
  | lifecycleOnly
  | all
deriving DecidableEq

def EventFilter.accepts : EventFilter → QueueEvent → Bool
  | .all, _ => true
  | .exceptionsOnly, e => e.type.isException
  | .lifecycleOnly, e => !e.type.isException

end Conveyor
