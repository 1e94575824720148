import Conveyor.Exception
import Conveyor.Log.Level

/-!
# Notices

What the program writes to its log. A notice has a level, a text and a place: the target it is filed under and the
line number that the extended formats show.
-/

namespace Conveyor.Log

/-- Where a notice is filed. -/
structure Place where
  target : String
  line : Nat
deriving DecidableEq

/-- Everything that the program writes to its log. -/
inductive Notice where
  | queueStarted (queue : String) (workers : Nat) (capacity : Option Nat)
  | workerStarted (queue : String) (worker : Nat)
  | workerStopped (queue : String) (worker : Nat)
  | raised (exception : QueueException)
  | callbackPanicked (exception : QueueException)
  | addingEnded (queue : String)
  | drained (queue : String)
  | disposed (queue : String) (abandoned : Nat)
  | publishFailed (queue : String) (reason : String)
  | subscriptionReplaced (subscriber oldSource newSource : String)
  | subscriberRemoved (subscriber : String)
  | itemHandled (id : Nat)
  | configurationLoaded (path : String)
  | runStarted (queue : String) (items producers workers : Nat)
  | producerFinished (accepted : Nat)
  | producerStopped (reason : String)
  | shuttingDown (queue : String)
  | exceptionObserved (kind : ExceptionKind) (cause : Cause)
  | exceptionsObserved (count : Nat)
  | failuresDiffer (expected seen : Nat)
  | interrupted
  | interruptedAgain
  /-- The words of a reported error, or of the operation that failed. -/
  | fatal (text : String) (forUser : Bool)
  | errorText (text : String)
  | errorDetail (text : String)
deriving DecidableEq

namespace Notice

def level : Notice → Level
  | callbackPanicked _ | fatal .. => .error
  | raised _ | subscriptionReplaced .. | producerStopped _ | failuresDiffer .. | interruptedAgain => .warn
  | drained _ | disposed .. | runStarted .. | shuttingDown _ | interrupted => .info
  | itemHandled _ => .trace
  | queueStarted .. | workerStarted .. | workerStopped .. | addingEnded _ | publishFailed .. | subscriberRemoved _
  | configurationLoaded _ | producerFinished _ | exceptionObserved .. | exceptionsObserved _ | errorText _
  | errorDetail _ => .debug

def text : Notice → String
  | queueStarted q workers capacity =>
    s!"Queue '{q}' started with {workers} worker(s), capacity " ++
      (match capacity with | none => "unbounded" | some c => toString c)
  | workerStarted q i => s!"Worker {i} started for queue '{q}'"
  | workerStopped q i => s!"Worker {i} stopped for queue '{q}'"
  | raised e => s!"Queue '{e.queue}': {e.message} ({e.cause.message})"
  | callbackPanicked e =>
    s!"Exception handler for queue '{e.queue}' panicked while handling: {e.cause.message}"
  | addingEnded q => s!"Queue '{q}' no longer accepting items"
  | drained q => s!"Queue '{q}' drained; all items handled"
  | disposed q n => s!"Queue '{q}' disposed; {n} pending item(s) abandoned"
  | publishFailed q reason => s!"Queue '{q}': {reason}"
  | subscriptionReplaced id old new =>
    s!"Subscriber '{id}' replaced existing subscription (source: {old} -> {new})"
  | subscriberRemoved id => s!"Removed subscriber '{id}' with closed channel"
  | itemHandled id => s!"Handled item {id}"
  | configurationLoaded path => s!"Loaded configuration from {path}"
  | runStarted q items producers workers =>
    s!"Queue '{q}': {items} item(s) from {producers} producer(s) into {workers} worker(s)"
  | producerFinished n => s!"Producer finished after {n} item(s)"
  | producerStopped reason => s!"Producer stopped: {reason}"
  | shuttingDown q => s!"Shutting down queue '{q}'"
  | exceptionObserved kind cause =>
    (match kind with | .add => "enqueue" | .handler => "handler") ++ " exception: " ++ cause.message
  | exceptionsObserved n => s!"Exception events observed: {n}"
  | failuresDiffer expected seen => s!"Expected {expected} failure(s), saw {seen}"
  | interrupted => "Interrupt received; shutting down (repeat to force exit)"
  | interruptedAgain => "Second interrupt received; exiting immediately"
  | fatal t _ => "FATAL: " ++ t
  | errorText t => "DETAIL: " ++ t
  | errorDetail t => "DEBUG_DETAILS: " ++ t

/-- The place of a notice: all notices of one kind share it. -/
def place : Notice → Place
  | queueStarted .. => ⟨"pcqueue::queue::producer_consumer", 123⟩
  | addingEnded _ => ⟨"pcqueue::queue::producer_consumer", 183⟩
  | disposed .. => ⟨"pcqueue::queue::producer_consumer", 257⟩
  | workerStarted .. => ⟨"pcqueue::queue::consumer", 16⟩
  | workerStopped .. => ⟨"pcqueue::queue::consumer", 29⟩
  | callbackPanicked _ => ⟨"pcqueue::queue::exception", 121⟩
  | raised _ => ⟨"pcqueue::queue::internal", 298⟩
  | drained _ => ⟨"pcqueue::queue::internal", 316⟩
  | publishFailed .. => ⟨"pcqueue::queue::internal", 332⟩
  | subscriptionReplaced .. => ⟨"pcqueue::notifications::manager", 88⟩
  | subscriberRemoved _ => ⟨"pcqueue::notifications::manager", 140⟩
  | itemHandled _ => ⟨"pcqueue::app::workload", 45⟩
  | configurationLoaded _ => ⟨"pcqueue::app::startup", 59⟩
  | runStarted .. => ⟨"pcqueue::app::startup", 98⟩
  | producerFinished _ => ⟨"pcqueue::app::startup", 125⟩
  | producerStopped _ => ⟨"pcqueue::app::startup", 126⟩
  | shuttingDown _ => ⟨"pcqueue::app::startup", 143⟩
  | exceptionsObserved _ => ⟨"pcqueue::app::startup", 153⟩
  | failuresDiffer .. => ⟨"pcqueue::app::startup", 155⟩
  | exceptionObserved .. => ⟨"pcqueue::app::startup", 175⟩
  | interruptedAgain => ⟨"pcqueue::core::shutdown", 90⟩
  | interrupted => ⟨"pcqueue::core::shutdown", 93⟩
  | fatal _ true => ⟨"pcqueue::core::error_handling", 38⟩
  | fatal _ false => ⟨"pcqueue::core::error_handling", 39⟩
  | errorText _ => ⟨"pcqueue::core::error_handling", 41⟩
  | errorDetail _ => ⟨"pcqueue::core::error_handling", 42⟩

end Notice

end Conveyor.Log
