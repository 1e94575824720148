import Conveyor.Validation

/-!
# Queue errors

What a call on a queue can fail with.
-/

namespace Conveyor

/-- What a call on a queue can fail with. -/
inductive QueueError where
  | invalidArgument (message : String)
  | disposed
  | cancelled
  | addingCompleted
  | handlerPanicked (message : String)
  | synchronisation (message : String)
  | operationFailed (message : String)
deriving DecidableEq

namespace QueueError

/-- The text of an error. -/
def message : QueueError → String
  | .invalidArgument m => "Invalid argument: " ++ m
  | .disposed => "Queue has been disposed"
  | .cancelled => "Add operation was cancelled"
  | .addingCompleted => "Queue is no longer accepting items"
  | .handlerPanicked m => "Handler panicked: " ++ m
  | .synchronisation m => "Synchronisation failure: " ++ m
  | .operationFailed m => "Operation failed: " ++ m

/-- A refused setting, met while a queue is built. -/
def ofValidation (e : ValidationError) : QueueError := .invalidArgument e.message

/-- The name of the kind of error. -/
def kind : QueueError → String
  | .invalidArgument _ => "InvalidArgument"
  | .disposed => "Disposed"
  | .cancelled => "Cancelled"
  | .addingCompleted => "AddingCompleted"
  | .handlerPanicked _ => "HandlerPanicked"
  | .synchronisation _ => "Synchronisation"
  | .operationFailed _ => "OperationFailed"

/-- The text that comes with the error, for the kinds that have one. -/
def text? : QueueError → Option String
  | .invalidArgument m | .handlerPanicked m | .synchronisation m | .operationFailed m => some m
  | .disposed | .cancelled | .addingCompleted => none

end QueueError

end Conveyor
