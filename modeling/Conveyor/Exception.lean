import Conveyor.Error

/-!
# Exceptions

A failure that no caller gets back as a result: a handler that failed, or an item refused while the queue shut down.
It is wrapped with its cause and delivered to callbacks and subscribers.
-/

namespace Conveyor

/-- The error that an exception wraps. -/
inductive Cause where
  /-- An error that is nothing but its text. -/
  | text (message : String)
  /-- An error of a type that a client defines, with the name of the type. -/
  | client (type : String) (message : String)
  | queue (error : QueueError)
  /-- The failure that a synthetic workload plants on an item. -/
  | synthetic (id : Nat)
deriving DecidableEq

def Cause.message : Cause → String
  | .text m => m
  | .client _ m => m
  | .queue e => e.message
  | .synthetic id => "synthetic failure on item " ++ toString id

/-- What went wrong when the exception was raised. -/
inductive ExceptionKind where
  /-- The handler returned an error or panicked. -/
  | handler
  /-- An item was refused because the queue was shutting down. -/
  | add
deriving DecidableEq

def ExceptionKind.message : ExceptionKind → String
  | .handler => "Exception occurred."
  | .add => "Exception occurred when adding item."

/-- A raised exception. -/
structure QueueException where
  kind : ExceptionKind
  /-- The name of the queue that raised it. -/
  queue : String
  cause : Cause
deriving DecidableEq

def QueueException.message (e : QueueException) : String := e.kind.message

end Conveyor
