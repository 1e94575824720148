import Conveyor.Event
import Conveyor.Log.Notice
import Conveyor.Queue.Stats

/-!
# Scripts

What the code around a queue does, seen from the queue: handlers, exception callbacks and client threads make calls,
use the replies, wait for something outside, and end. A script is that behaviour as data, so handlers and callbacks may
call back into the queue. A pause leaves open how the code goes on, so a script that pauses may behave in any way.
-/

namespace Conveyor.Queue

abbrev ThreadId := Nat

/-- A cancellation token; all copies of a token have one name. -/
abbrev TokenId := String

abbrev CallbackId := Nat

/-- How long a caller is ready to wait. -/
inductive Patience where
  | ms (n : Nat)
  | forever
deriving DecidableEq

/-- What a call goes through. -/
inductive Handle where
  /-- The queue itself; whoever calls through it keeps it alive. -/
  | owner
  /-- A producer's handle, which works only as long as something else keeps the queue alive. -/
  | producer
deriving DecidableEq

/-- The calls that a script can make; `ι` is the type of items. -/
inductive Call (ι : Type) where
  /-- Enqueue, waiting for room; a token may cancel the wait. -/
  | add (via : Handle) (item : ι) (token : Option TokenId)
  /-- Enqueue if there is room, or comes to be in time; `none` is for not waiting at all. -/
  | tryAdd (via : Handle) (item : ι) (patience : Option Patience)
  | completeAdding
  | dispose
  /-- The owner disposes the queue and lets go of it. -/
  | drop
  | pendingCount
  | pendingItems
  | stats
  | isDisposed
  | isAddingCompleted
  | onException (callback : CallbackId)
  | subscribe (id : String) (filter : EventFilter)
  | unsubscribe (id : String)
  /-- The completion result, as it is now. -/
  | result
  | waitBlocking
  | waitTimeout (patience : Patience)
  /-- Wait for the completion on its watch channel. -/
  | waitAsync
  | cancel (token : TokenId)
  | isCancelled (token : TokenId)
  /-- The queue's name as a producer's handle knows it. -/
  | producerName
  | say (notice : Log.Notice)

/-- What a panic carries: text, or something that is no text. -/
inductive Payload where
  | text (message : String)
  | other
deriving DecidableEq

/-- The text by which a panic is reported. -/
def Payload.message : Payload → String
  | .text m => m
  | .other => "Unknown panic"

/-- What a call comes back with. -/
inductive Reply (ι : Type) where
  | unit
  | bool (b : Bool)
  | count (n : Nat)
  | items (xs : List ι)
  | stats (s : Stats)
  | completion (result : Option Bool)
  | channel (n : Nat)
  | name (name : Option String)
  | error (e : QueueError)
  /-- Calls accepted so far, and the error that stopped the caller. -/
  | accepted (n : Nat) (error : Option QueueError)
  /-- The call panicked. -/
  | panicked (p : Payload)

/-- How a script ends. -/
inductive Ending (ι : Type) where
  | returned (r : Reply ι)
  | failed (c : Cause)
  | panicked (p : Payload)

/-- The behaviour of a piece of client code. -/
inductive Script (ι : Type) where
  | ret (e : Ending ι)
  | call (c : Call ι) (next : Reply ι → Script ι)
  /-- Waits, under a label, until something outside says how to go on. -/
  | pause (label : String)

namespace Script

variable {ι : Type}

/-- Ends well, with nothing to report. -/
def done : Script ι := ret (.returned .unit)

/-- Makes one call and returns its reply. -/
def just (c : Call ι) : Script ι := call c fun r => ret (.returned r)

/-- Makes one call; an error in reply becomes a failure with that error as its cause. -/
def orFail (c : Call ι) (next : Reply ι → Script ι) : Script ι :=
  call c fun
    | .error e => ret (.failed (.queue e))
    | r => next r

end Script

end Conveyor.Queue
