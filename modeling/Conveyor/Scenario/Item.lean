import Conveyor.Queue.Setup

/-!
# Scripted items and callbacks

Items that say what their handler does with them, and exception callbacks of a few simple kinds. They make the code of
a queue that acts out a scenario.
-/

namespace Conveyor.Scenario

open Queue

mutual

/-- What the handler does with an item. -/
inductive Act where
  | ok
  | fail (cause : Cause)
  | panic (payload : Payload)
  /-- Waits until the item is released with another act. -/
  | gate
  | complete
  | dispose
  | cancel (token : TokenId)
  /-- Tries to add items, one after the other, and fails if one has no room. -/
  | add (items : List Item)

/-- An item of a scenario. -/
inductive Item where
  | mk (label : String) (act : Act) (panicsOnClone : Bool)

end

namespace Item

def label : Item → String
  | mk label _ _ => label

def act : Item → Act
  | mk _ act _ => act

def panicsOnClone : Item → Bool
  | mk _ _ p => p

/-- An item that is handled without more ado. -/
def plain (label : String) : Item := mk label .ok false

end Item

/-- Tries to add items until one fails or has no room. -/
def addAll : List Item → Script Item
  | [] => .done
  | x :: rest => .orFail (.tryAdd .owner x none) fun
    | .bool false => .ret (.failed (.text ("no room for " ++ x.label)))
    | _ => addAll rest

/-- The handler's behaviour for an act; a gate is labelled with the item that waits at it. -/
def Act.script (label : String) : Act → Script Item
  | .ok => .done
  | .fail c => .ret (.failed c)
  | .panic p => .ret (.panicked p)
  | .gate => .pause label
  | .complete => .orFail .completeAdding fun _ => .done
  | .dispose => .call .dispose fun _ => .done
  | .cancel token => .call (.cancel token) fun _ => .done
  | .add items => addAll items

/-- What an exception callback does, besides recording its call. -/
inductive Reaction where
  | nothing
  /-- Panics each time; all that follow act at their first call only. -/
  | panic
  /-- Registers one more callback, which does nothing. -/
  | register
  | dispose
  | complete
  /-- Tries to add an item that is labelled like the callback. -/
  | retry
  | unsubscribe (id : String)
  | subscribe (id : String)

structure Callback where
  label : String
  reaction : Reaction

/-- Callback `k` of a list has number `2 * k`; the one that it may register has the number after. -/
def numberOf (k : Nat) : CallbackId := 2 * k

/-- The label that a callback's calls are recorded under. -/
def labelOf (callbacks : List Callback) (c : CallbackId) : String :=
  match callbacks[c / 2]? with
  | some cb => if c % 2 = 0 then cb.label else cb.label ++ "+"
  | none => ""

/-- The behaviour of a callback that has number `c` and was called `n` times before. -/
def Callback.script (cb : Callback) (c : CallbackId) (n : Nat) : Script Item :=
  let once (call : Call Item) : Script Item := if n = 0 then .call call fun _ => .done else .done
  match cb.reaction with
  | .nothing => .done
  | .panic => .ret (.panicked (.text "callback panicked"))
  | .register => once (.onException (c + 1))
  | .dispose => once .dispose
  | .complete => once .completeAdding
  | .retry => once (.tryAdd .owner (.plain cb.label) none)
  | .unsubscribe id => once (.unsubscribe id)
  | .subscribe id => once (.subscribe id .all)

/-- The code of a queue that acts out a scenario in which the given callbacks occur. -/
def code (callbacks : List Callback) : Code Item where
  handler x := x.act.script x.label
  callback c n _ :=
    match callbacks[c / 2]? with
    | some cb => if c % 2 = 0 then cb.script c n else .done
    | none => .done
  cloneFault x := if x.panicsOnClone then some ("clone of " ++ x.label) else none

end Conveyor.Scenario
