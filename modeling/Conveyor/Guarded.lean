/-!
# Guarded values

A value behind a lock that is poisoned when a holder panics. A checked access turns poison into an error; a recovering
access goes on with the value as the holder left it.
-/

namespace Conveyor

structure Guarded (α : Type) where
  value : α
  poisoned : Bool := false

namespace Guarded

/-- How an access came to the value. -/
inductive Access where
  | lock
  /-- Locked again after a wait on a condition variable. -/
  | wait
deriving DecidableEq

/-- The text for an access that finds the lock poisoned. -/
def Access.poisonMessage : Access → String
  | .lock =>
    "Internal synchronisation error (mutex poisoned). This indicates a panic occurred while holding a lock. " ++
      "PoisonError: poisoned lock: another task failed inside"
  | .wait =>
    "Internal synchronisation error (condition variable wait poisoned). " ++
      "PoisonError: poisoned lock: another task failed inside"

/-- The value, unless the lock is poisoned. -/
def checked {α ε : Type} (g : Guarded α) (a : Access) (error : String → ε) : Except ε α :=
  if g.poisoned then .error (error a.poisonMessage) else .ok g.value

/-- The value, poisoned or not. -/
def recovered {α : Type} (g : Guarded α) : α := g.value

def set {α : Type} (g : Guarded α) (v : α) : Guarded α := { g with value := v }

end Guarded

end Conveyor
