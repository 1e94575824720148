/-!
# Queue statistics

Five counters that only grow, and the two quantities that are read under the state lock.
-/

namespace Conveyor.Queue

/-- The counters of a queue. -/
inductive Counter where
  | enqueued
  | processed
  | failed
  | rejected
  | abandoned
deriving DecidableEq

/-- A value for each counter. -/
structure Counters where
  enqueued : Nat := 0
  processed : Nat := 0
  failed : Nat := 0
  rejected : Nat := 0
  abandoned : Nat := 0
deriving DecidableEq

namespace Counters

def get (c : Counters) : Counter → Nat
  | .enqueued => c.enqueued
  | .processed => c.processed
  | .failed => c.failed
  | .rejected => c.rejected
  | .abandoned => c.abandoned

def set (c : Counters) (n : Nat) : Counter → Counters
  | .enqueued => { c with enqueued := n }
  | .processed => { c with processed := n }
  | .failed => { c with failed := n }
  | .rejected => { c with rejected := n }
  | .abandoned => { c with abandoned := n }

def add (c : Counters) (k : Counter) (n : Nat) : Counters := c.set (c.get k + n) k

@[simp] theorem get_set (c : Counters) (n : Nat) (j k : Counter) :
    (c.set n j).get k = if j = k then n else c.get k := by
  cases j <;> cases k <;> simp [get, set]

@[simp] theorem get_add (c : Counters) (n : Nat) (j k : Counter) :
    (c.add j n).get k = if j = k then c.get k + n else c.get k := by
  by_cases h : j = k <;> simp [add, h]

end Counters

/-- A snapshot of a queue. -/
structure Stats extends Counters where
  /-- Items buffered and not yet picked up. -/
  pending : Nat := 0
  /-- Workers that are busy with an item. -/
  active : Nat := 0
deriving DecidableEq

end Conveyor.Queue
