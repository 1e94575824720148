import Conveyor.Proofs.Cli.Scene

/-!
# The plot of an undisturbed job

As long as no signal arrives, the threads stay in their parts, and the scene is that of the stage that the main task has
come to (`Plot`). Once the queue has drained, its books are those that the workload plans, whatever the threads did in
between.

* `Plot.run`: the plot goes on whatever a thread performs.
* `Plot.stats_eq`, `Plot.started_perm`: from the moment that the main task knows the queue to be drained, the statistics
  are those planned, and every id was passed to the handler once.
-/

namespace Conveyor.Cli.Job

open Queue

/-- What makes a job fit to run: its queue handles its workload, and both have what they need. -/
structure Fit (j : Job) : Prop where
  code : j.setup.code = j.workload.code
  callbacks : j.setup.callbacks = []
  workers : 0 < j.setup.workers
  capacity : j.setup.capacity ≠ some 0
  producers : 1 ≤ j.workload.producers
  failEvery : j.workload.failEvery ≠ some 0

/-- What is the case in a state of an undisturbed job. -/
structure Plot (j : Job) (s : State) : Prop where
  unannounced : s.announced = false
  unsignalled : s.signals = []
  length : s.queue.threads.length = j.setup.workers + 1 + j.workload.producers + 1
  due : s.phase.isDue = true
  scene : Scene j s.phase.stage s.queue.shared
  part : ∀ {t th}, s.queue.threads[t]? = some th → Part j s.phase s.queue.shared t th.stack th.reply th.ending
  summary : s.summary = if s.phase.stage < 9 then none else some (.drained, j.balance)

variable {j : Job} {s : State}

/-- The threads of a job are all there. -/
theorem Plot.exists_thread (h : Plot j s) {t : ThreadId} (ht : t < j.setup.workers + 1 + j.workload.producers + 1) :
    ∃ th, s.queue.threads[t]? = some th := by
  rw [← h.length] at ht
  exact ⟨_, List.getElem?_eq_getElem ht⟩

/-! ## The books of a drained queue -/

section Books

theorem owed_of_plays {n : Nat} {c : Chore} {ends : Bool} {st : List (Instr Nat)} (h : Plays n c ends st) :
    ∀ i ∈ st, i.owed .enqueued = 0 := by
  cases h with
  | run => simp [Instr.owed]
  | @call p next hp =>
    intro i hi
    rcases List.mem_append.1 hi with hi | hi
    · have hallowed := hp i hi
      cases i with
      | bump k m => cases c <;> simp_all [Chore.allows, Instr.owed]
      | _ => rfl
    · rw [List.mem_singleton.1 hi]
      rfl
  | ended => simp

theorem owed_of_tallying {b : Stats} {st : List (Instr Nat)} {r : Reply Nat} (h : Tallying b st r) :
    ∀ i ∈ st, i.owed .enqueued = 0 := by
  cases h with
  | asking => simp [Instr.owed]
  | asked => simp [Instr.owed]
  | @reading p k hp =>
    intro i hi
    rcases List.mem_append.1 hi with hi | hi
    · obtain ⟨c, rfl⟩ := hp i hi
      rfl
    · rw [List.mem_singleton.1 hi]
      rfl
  | read => simp [Instr.owed]

theorem owed_of_toils {w : Workload} {i : Instr Nat} (h : Toils w i) : i.owed .enqueued = 0 := by
  cases i with
  | bump c n => rcases h with rfl | rfl <;> rfl
  | _ => rfl

/-- A concatenation of which only one piece is not empty. -/
theorem flatMap_of_unique {α β : Type} {l : List α} {f : α → List β} {a : α} (hl : l.Nodup) (ha : a ∈ l)
    (h : ∀ b ∈ l, b ≠ a → f b = []) : l.flatMap f = f a := by
  obtain ⟨l₁, l₂, rfl⟩ := List.append_of_mem ha
  have hnot := List.nodup_middle.1 hl
  have nil : ∀ l' : List α, (∀ b ∈ l', b ∈ l₁ ++ l₂) → l'.flatMap f = [] := by
    refine fun l' hsub => List.flatMap_eq_nil_iff.2 fun b hb => h b ?_ ?_
    · rcases List.mem_append.1 (hsub b hb) with hb | hb
      · exact List.mem_append_left _ hb
      · exact List.mem_append_right _ (List.mem_cons_of_mem _ hb)
    · rintro rfl
      exact (List.nodup_cons.1 hnot).1 (hsub b hb)
  rw [List.flatMap_append, List.flatMap_cons, nil l₁ fun b hb => List.mem_append_left _ hb,
    nil l₂ fun b hb => List.mem_append_right _ hb, List.append_nil, List.nil_append]

namespace Plot

/-- Once the producers have been gathered, each has ended, and what was accepted of it is its stripe. -/
theorem producer_ended (h : Plot j s) (hs : 2 ≤ s.phase.stage) {index : Nat} (hindex : index < j.workload.producers)
    {th : Thread Nat} (ht : s.queue.threads[j.producer index]? = some th) :
    th.stack = [] ∧ onThread (j.producer index) s.queue.shared.acceptances = j.workload.stripe index := by
  have hproduces := (h.part ht).producer index hindex rfl
  have hg : s.phase.gathered j.workload.producers = some j.workload.producers := by
    cases hph : s.phase <;> simp_all [Phase.stage, Phase.gathered]
  rw [hg] at hproduces
  obtain ⟨ids, hfeeding, hstripe, hended⟩ := hproduces
  have hnil := hended hindex
  rw [hnil] at hfeeding
  rw [(feeding_nil hfeeding).1, List.append_nil] at hstripe
  exact ⟨hnil, hstripe⟩

/-- From then on, nobody has an acceptance to count. -/
theorem owed_zero (h : Plot j s) (hs : 3 ≤ s.phase.stage) : total (Instr.owed .enqueued) s.queue.stacks = 0 := by
  refine total_eq_zero fun th hth => ?_
  obtain ⟨t, ht⟩ := List.mem_iff_getElem?.1 hth
  have hpart := h.part ht
  have hlt : t < j.setup.workers + 1 + j.workload.producers + 1 := h.length ▸ (List.getElem?_eq_some_iff.1 ht).1
  rcases thread_cases hlt with hw | rfl | ⟨index, hindex, rfl⟩ | rfl
  · exact fun i hi => owed_of_toils (hpart.worker hw i hi)
  · have hmain := hpart.main rfl
    cases hph : s.phase with
    | opening => simp [hph] at hs
    | gathering => simp [hph] at hs
    | completing => simp [hph] at hs
    | draining => rw [hph] at hmain; simp [show th.stack = _ from hmain, Instr.owed]
    | decided => rw [hph] at hmain; simp [show th.stack = _ from hmain, Instr.owed]
    | closing => rw [hph] at hmain; simp [show th.stack = _ from hmain, Instr.owed]
    | counting => rw [hph] at hmain; exact owed_of_tallying hmain
    | disposing => rw [hph] at hmain; cases hmain
    | failed => rw [hph] at hmain; cases hmain
    | killed => rw [hph] at hmain; cases hmain
    | _ => rw [hph] at hmain; exact owed_of_plays hmain
  · simp [(h.producer_ended (by omega) hindex ht).1]
  · have hobserver := hpart.observer rfl
    unfold Watches at hobserver
    split at hobserver
    · simp [hobserver, Instr.owed]
    · exact owed_of_plays hobserver

/-- Once the queue has drained, exactly the ids of the workload were accepted. -/
theorem accepted_perm (hf : Fit j) (h : Plot j s) (hs : 2 ≤ s.phase.stage) :
    s.queue.shared.accepted.Perm (List.range j.workload.items) := by
  have hthread : ∀ t, onThread t s.queue.shared.acceptances = onThread t
      ((List.range j.workload.producers).flatMap fun index => (j.workload.stripe index).map (j.producer index, ·)) := by
    intro t
    rw [onThread_flatMap]
    by_cases ht : ∃ index < j.workload.producers, t = j.producer index
    · obtain ⟨index, hindex, rfl⟩ := ht
      obtain ⟨th, hth⟩ := h.exists_thread (producer_lt hindex)
      rw [(h.producer_ended hs hindex hth).2,
        flatMap_of_unique List.nodup_range (List.mem_range.2 hindex), onThread_self]
      intro index' _ hne
      exact onThread_other (fun heq => hne (producer_inj heq)) _
    · have hnil : onThread t s.queue.shared.acceptances = [] := by
        refine List.eq_nil_iff_forall_not_mem.2 fun x hx => ht ?_
        exact h.scene.producers _ (mem_onThread.1 hx)
      rw [hnil, eq_comm, List.flatMap_eq_nil_iff]
      intro index hindex
      exact onThread_other (fun heq => ht ⟨index, List.mem_range.1 hindex, heq.symm⟩) _
  have hperm := (perm_of_onThread hthread).map Prod.snd
  rw [List.map_flatMap] at hperm
  simp only [List.map_map, Function.comp_def, List.map_id'] at hperm
  exact hperm.trans (Workload.stripes_perm hf.producers)

/-- Once the main task knows the queue to be drained, all is over. -/
theorem allOver (hr : Queue.Reachable j.setup s.queue) (h : Plot j s) (hs : 4 ≤ s.phase.stage) : Over s.queue.shared :=
  hr.decided.isOver (hr.decided.result (h.scene.drained hs))

/-- Then the handler has failed on exactly the items on which it does. -/
theorem failures_eq (hf : Fit j) (hr : Queue.Reachable j.setup s.queue) (h : Plot j s) (hs : 4 ≤ s.phase.stage) :
    j.workload.expectedFailures = some s.queue.shared.failures := by
  have hperm := (hr.handled_perm (h.allOver hr hs)).trans (h.accepted_perm hf (by omega))
  rw [Workload.failures_eq hf.failEvery, ← hperm.countP_eq, Shared.handled, List.countP_map, Shared.failures]
  refine congrArg some (List.countP_congr fun p hp => ?_)
  simp [h.scene.endings p hp]

/-- Then the statistics are those planned. -/
theorem stats_eq (hf : Fit j) (hr : Queue.Reachable j.setup s.queue) (h : Plot j s) (hs : 4 ≤ s.phase.stage) :
    s.queue.shared.stats = j.balance := by
  have hover := h.allOver hr hs
  have haccepted := (h.accepted_perm hf (by omega)).length_eq
  have hhandled := (hr.handled_perm hover).length_eq
  have hfailures := h.failures_eq hf hr hs
  have hsplit : s.queue.shared.successes + s.queue.shared.failures = s.queue.shared.handled.length := by
    rw [Shared.handled, List.length_map, Shared.successes, Shared.failures]
    simpa using
      (List.length_eq_countP_add_countP (fun p : ThreadId × Nat × Ending Nat => p.2.2.isSuccess)).symm
  have henqueued := hr.recorded_eq (c := .enqueued) (by decide)
  have hprocessed := hr.recorded_outcome hover.busy (.inl rfl)
  have hfailed := hr.recorded_outcome hover.busy (.inr rfl)
  have habandoned := hr.recorded_eq (c := .abandoned) (by decide)
  have hrejected := h.scene.rejected
  rw [h.owed_zero (by omega)] at henqueued
  simp only [Shared.recorded, Counters.get, hover.abandoned, List.length_nil, List.length_range] at *
  have hcounters : s.queue.shared.counters = j.balance.toCounters := by
    refine counters_ext fun c => ?_
    cases c <;> simp only [Counters.get, balance, hfailures, Option.getD_some] <;> omega
  simp only [Shared.stats, Guarded.recovered, hcounters, hover.items, hover.busy]
  rfl

end Plot

end Books

/-! ## The queue -/

section Queue

variable {q : Queue.State Nat}

/-- The plot does not depend on who sleeps. -/
theorem Plot.alike (h : Plot j s) (ha : Alike s.queue q) : Plot j { s with queue := q } := by
  refine ⟨h.unannounced, h.unsignalled, ha.length_eq.trans h.length, h.due, ?_, ?_, h.summary⟩
  · show Scene j s.phase.stage q.shared
    rw [ha.shared]
    exact h.scene
  · intro t th ht
    obtain ⟨th₀, ht₀, hstack, hreply, hending⟩ := ha.thread ht
    show Part j s.phase q.shared t th.stack th.reply th.ending
    rw [ha.shared, ← hstack, ← hreply, ← hending]
    exact h.part ht₀

/-- Whatever a thread performs, the plot goes on. -/
theorem Plot.run (hf : Fit j) (hr : Queue.Reachable j.setup s.queue) (h : Plot j s) {t : ThreadId}
    {sleeper : Option ThreadId} (hs : Queue.step j.setup s.queue (.run t sleeper) = some q) :
    Plot j { s with queue := q } := by
  obtain ⟨th, i, rest, e, ths, ht, -, hst, he, hw, rfl⟩ := run_of_step hs
  have hget : s.queue.stacks[t]? = some (i :: rest) := by rw [getElem?_stacks ht, hst]
  have hact := act_of_perform (hr.sound.head hget) he
  have hlt := (List.getElem?_eq_some_iff.1 ht).1
  have hpart := h.part ht
  rw [hst] at hpart
  have hset : Plot j { s with queue := ⟨e.shared, s.queue.threads.set t (th.after rest e)⟩ } := by
    refine ⟨h.unannounced, h.unsignalled, (List.length_set ..).trans h.length, h.due,
      h.scene.perform (hpart.apt (h.length ▸ hlt)) hact he, ?_, h.summary⟩
    intro t' th' ht'
    by_cases htt : t' = t
    · subst htt
      rw [List.getElem?_set_self hlt] at ht'
      cases ht'
      exact hpart.perform hf.code h.scene (h.stats_eq hf hr) (fun hstage => hr.alive_of_owned (h.scene.owned hstage))
        hact he
    · rw [List.getElem?_set_ne (Ne.symm htt)] at ht'
      exact (h.part ht').frame htt hact
  exact hset.alike ⟨rfl, wake_awake hw⟩

end Queue

end Conveyor.Cli.Job
