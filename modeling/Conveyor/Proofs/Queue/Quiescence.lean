import Conveyor.Proofs.Queue.Completion
import Conveyor.Proofs.Queue.Wakeup

/-!
# When nobody can go on

A queue is quiescent when no thread can perform its next instruction. Then no wakeup is under way and no result has
still to be set, since what a thread owes to others comes first on its stack (`Prompt`); and a worker that is not inside
client code has left or waits for an item, since whatever else it does between two items can be performed in every state
(`Layered`).

* `Reachable.worker_of_quiescent`: what each worker of a quiescent queue is at.
* `Reachable.handled_of_idle`: if no worker is inside client code, all taken items are handled and counted.
-/

namespace Conveyor.Queue

variable {ι : Type}

/-! ## What cannot go on -/

/-- No thread can perform an instruction. -/
def Quiescent (u : Setup ι) (s : State ι) : Prop := ∀ t sleeper, step u s (.run t sleeper) = none

/-- Whoever notifies can: somebody sleeps, and is woken, or nobody does. -/
theorem exists_wake (ths : List (Thread ι)) (k : Wake) : ∃ sleeper ths', wake ths sleeper k = some ths' := by
  cases k with
  | nobody => exact ⟨none, ths, rfl⟩
  | all c => exact ⟨none, _, rfl⟩
  | one c =>
    by_cases hany : ths.any (·.sleepsOn c) = true
    · obtain ⟨th, hth, hs⟩ := List.any_eq_true.1 hany
      obtain ⟨w, hw⟩ := List.mem_iff_getElem?.1 hth
      exact ⟨some w, ths.set w th.awake, by simp [wake, hw, hs]⟩
    · exact ⟨none, ths, by simp only [wake, if_neg hany]⟩

section Stuck

variable {u : Setup ι} {s : State ι} {t : ThreadId} {th : Thread ι} {i : Instr ι} {rest : List (Instr ι)}

/-- A thread whose next instruction can be performed has a step. -/
theorem step_of_perform {e : Effect ι} (ht : s.threads[t]? = some th) (hawake : th.asleep = none)
    (hst : th.stack = i :: rest) (he : perform u s.shared s.hasEnded t th.reply i = some e) :
    ∃ sleeper s', step u s (.run t sleeper) = some s' := by
  obtain ⟨sleeper, ths, hw⟩ := exists_wake (s.threads.set t (th.after rest e)) e.wake
  exact ⟨sleeper, ⟨e.shared, ths⟩, by simp [step, ht, hawake, hst, he, hw]⟩

/-- An instruction that cannot be performed waits for something that is no condition variable. -/
theorem waits_of_perform {sh : Shared ι} {ended : ThreadId → Bool} {held : Reply ι}
    (h : perform u sh ended t held i = none) :
    (∃ role label, i = .run role (.pause label)) ∨ (∃ w, i = .join w ∧ ended w = false) ∨
      i = .awaitWatch ∧ sh.watch = none := by
  cases i with
  | run role script =>
    cases script with
    | ret ending => cases h
    | call c next => cases h
    | pause label => exact .inl ⟨role, label, rfl⟩
  | upgrade call dead => cases call <;> cases h
  | enter b => simp only [perform] at h; split at h <;> cases h
  | retry b => simp only [perform] at h; split at h <;> cases h
  | completeAdding => simp only [perform] at h; split at h <;> cases h
  | pendingCount => simp only [perform] at h; split at h <;> cases h
  | pendingItems => simp only [perform] at h; split at h <;> cases h
  | join w =>
    refine .inr (.inl ⟨w, rfl, ?_⟩)
    by_contra hended
    simp [perform, Bool.eq_true_of_not_eq_false hended] at h
  | awaitWatch =>
    refine .inr (.inr ⟨rfl, ?_⟩)
    simp only [perform] at h
    split at h
    · cases h
    · assumption
  | _ => cases h

/-- A thread without a step has ended, sleeps, or waits for something that is no condition variable. -/
theorem Quiescent.cases (h : Quiescent u s) (ht : s.threads[t]? = some th) :
    th.stack = [] ∨ (∃ c, th.asleep = some c) ∨
      ∃ i rest, th.asleep = none ∧ th.stack = i :: rest ∧
        ((∃ role label, i = .run role (.pause label)) ∨ (∃ w, i = .join w ∧ s.hasEnded w = false) ∨
          i = .awaitWatch ∧ s.shared.watch = none) := by
  cases hst : th.stack with
  | nil => exact .inl rfl
  | cons i rest =>
    cases hasleep : th.asleep with
    | some c => exact .inr (.inl ⟨c, rfl⟩)
    | none =>
      refine .inr (.inr ⟨i, rest, rfl, rfl, ?_⟩)
      cases he : perform u s.shared s.hasEnded t th.reply i with
      | none => exact waits_of_perform he
      | some e =>
        obtain ⟨sleeper, s', hs⟩ := step_of_perform ht hasleep hst he
        rw [h t sleeper] at hs
        cases hs

end Stuck

/-! ## Induction with what is performed -/

/-- What is said of each stack by itself holds in every reachable state, if performing an instruction and answering
keep it. -/
theorem Reachable.perform_induction {u : Setup ι} {P : ThreadId → List (Instr ι) → Prop}
    (start : ∀ t, P t (stackAt u.start.stacks t))
    (answer : ∀ {t role label script rest}, P t (.run role (.pause label) :: rest) → P t (.run role script :: rest))
    (spawn : ∀ {t} script, u.workers ≤ t → P t [.run .client script])
    (act : ∀ {sh ended held t i rest e}, Instr.isSound i = true → perform u sh ended t held i = some e →
      P t (i :: rest) → P t (e.push ++ rest))
    {s : State ι} (h : Reachable u s) : ∀ t, P t (stackAt s.stacks t) := by
  induction h with
  | start => exact start
  | @step s s' c hr hs ih =>
    intro t'
    cases c with
    | run t sleeper =>
      obtain ⟨th, i, rest, e, ths, ht, -, hst, he, hw, rfl⟩ := run_of_step hs
      have hget : s.stacks[t]? = some (i :: rest) := by rw [getElem?_stacks ht, hst]
      rw [stacks_of_wake hw, stackAt_set hget]
      split
      · rename_i htt
        subst htt
        have hsound : i.isSound = true := hr.sound.head hget
        exact act hsound he (stackAt_of_getElem? hget ▸ ih t')
      · exact ih t'
    | rouse t =>
      obtain ⟨th, ht, -, rfl⟩ := rouse_of_step hs
      rw [stacks_of_awake ht]
      exact ih t'
    | answer t script =>
      obtain ⟨th, role, label, rest, ht, hst, rfl⟩ := answer_of_step hs
      have hget : s.stacks[t]? = some (.run role (.pause label) :: rest) := by rw [getElem?_stacks ht, hst]
      rw [stacks_of_answer, stackAt_set hget]
      split
      · rename_i htt
        subst htt
        exact answer (stackAt_of_getElem? hget ▸ ih t')
      · exact ih t'
    | spawn script =>
      cases hs
      rw [stacks_spawn, stackAt_append]
      split
      · rename_i htt
        subst htt
        exact spawn script hr.workers_le
      · exact ih t'
    | _ => cases hs; exact ih t'

/-! ## What others rely on comes first -/

namespace Instr

/-- Whether the instruction neither waits nor leaves anything to do that may. -/
def isSwift : Instr ι → Bool
  | .bump .. | .notifyOne _ | .notifyAll _ | .say _ | .publish _ | .resolve _ | .setWatch _ | .reply _ => true
  | _ => false

/-- Whether the instruction is owed to others: it counts, notifies, or sets the result. -/
def isUrgent : Instr ι → Bool
  | .bump .. | .notifyOne _ | .notifyAll _ | .resolve _ | .setWatch _ => true
  | _ => false

theorem isUrgent_of_isNotification {i : Instr ι} {c : Condition} (h : i.isNotification c = true) :
    i.isUrgent = true := by
  cases i <;> simp_all [isNotification, isUrgent]

theorem isSwift_of_rechecks {i : Instr ι} {c : Condition} (h : i.rechecks c = true) : i.isSwift = false := by
  unfold rechecks at h
  split at h
  · rfl
  · rfl
  · rfl
  · cases h

theorem isUrgent_of_bid {i : Instr ι} (h : i.bid?.isSome = true) : i.isUrgent = false := by
  cases i <;> simp_all [bid?, isUrgent]

end Instr

/-- Nothing that is owed to others lies under anything that may wait. -/
def Prompt (st : List (Instr ι)) : Prop := ∀ i ∈ st.dropWhile Instr.isSwift, i.isUrgent = false

section Prompt

variable {u : Setup ι} {sh : Shared ι} {ended : ThreadId → Bool} {t : ThreadId} {held : Reply ι} {i : Instr ι}
  {e : Effect ι} {p rest : List (Instr ι)}

@[simp] theorem prompt_nil : Prompt ([] : List (Instr ι)) := fun _ hi => nomatch hi

@[simp] theorem prompt_cons : Prompt (i :: p) ↔ if i.isSwift then Prompt p else ∀ j ∈ i :: p, j.isUrgent = false := by
  rw [Prompt, List.dropWhile_cons]
  split <;> rfl

theorem prompt_of_forall (h : ∀ i ∈ p, i.isUrgent = false) : Prompt p := fun i hi =>
  h i ((List.dropWhile_suffix _).subset hi)

theorem prompt_append (hp : Prompt p) (hrest : ∀ i ∈ rest, i.isUrgent = false) : Prompt (p ++ rest) := by
  induction p with
  | nil => exact prompt_of_forall hrest
  | cons j p ih =>
    rw [List.cons_append, prompt_cons] at *
    by_cases hj : j.isSwift = true
    · rw [if_pos hj] at hp ⊢
      exact ih hp
    · rw [if_neg hj] at hp ⊢
      intro i hi
      rcases List.mem_append.1 (List.cons_append .. ▸ hi) with hi | hi
      · exact hp i hi
      · exact hrest i hi

theorem prompt_swift (hp : ∀ i ∈ p, i.isSwift = true) (h : Prompt rest) : Prompt (p ++ rest) := by
  unfold Prompt
  rw [List.dropWhile_append_of_pos hp]
  exact h

theorem prompt_of_forall_swift (h : ∀ i ∈ p, i.isSwift = true) : Prompt p := by
  rw [← List.append_nil p]
  exact prompt_swift h prompt_nil

/-- Calls owe nothing to others when they begin. -/
theorem Call.isUrgent_instrs (c : Call ι) (now : Nat) : ∀ i ∈ c.instrs now, i.isUrgent = false := by
  cases c with
  | add via x token => cases via <;> simp [Call.instrs, Instr.isUrgent]
  | tryAdd via x patience => cases via <;> simp [Call.instrs, Instr.isUrgent]
  | waitTimeout patience => cases patience <;> simp [Call.instrs, Instr.isUrgent]
  | _ => simp [Call.instrs, Instr.isUrgent]

/-- What is swift leaves nothing to do that may wait. -/
theorem swift_of_perform (hi : i.isSwift = true) (he : perform u sh ended t held i = some e) :
    ∀ j ∈ e.push, j.isSwift = true := by
  cases i with
  | publish x =>
    cases he
    dsimp only
    split <;> simp [Instr.isSwift]
  | resolve drained =>
    simp only [perform, Option.some.injEq] at he
    split at he
    · cases he; simp
    · cases he
      cases drained <;> simp [Instr.isSwift]
  | bump c n => cases he; simp
  | notifyOne c => cases he; simp
  | notifyAll c => cases he; simp
  | say n => cases he; simp
  | setWatch drained => cases he; simp
  | reply r => cases he; simp
  | _ => cases hi

theorem prompt_look (bid : Bid ι) : Prompt (look u sh t bid).push := by
  unfold look
  dsimp only
  split
  · simp [raise, Instr.isSwift, Instr.isUrgent]
  · split
    · simp [raise, Instr.isSwift, Instr.isUrgent]
    · split
      · simp [Instr.isSwift]
      · split
        · simp
        · split <;> simp [Instr.isSwift, Instr.isUrgent]

theorem prompt_seek : Prompt (seek u sh t).push := by
  unfold seek
  dsimp only
  split
  · simp [Instr.isSwift, Instr.isUrgent]
  · split
    · simp [Instr.isSwift, Instr.isUrgent]
    · split <;> simp [Instr.isSwift, Instr.isUrgent]

/-- Whatever is performed leaves what is owed to others to be done first. -/
theorem prompt_of_perform (hsound : i.isSound = true) (he : perform u sh ended t held i = some e) :
    Prompt e.push := by
  cases i with
  | run role script =>
    cases script with
    | ret ending =>
      cases he
      cases role <;> cases ending <;> simp [followUp, raise, Instr.isSwift, Instr.isUrgent]
    | call c next =>
      cases he
      exact prompt_append (prompt_of_forall (c.isUrgent_instrs sh.now)) (by simp [Instr.isUrgent])
    | pause label => cases he
  | upgrade call dead =>
    cases call with
    | nil => cases he; simp
    | cons j call =>
      simp only [perform, Option.some.injEq] at he
      split at he
      · cases he; simp
      · cases he
        refine prompt_append (prompt_of_forall fun k hk => ?_) (by simp [Instr.isUrgent])
        exact Instr.isUrgent_of_bid (List.all_eq_true.1 hsound k hk)
  | enter bid =>
    simp only [perform] at he
    split at he
    · cases he; simp
    · simp only [Option.some.injEq] at he
      split at he
      · cases he; simp
      · cases he; exact prompt_look bid
  | retry bid =>
    simp only [perform] at he
    split at he
    · cases he; simp
    · cases he; exact prompt_look bid
  | dispatch x =>
    cases he
    refine prompt_of_forall fun j hj => ?_
    obtain ⟨c, -, rfl⟩ := List.mem_map.1 hj
    rfl
  | take => cases he; exact prompt_seek
  | retake => cases he; exact prompt_seek
  | finish =>
    cases he
    dsimp only
    split <;> simp [Instr.isSwift, Instr.isUrgent]
  | completeAdding =>
    simp only [perform] at he
    split at he
    · cases he; simp
    · simp only [Option.some.injEq] at he
      split at he
      · cases he; simp
      · cases he
        dsimp only
        split <;> split <;> simp [Instr.isSwift]
  | dispose =>
    simp only [perform, Option.some.injEq] at he
    split at he
    · cases he; simp
    · cases he; simp [Instr.isSwift, Instr.isUrgent]
  | takeHandles =>
    cases he
    refine prompt_append (prompt_of_forall fun j hj => ?_) (by simp [Instr.isUrgent])
    obtain ⟨w, -, rfl⟩ := List.mem_map.1 hj
    rfl
  | join w =>
    simp only [perform] at he
    split at he
    · cases he; simp
    · cases he
  | pendingCount =>
    simp only [perform] at he
    split at he <;> (cases he; simp)
  | pendingItems =>
    simp only [perform] at he
    split at he
    · cases he; simp
    · simp only [Option.some.injEq] at he
      split at he
      · cases he; simp
      · split at he <;> (cases he; simp)
  | awaitResult d =>
    simp only [perform, Option.some.injEq] at he
    split at he
    · cases he; simp
    · split at he <;> (cases he; simp [Instr.isSwift, Instr.isUrgent])
  | awaitWatch =>
    simp only [perform] at he
    split at he
    · cases he; simp
    · cases he
  | publish x => exact prompt_of_forall_swift (swift_of_perform rfl he)
  | resolve drained => exact prompt_of_forall_swift (swift_of_perform rfl he)
  | resume role next => cases he; simp [Instr.isSwift, Instr.isUrgent]
  | invoke c x => cases he; simp [Instr.isSwift, Instr.isUrgent]
  | start x => cases he; simp [Instr.isSwift, Instr.isUrgent]
  | stats => cases he; simp [loads, Instr.isSwift, Instr.isUrgent]
  | _ => cases he; simp

/-- In every reachable state, what is owed to others comes first. -/
theorem Reachable.prompt {s : State ι} (h : Reachable u s) : ∀ t, Prompt (stackAt s.stacks t) := by
  refine h.perform_induction (P := fun _ st => Prompt st) ?_ ?_ ?_ ?_
  · intro t
    rw [stackAt_start]
    split <;> simp [Instr.isSwift, Instr.isUrgent]
  · intro t role label script rest hp
    simpa [Instr.isSwift, Instr.isUrgent] using hp
  · intro t script _
    simp [Instr.isSwift, Instr.isUrgent]
  · intro sh ended held t i rest e hsound he hp
    by_cases hi : i.isSwift = true
    · refine prompt_swift (swift_of_perform hi he) ?_
      simpa [hi] using hp
    · refine prompt_append (prompt_of_perform hsound he) ?_
      rw [prompt_cons, if_neg hi] at hp
      exact fun j hj => hp j (List.mem_cons_of_mem _ hj)

/-- What comes next on a thread of a quiescent queue may wait, and looks at nothing new. -/
theorem Quiescent.head {s : State ι} (hq : Quiescent u s) (h : Reachable u s) {th : Thread ι} (hth : th ∈ s.threads)
    (hst : th.stack = i :: rest) : i.isSwift = false ∧ (th.asleep = none → ∀ c, i.rechecks c = false) := by
  obtain ⟨t, ht⟩ := List.mem_iff_getElem?.1 hth
  rcases hq.cases ht with hnil | ⟨c, hc⟩ | ⟨j, rest', -, hst', hwhy⟩
  · rw [hst] at hnil
    cases hnil
  · have hlook := h.willLook th hth c hc
    rw [hst, List.head?_cons, Option.any_some] at hlook
    exact ⟨Instr.isSwift_of_rechecks hlook, fun hawake => by rw [hc] at hawake; cases hawake⟩
  · rw [hst] at hst'
    cases hst'
    rcases hwhy with ⟨role, label, rfl⟩ | ⟨w, rfl, -⟩ | ⟨rfl, -⟩ <;> exact ⟨rfl, fun _ c => by cases c <;> rfl⟩

/-- In a quiescent queue, nothing is owed to others. -/
theorem Reachable.unowed_of_quiescent {s : State ι} (h : Reachable u s) (hq : Quiescent u s) :
    ∀ th ∈ s.threads, ∀ i ∈ th.stack, i.isUrgent = false := by
  intro th hth i hi
  obtain ⟨t, ht⟩ := List.mem_iff_getElem?.1 hth
  have hprompt := h.prompt t
  rw [stackAt_of_getElem? (getElem?_stacks ht)] at hprompt
  cases hst : th.stack with
  | nil => rw [hst] at hi; cases hi
  | cons j rest =>
    obtain ⟨hj, -⟩ := hq.head h hth hst
    rw [hst, prompt_cons, if_neg (by simp [hj])] at hprompt
    exact hprompt i (hst ▸ hi)

/-- In a quiescent queue, no wakeup is under way. -/
theorem Reachable.still_of_quiescent {s : State ι} (h : Reachable u s) (hq : Quiescent u s) (c : Condition) :
    Still c s := by
  constructor
  · intro th hth i hi
    have hno := h.unowed_of_quiescent hq th hth i hi
    by_contra hyes
    rw [Instr.isUrgent_of_isNotification (by simpa using hyes)] at hno
    cases hno
  · intro th hth
    by_contra hwoken
    simp only [Thread.isWoken, Bool.not_eq_false, Bool.and_eq_true, Option.isNone_iff_eq_none] at hwoken
    obtain ⟨hawake, hhead⟩ := hwoken
    cases hst : th.stack with
    | nil => simp [hst] at hhead
    | cons j rest =>
      rw [hst, List.head?_cons, Option.any_some, (hq.head h hth hst).2 hawake c] at hhead
      cases hhead

end Prompt

/-! ## Workers outside client code -/

namespace Instr

/-- Whether the instruction is code of a handler or a callback, at a call or between two. -/
def isCode : Instr ι → Bool
  | .run .client _ | .resume .client _ => false
  | .run .. | .resume .. => true
  | _ => false

/-- Whether the instruction is one of those that a worker performs on its own account. -/
def isRoutine : Instr ι → Bool
  | .take | .retake | .start _ | .finish | .bump .. | .notifyOne _ | .notifyAll _ | .say _ | .dispatch _ | .invoke ..
  | .publish _ | .resolve _ | .setWatch _ | .release => true
  | _ => false

theorem isCode_resume (role : Role ι) (next : Reply ι → Script ι) (script : Script ι) :
    (resume role next).isCode = (run role script).isCode := by
  cases role <;> rfl

theorem isCode_run (role : Role ι) (script script' : Script ι) : (run role script).isCode = (run role script').isCode := by
  cases role <;> rfl

/-- The only sleep that is routine is that for an item. -/
theorem retake_of_rechecks {i : Instr ι} {c : Condition} (hi : i.isRoutine = true) (h : i.rechecks c = true) :
    i = .retake ∧ c = .notEmpty := by
  unfold rechecks at h
  split at h
  · cases hi
  · exact ⟨rfl, rfl⟩
  · cases hi
  · cases h

end Instr

/-- Whether the thread is inside code of a handler or a callback. -/
def Thread.isHeld (th : Thread ι) : Bool := th.stack.any Instr.isCode

/-- Whatever is not routine belongs to a call, and lies above the code that made it. -/
def Layered : List (Instr ι) → Prop
  | [] => True
  | i :: st => (i.isRoutine = true ∨ i.isCode = true ∨ ∃ j ∈ st, j.isCode = true) ∧ Layered st

section Layered

variable {u : Setup ι} {sh : Shared ι} {ended : ThreadId → Bool} {t : ThreadId} {held : Reply ι} {i : Instr ι}
  {e : Effect ι} {p rest : List (Instr ι)}

theorem layered_append (hp : ∀ j ∈ p, j.isRoutine = true ∨ j.isCode = true ∨ ∃ k ∈ rest, k.isCode = true)
    (h : Layered rest) : Layered (p ++ rest) := by
  induction p with
  | nil => exact h
  | cons j p ih =>
    refine ⟨?_, ih fun k hk => hp k (List.mem_cons_of_mem _ hk)⟩
    rcases hp j List.mem_cons_self with hj | hj | ⟨k, hk, hcode⟩
    · exact .inl hj
    · exact .inr (.inl hj)
    · exact .inr (.inr ⟨k, List.mem_append_right _ hk, hcode⟩)

/-- Without code on it, a stack holds nothing but routine. -/
theorem Layered.isRoutine (h : Layered rest) (hno : ∀ j ∈ rest, j.isCode = false) : ∀ j ∈ rest, j.isRoutine = true := by
  induction rest with
  | nil => simp
  | cons i st ih =>
    intro j hj
    have hst : ∀ j ∈ st, j.isCode = false := fun j hj => hno j (List.mem_cons_of_mem _ hj)
    rcases List.mem_cons.1 hj with rfl | hj
    · rcases h.1 with hr | hc | ⟨k, hk, hc⟩
      · exact hr
      · rw [hno j List.mem_cons_self] at hc
        cases hc
      · rw [hst k hk] at hc
        cases hc
    · exact ih h.2 hst j hj

/-- Routine goes on with routine, or calls client code. -/
theorem routine_of_perform (hi : i.isRoutine = true) (he : perform u sh ended t held i = some e) :
    ∀ j ∈ e.push, j.isRoutine = true ∨ j.isCode = true := by
  have seeks : ∀ j ∈ (seek u sh t).push, j.isRoutine = true ∨ j.isCode = true := by
    unfold seek
    dsimp only
    split
    · simp [Instr.isRoutine]
    · split
      · simp [Instr.isRoutine]
      · split <;> simp [Instr.isRoutine]
  cases i with
  | take => cases he; exact seeks
  | retake => cases he; exact seeks
  | start x => cases he; simp [Instr.isCode]
  | finish =>
    cases he
    intro j hj
    rcases List.mem_append.1 hj with hj | hj
    · split at hj
      · exact .inl (List.mem_singleton.1 hj ▸ rfl)
      · cases hj
    · exact .inl (List.mem_singleton.1 hj ▸ rfl)
  | dispatch x =>
    cases he
    intro j hj
    obtain ⟨c, -, rfl⟩ := List.mem_map.1 hj
    exact .inl rfl
  | invoke c x => cases he; simp [Instr.isCode]
  | publish x =>
    cases he
    dsimp only
    split <;> simp [Instr.isRoutine]
  | resolve drained =>
    simp only [perform, Option.some.injEq] at he
    split at he
    · cases he; simp
    · cases he
      cases drained <;> simp [Instr.isRoutine]
  | bump c n => cases he; simp
  | notifyOne c => cases he; simp
  | notifyAll c => cases he; simp
  | say n => cases he; simp
  | setWatch drained => cases he; simp
  | release => cases he; simp
  | _ => cases hi

theorem routine_followUp (role : Role ι) (ending : Ending ι) :
    ∀ j ∈ (followUp u sh t ending role).push, j.isRoutine = true := by
  cases role <;> cases ending <;> simp [followUp, raise, Instr.isRoutine]

/-- Code goes on, makes a call that it waits for, or comes to its end with routine. -/
theorem layered_of_code (hi : i.isCode = true) (he : perform u sh ended t held i = some e) (h : Layered rest) :
    Layered (e.push ++ rest) := by
  cases i with
  | run role script =>
    cases script with
    | ret ending =>
      cases he
      exact layered_append (fun j hj => .inl (routine_followUp role ending j hj)) h
    | call c next =>
      cases he
      rw [List.append_assoc]
      have hcode : (Instr.resume role next).isCode = true := (Instr.isCode_resume ..).trans hi
      refine layered_append (fun j _ => .inr (.inr ⟨_, List.mem_cons_self, hcode⟩)) ⟨.inr (.inl hcode), h⟩
    | pause label => cases he
  | resume role next =>
    cases he
    exact ⟨.inr (.inl ((Instr.isCode_resume ..).symm.trans hi)), h⟩
  | _ => cases hi

/-- The stacks of the workers are layered. -/
theorem Reachable.layered {s : State ι} (h : Reachable u s) : ∀ t < u.workers, Layered (stackAt s.stacks t) := by
  suffices hall : ∀ t, t < u.workers → Layered (stackAt s.stacks t) from hall
  refine h.perform_induction (P := fun t st => t < u.workers → Layered st) ?_ ?_ ?_ ?_
  · intro t ht
    rw [stackAt_start, if_pos ht]
    exact ⟨.inl rfl, .inl rfl, trivial⟩
  · intro t role label script rest hp ht
    obtain ⟨hrun, hrest⟩ := hp ht
    rw [Instr.isCode_run role (.pause label) script] at hrun
    exact ⟨hrun, hrest⟩
  · intro t script hle ht
    exact absurd ht (Nat.not_lt.2 hle)
  · intro sh ended held t i rest e _ he hp ht
    obtain ⟨hi, hrest⟩ := hp ht
    rcases hi with hr | hc | hbelow
    · refine layered_append (fun j hj => ?_) hrest
      rcases routine_of_perform hr he j hj with hj | hj
      · exact .inl hj
      · exact .inr (.inl hj)
    · exact layered_of_code hc he hrest
    · exact layered_append (fun j _ => .inr (.inr hbelow)) hrest

end Layered

/-! ## Workers that have left -/

/-- There is nothing left for a worker to do, now or later. -/
def Spent (sh : Shared ι) : Prop :=
  sh.buffer.value.disposed = true ∨ sh.buffer.value.addingCompleted = true ∧ sh.buffer.value.items = []

section Spent

variable {u : Setup ι} {sh : Shared ι} {t : ThreadId} {i : Instr ι} {e : Effect ι}

theorem Spent.congr {sh' : Shared ι} (h : Spent sh) (hbuf : sh'.buffer.value = sh.buffer.value) : Spent sh' := by
  unfold Spent
  rw [hbuf]
  exact h

/-- Nothing to do stays nothing to do. -/
theorem Act.spent (hact : Act u sh t i e) (h : Spent sh) : Spent e.shared := by
  cases hact with
  | accept _ hopen =>
    simp only [Buffer.isClosed, Bool.or_eq_false_iff] at hopen
    rcases h with hd | ⟨ha, -⟩
    · rw [hopen.1] at hd
      cases hd
    · rw [hopen.2] at ha
      cases ha
  | take _ hopen hitems =>
    rcases h with hd | ⟨-, hnil⟩
    · rw [hopen] at hd
      cases hd
    · rw [hnil] at hitems
      cases hitems
  | finish => exact h
  | complete =>
    rcases h with hd | ⟨-, hnil⟩
    · exact .inl hd
    · exact .inr ⟨rfl, hnil⟩
  | close => exact .inl rfl
  | refuse _ _ hsame => exact h.congr hsame.buffer
  | other _ _ hsame => exact h.congr hsame.buffer
  | handled => exact h.congr (by simp)
  | _ => exact h.congr rfl

/-- A worker goes on with its rounds as long as there may be something to do. -/
theorem Act.duty (hact : Act u sh t i e) (hi : i.duty = 1) : (∃ j ∈ e.push, j.duty = 1) ∨ Spent e.shared := by
  cases hact with
  | take => exact .inl ⟨.finish, by simp, rfl⟩
  | idle => exact .inl ⟨.retake, by simp, rfl⟩
  | finish => exact .inl ⟨.take, by simp, rfl⟩
  | leave _ hwhy => exact .inr hwhy
  | accept hb => rw [Instr.duty_of_isPlain (Instr.isPlain_of_bid hb)] at hi; cases hi
  | await hb => rw [Instr.duty_of_isPlain (Instr.isPlain_of_bid hb)] at hi; cases hi
  | refuse hb => rw [Instr.duty_of_isPlain (Instr.isPlain_of_bid hb)] at hi; cases hi
  | other hp => rw [Instr.duty_of_isPlain hp] at hi; cases hi
  | _ => cases hi

/-- A worker has a round before it, or there is nothing left to do. -/
theorem Reachable.duty_or_spent {s : State ι} (h : Reachable u s) :
    ∀ t < u.workers, (∃ i ∈ stackAt s.stacks t, i.duty = 1) ∨ Spent s.shared := by
  refine h.stack_induction (P := fun sh t st => t < u.workers → (∃ i ∈ st, i.duty = 1) ∨ Spent sh) ?_ ?_ ?_ ?_ ?_ ?_
  · intro t ht
    rw [stackAt_start, if_pos ht]
    exact .inl ⟨.take, by simp, rfl⟩
  · intro sh sh' t st hsame ih ht
    exact (ih ht).imp_right fun hspent => hspent.congr hsame.buffer
  · intro sh t role label script rest ih ht
    exact (ih ht).imp_left fun ⟨i, hi, hduty⟩ => by
      rcases List.mem_cons.1 hi with rfl | hi
      · cases hduty
      · exact ⟨i, List.mem_cons_of_mem _ hi, hduty⟩
  · intro sh t script hle _ ht
    exact absurd ht (Nat.not_lt.2 hle)
  · intro sh t i rest e hact ih ht
    rcases ih ht with ⟨j, hj, hduty⟩ | hspent
    · rcases List.mem_cons.1 hj with rfl | hj
      · exact (hact.duty hduty).imp_left fun ⟨k, hk, hk'⟩ => ⟨k, List.mem_append_left _ hk, hk'⟩
      · exact .inl ⟨j, List.mem_append_right _ hj, hduty⟩
    · exact .inr (hact.spent hspent)
  · intro sh t t' i e st _ hact ih ht
    exact (ih ht).imp_right fun hspent => hact.spent hspent

end Spent

/-! ## Quiescent queues -/

section Quiescent

variable {u : Setup ι} {s : State ι}

/-- A worker of a quiescent queue is inside client code, or it has left because there is nothing left to do, or it
waits for an item of an open queue that has none. -/
theorem Reachable.worker_of_quiescent (h : Reachable u s) (hq : Quiescent u s) {t : ThreadId} {th : Thread ι}
    (ht : s.threads[t]? = some th) (hw : t < u.workers) :
    th.isHeld = true ∨ (th.stack = [] ∧ Spent s.shared) ∨
      ∃ rest, th.stack = .retake :: rest ∧ th.asleep = some .notEmpty ∧ s.shared.buffer.value.items = [] ∧
        s.shared.buffer.value.isClosed = false := by
  by_cases hheld : th.isHeld = true
  · exact .inl hheld
  right
  have hstack : stackAt s.stacks t = th.stack := stackAt_of_getElem? (getElem?_stacks ht)
  have hroutine : ∀ j ∈ th.stack, j.isRoutine = true := by
    refine (hstack ▸ h.layered t hw).isRoutine fun j hj => ?_
    by_contra hcode
    exact hheld (List.any_eq_true.2 ⟨j, hj, by simpa using hcode⟩)
  rcases hq.cases ht with hnil | ⟨c, hsleep⟩ | ⟨i, rest, -, hst, hwhy⟩
  · refine .inl ⟨hnil, ?_⟩
    rcases h.duty_or_spent t hw with ⟨i, hi, -⟩ | hspent
    · rw [hstack, hnil] at hi
      cases hi
    · exact hspent
  · -- of those that sleep, only a look for an item is routine
    have hlook := h.willLook th (List.mem_of_getElem? ht) c hsleep
    cases hst : th.stack with
    | nil => simp [hst] at hlook
    | cons i rest =>
      rw [hst, List.head?_cons, Option.any_some] at hlook
      have hi := hroutine i (hst ▸ List.mem_cons_self)
      obtain ⟨rfl, rfl⟩ := Instr.retake_of_rechecks hi hlook
      have hstill := h.still_of_quiescent hq .notEmpty
      obtain ⟨hopen, hle⟩ := h.served_of_still (by decide) (by simp) hstill ⟨th, List.mem_of_getElem? ht, hsleep⟩
      exact .inr ⟨rest, rfl, hsleep, List.length_eq_zero_iff.1 (Nat.le_zero.1 hle), hopen⟩
  · have hi := hroutine i (hst ▸ List.mem_cons_self)
    rcases hwhy with ⟨role, label, rfl⟩ | ⟨w, rfl, -⟩ | ⟨rfl, -⟩ <;> cases hi

/-- A worker of a quiescent queue that is not inside client code has no item. -/
theorem Reachable.closing_of_quiescent (h : Reachable u s) (hq : Quiescent u s) {t : ThreadId} {th : Thread ι}
    (ht : s.threads[t]? = some th) (hw : t < u.workers) (hheld : th.isHeld = false) :
    load Instr.closing th.stack = 0 := by
  rcases h.worker_of_quiescent hq ht hw with hyes | ⟨hnil, -⟩ | ⟨rest, hst, -⟩
  · rw [hheld] at hyes
    cases hyes
  · rw [hnil]
    rfl
  · have hone := (h.inRound t).disciplined.1
    rw [stackAt_of_getElem? (getElem?_stacks ht), hst, if_pos hw, load_cons] at hone
    have hle := load_closing_le rest
    rw [hst, load_cons]
    simp only [Instr.duty, Instr.closing] at hone ⊢
    omega

/-- An item is left in a quiescent queue only if every worker is inside client code. -/
theorem Reachable.held_of_item (h : Reachable u s) (hq : Quiescent u s)
    (hitems : s.shared.buffer.value.items ≠ []) {t : ThreadId} (hw : t < u.workers) :
    ∃ th, s.threads[t]? = some th ∧ th.isHeld = true := by
  have hlt : t < s.threads.length := by
    have hle := h.workers_le
    rw [State.stacks, List.length_map] at hle
    exact Nat.lt_of_lt_of_le hw hle
  refine ⟨s.threads[t], List.getElem?_eq_getElem hlt, ?_⟩
  rcases h.worker_of_quiescent hq (List.getElem?_eq_getElem hlt) hw with hheld | ⟨-, hspent⟩ | ⟨-, -, -, hnil, -⟩
  · exact hheld
  · rcases hspent with hd | ⟨-, hnil⟩
    · exact absurd (h.fifo.disposed hd).1 hitems
    · exact absurd hnil hitems
  · exact absurd hnil hitems

/-- If no worker of a quiescent queue is inside client code, exactly the taken items are handled and counted, and there
is no other left. -/
theorem Reachable.handled_of_idle (h : Reachable u s) (hq : Quiescent u s)
    (hidle : ∀ (t : ThreadId) (th : Thread ι), t < u.workers → s.threads[t]? = some th → th.isHeld = false) :
    s.shared.buffer.value.busy = 0 ∧ s.shared.handled.Perm s.shared.taken ∧
      s.shared.counters.processed + s.shared.counters.failed = s.shared.taken.length ∧
      (0 < u.workers → s.shared.buffer.value.items = []) := by
  have hbusy : s.shared.buffer.value.busy = 0 := by
    rw [h.busy_eq]
    refine load_eq_zero fun st hst => ?_
    obtain ⟨th, hth, rfl⟩ := List.mem_map.1 hst
    obtain ⟨t, ht⟩ := List.mem_iff_getElem?.1 hth
    by_cases hw : t < u.workers
    · exact h.closing_of_quiescent hq ht hw (hidle t th hw ht)
    · have hle := (h.inRound t).disciplined.closing_le
      rw [if_neg hw, stackAt_of_getElem? (getElem?_stacks ht)] at hle
      exact Nat.le_zero.1 hle
  have hperm := h.handled_perm_taken hbusy
  refine ⟨hbusy, hperm, ?_, fun hpos => ?_⟩
  · have hproc := h.recorded_outcome hbusy (.inl rfl)
    have hfail := h.recorded_outcome hbusy (.inr rfl)
    have hlen := hperm.length_eq
    have hsplit : s.shared.successes + s.shared.failures = s.shared.handled.length := by
      rw [Shared.handled, List.length_map, Shared.successes, Shared.failures]
      simpa using (List.length_eq_countP_add_countP (fun p : ThreadId × ι × Ending ι => p.2.2.isSuccess)).symm
    have hp : s.shared.counters.processed = s.shared.successes := hproc.symm
    have hf : s.shared.counters.failed = s.shared.failures := hfail.symm
    omega
  · by_contra hitems
    obtain ⟨th, ht, hheld⟩ := h.held_of_item hq hitems hpos
    rw [hidle 0 th hpos ht] at hheld
    cases hheld

end Quiescent

end Conveyor.Queue
