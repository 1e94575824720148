import Conveyor.Proofs.Queue.Containment
import Conveyor.Proofs.Queue.Upkeep

/-!
# Who waits for the workers

The call that disposes an open queue abandons what is left, wakes all sleepers, sets the completion result and then
waits for each worker but its own thread. Nothing else leaves these things to be done (`parting_of_perform`), so in an
open queue nobody has any of them to do (`Reachable.unparted`), and from the disposal on only one thread has: `Closing`
says how far it has come, and every step keeps that (`Closing.step`).

* `Reachable.closing`: how far the disposal of a disposed queue has come.
* `disposer_waits`: when the call that disposes a queue comes back, all workers but its own thread have ended.
* `late_dispose_returns`: no other disposing call waits for anybody.
-/

namespace Conveyor.Queue

variable {ι : Type}

/-! ## Threads that have ended -/

theorem State.hasEnded_eq_isEmpty (s : State ι) (t : ThreadId) : s.hasEnded t = (stackAt s.stacks t).isEmpty := by
  simp only [State.hasEnded, stackAt, State.stacks, List.getElem?_map]
  cases s.threads[t]? <;> rfl

theorem State.hasEnded_iff {s : State ι} {t : ThreadId} : s.hasEnded t = true ↔ stackAt s.stacks t = [] := by
  rw [s.hasEnded_eq_isEmpty, List.isEmpty_iff]

section Steps

variable {u : Setup ι} {s s' : State ι} {c : Choice ι} {t : ThreadId}

/-- What a step does to the stack of a thread: the thread performs an instruction, or it performs none, and is answered,
is new, or keeps its stack. -/
theorem stackAt_of_step (hs : step u s c = some s') (t : ThreadId) :
    (∃ th i rest e sleeper ths, c = .run t sleeper ∧ s.threads[t]? = some th ∧ th.asleep = none ∧
      th.stack = i :: rest ∧ perform u s.shared s.hasEnded t th.reply i = some e ∧
      wake (s.threads.set t (th.after rest e)) sleeper e.wake = some ths ∧ s' = ⟨e.shared, ths⟩ ∧
      stackAt s'.stacks t = e.push ++ rest) ∨
    c.isOf t = false ∧
      ((∃ role label rest script, stackAt s.stacks t = .run role (.pause label) :: rest ∧
        stackAt s'.stacks t = .run role script :: rest) ∨
      (∃ script, s.threads.length = t ∧ stackAt s.stacks t = [] ∧ stackAt s'.stacks t = [.run .client script]) ∨
      stackAt s'.stacks t = stackAt s.stacks t) := by
  cases c with
  | run t' sleeper =>
    obtain ⟨th, i, rest, e, ths, ht, hawake, hst, he, hw, rfl⟩ := run_of_step hs
    have hget : s.stacks[t']? = some (i :: rest) := by rw [getElem?_stacks ht, hst]
    have hstack := stackAt_set hget (e.push ++ rest) t
    rw [← stacks_of_wake hw] at hstack
    by_cases htt : t = t'
    · subst htt
      rw [if_pos rfl] at hstack
      exact .inl ⟨th, i, rest, e, sleeper, ths, rfl, ht, hawake, hst, he, hw, rfl, hstack⟩
    · rw [if_neg htt] at hstack
      exact .inr ⟨Choice.isOf_run.2 (Ne.symm htt), .inr (.inr hstack)⟩
  | rouse t' =>
    obtain ⟨th, ht, -, rfl⟩ := rouse_of_step hs
    rw [stacks_of_awake ht]
    exact .inr ⟨rfl, .inr (.inr rfl)⟩
  | answer t' script =>
    obtain ⟨th, role, label, rest, ht, hst, rfl⟩ := answer_of_step hs
    have hget : s.stacks[t']? = some (.run role (.pause label) :: rest) := by rw [getElem?_stacks ht, hst]
    have hstack := stackAt_set hget (.run role script :: rest) t
    rw [stacks_of_answer]
    by_cases htt : t = t'
    · subst htt
      rw [if_pos rfl] at hstack
      exact .inr ⟨rfl, .inl ⟨role, label, rest, script, stackAt_of_getElem? hget, hstack⟩⟩
    · rw [if_neg htt] at hstack
      exact .inr ⟨rfl, .inr (.inr hstack)⟩
  | spawn script =>
    cases hs
    have hstack : stackAt (s.spawn script).stacks t =
        if t = s.stacks.length then [.run .client script] else stackAt s.stacks t := by
      rw [stacks_spawn, stackAt_append]
    by_cases htt : t = s.stacks.length
    · rw [if_pos htt] at hstack
      exact .inr ⟨rfl, .inr (.inl ⟨script, by simpa [State.stacks] using htt.symm, by simp [stackAt, htt], hstack⟩)⟩
    · rw [if_neg htt] at hstack
      exact .inr ⟨rfl, .inr (.inr hstack)⟩
  | _ => cases hs; exact .inr ⟨rfl, .inr (.inr rfl)⟩

/-- A worker that has ended does nothing more. -/
theorem Reachable.hasEnded_of_step (h : Reachable u s) (hs : Queue.step u s c = some s') (ht : t < u.workers)
    (hended : s.hasEnded t = true) : s'.hasEnded t = true := by
  rw [State.hasEnded_iff] at hended ⊢
  rcases stackAt_of_step hs t with ⟨th, i, rest, e, _, _, -, hth, -, hst, -⟩ |
    ⟨-, ⟨_, _, _, _, hst, -⟩ | ⟨script, hlen, -⟩ | hst⟩
  · rw [stackAt_of_getElem? (getElem?_stacks hth), hst] at hended
    cases hended
  · rw [hst] at hended
    cases hended
  · have hle := h.workers_le
    rw [State.stacks, List.length_map] at hle
    exact absurd ht (Nat.not_lt.2 (hlen ▸ hle))
  · rw [hst, hended]

end Steps

/-! ## What only a disposal leaves to do -/

namespace Instr

/-- Whether the instruction waits for workers, or is about to. -/
def isJoining : Instr ι → Bool
  | .takeHandles | .join _ => true
  | _ => false

/-- Whether the instruction is one that only the disposal of an open queue leaves to do, or what that leaves. -/
def isParting : Instr ι → Bool
  | .bump c _ => c = .abandoned
  | .takeHandles | .join _ => true
  | _ => false

/-- Whether the instruction is one of these, or the owner's letting go of the queue. -/
def isFinal : Instr ι → Bool
  | .bump c _ => c = .abandoned
  | .takeHandles | .join _ | .disown => true
  | _ => false

theorem isParting_of_isJoining {i : Instr ι} (h : i.isJoining = true) : i.isParting = true := by
  cases i <;> simp_all [isJoining, isParting]

theorem isParting_of_isFinal {i : Instr ι} (h : i.isFinal = false) : i.isParting = false := by
  cases i <;> simp_all [isFinal, isParting]

theorem isFinal_of_bid {i : Instr ι} (h : i.bid?.isSome = true) : i.isFinal = false := by
  cases i <;> simp_all [bid?, isFinal]

end Instr

theorem Call.isFinal_instrs {c : Call ι} (now : Nat) (hc : c ≠ .drop) : ∀ i ∈ c.instrs now, i.isFinal = false := by
  cases c with
  | add via x token => cases via <;> simp [Call.instrs, Instr.isFinal]
  | tryAdd via x patience => cases via <;> simp [Call.instrs, Instr.isFinal]
  | waitTimeout patience => cases patience <;> simp [Call.instrs, Instr.isFinal]
  | drop => exact absurd rfl hc
  | _ => simp [Call.instrs, Instr.isFinal]

section Perform

variable {u : Setup ι} {sh : Shared ι} {ended : ThreadId → Bool} {t : ThreadId} {held : Reply ι} {i : Instr ι}
  {e : Effect ι}

theorem final_look (bid : Bid ι) : ∀ j ∈ (look u sh t bid).push, j.isFinal = false := by
  unfold look
  dsimp only
  repeat' split
  all_goals simp [raise, Instr.isFinal]

theorem final_seek : ∀ j ∈ (seek u sh t).push, j.isFinal = false := by
  unfold seek
  dsimp only
  repeat' split
  all_goals simp [Instr.isFinal]

/-- Only the disposal of an open queue, what it leaves, and the call with which the owner lets go of the queue, leave
anything of the kind to do. -/
theorem final_of_perform (hsound : i.isSound = true) (he : perform u sh ended t held i = some e) :
    (∀ j ∈ e.push, j.isFinal = false) ∨ i = .takeHandles ∨ i = .dispose ∧ sh.buffer.value.disposed = false ∨
      ∃ role next, i = .run role (.call .drop next) := by
  cases i with
  | takeHandles => exact .inr (.inl rfl)
  | dispose =>
    simp only [perform, Option.some.injEq] at he
    split at he
    · cases he; exact .inl (by simp)
    · rename_i hd
      exact .inr (.inr (.inl ⟨rfl, by simpa [Guarded.recovered] using hd⟩))
  | run role script =>
    cases script with
    | ret ending =>
      cases he
      left
      cases role <;> cases ending <;> simp [followUp, raise, Instr.isFinal]
    | call c next =>
      by_cases hc : c = .drop
      · subst hc
        exact .inr (.inr (.inr ⟨role, next, rfl⟩))
      · cases he
        left
        intro j hj
        rcases List.mem_append.1 hj with hj | hj
        · exact Call.isFinal_instrs _ hc j hj
        · rw [List.mem_singleton.1 hj]; rfl
    | pause label => cases he
  | upgrade call dead =>
    left
    cases call with
    | nil => cases he; simp
    | cons k call =>
      simp only [perform, Option.some.injEq] at he
      split at he
      · cases he; simp
      · cases he
        intro j hj
        rcases List.mem_append.1 hj with hj | hj
        · exact Instr.isFinal_of_bid (List.all_eq_true.1 hsound j hj)
        · rw [List.mem_singleton.1 hj]; rfl
  | enter bid =>
    left
    simp only [perform] at he
    split at he
    · cases he; simp
    · simp only [Option.some.injEq] at he
      split at he
      · cases he; simp
      · cases he; exact final_look bid
  | retry bid =>
    left
    simp only [perform] at he
    split at he
    · cases he; simp
    · cases he; exact final_look bid
  | take => cases he; exact .inl final_seek
  | retake => cases he; exact .inl final_seek
  | dispatch x =>
    cases he
    left
    intro j hj
    obtain ⟨c, -, rfl⟩ := List.mem_map.1 hj
    rfl
  | publish x =>
    cases he
    left
    dsimp only
    split <;> simp [Instr.isFinal]
  | finish =>
    cases he
    left
    dsimp only
    split <;> simp [Instr.isFinal]
  | resolve drained =>
    left
    simp only [perform, Option.some.injEq] at he
    split at he
    · cases he; simp
    · cases he
      cases drained <;> simp [Instr.isFinal]
  | completeAdding =>
    left
    simp only [perform] at he
    split at he
    · cases he; simp
    · simp only [Option.some.injEq] at he
      split at he
      · cases he; simp
      · cases he
        dsimp only
        split <;> split <;> simp [Instr.isFinal]
  | join w =>
    left
    simp only [perform] at he
    split at he
    · cases he; simp
    · cases he
  | pendingCount =>
    left
    simp only [perform] at he
    split at he <;> (cases he; simp)
  | pendingItems =>
    left
    simp only [perform] at he
    split at he
    · cases he; simp
    · simp only [Option.some.injEq] at he
      split at he
      · cases he; simp
      · split at he <;> (cases he; simp)
  | awaitResult d =>
    left
    simp only [perform, Option.some.injEq] at he
    split at he
    · cases he; simp
    · split at he <;> (cases he; simp [Instr.isFinal])
  | awaitWatch =>
    left
    simp only [perform] at he
    split at he
    · cases he; simp
    · cases he
  | _ => cases he; exact .inl (by simp [loads, Instr.isFinal])

/-- Only the disposal of an open queue, and what it leaves, leaves anything to do that only a disposal does. -/
theorem parting_of_perform (hsound : i.isSound = true) (he : perform u sh ended t held i = some e) :
    (∀ j ∈ e.push, j.isParting = false) ∨ i = .takeHandles ∨ i = .dispose ∧ sh.buffer.value.disposed = false := by
  rcases final_of_perform hsound he with hpush | rfl | hopen | ⟨role, next, rfl⟩
  · exact .inl fun j hj => Instr.isParting_of_isFinal (hpush j hj)
  · exact .inr (.inl rfl)
  · exact .inr (.inr hopen)
  · cases he
    exact .inl (by simp [Call.instrs, Instr.isParting])

theorem disposed_of_dispose (he : perform u sh ended t held .dispose = some e) :
    e.shared.buffer.value.disposed = true := by
  simp only [perform, Option.some.injEq] at he
  split at he
  · rename_i hd
    cases he
    exact hd
  · cases he
    rfl

/-- Only one instruction takes the handles of the workers, and only one is the owner's letting go. -/
theorem belongings_of_perform (he : perform u sh ended t held i = some e) :
    (i ≠ .takeHandles → e.shared.handles = sh.handles) ∧ (i ≠ .disown → e.shared.owned = sh.owned) :=
  ⟨(decreed_of_perform he).handles, (decreed_of_perform he).owned⟩

end Perform

section Steps

variable {u : Setup ι} {s s' : State ι} {c : Choice ι}

/-- The handles stay where they are until a thread takes them, and the queue is its owner's until that lets go of it. -/
theorem belongings_of_step (hs : step u s c = some s') :
    (s'.shared.handles = s.shared.handles ∨
      ∃ t sleeper rest, c = .run t sleeper ∧ stackAt s.stacks t = .takeHandles :: rest) ∧
    (s'.shared.owned = s.shared.owned ∨
      ∃ t sleeper rest, c = .run t sleeper ∧ stackAt s.stacks t = .disown :: rest) := by
  cases c with
  | run t sleeper =>
    obtain ⟨th, i, rest, e, ths, ht, -, hst, he, -, rfl⟩ := run_of_step hs
    have hstack : stackAt s.stacks t = i :: rest := by rw [stackAt_of_getElem? (getElem?_stacks ht), hst]
    obtain ⟨hhandles, howned⟩ := belongings_of_perform he
    constructor
    · by_cases hi : i = .takeHandles
      · exact .inr ⟨t, sleeper, rest, rfl, hi ▸ hstack⟩
      · exact .inl (hhandles hi)
    · by_cases hi : i = .disown
      · exact .inr ⟨t, sleeper, rest, rfl, hi ▸ hstack⟩
      · exact .inl (howned hi)
  | rouse t =>
    obtain ⟨th, -, -, rfl⟩ := rouse_of_step hs
    exact ⟨.inl rfl, .inl rfl⟩
  | answer t script =>
    obtain ⟨th, role, label, rest, -, -, rfl⟩ := answer_of_step hs
    exact ⟨.inl rfl, .inl rfl⟩
  | _ => cases hs; exact ⟨.inl rfl, .inl rfl⟩

/-- A step that does not dispose the queue leaves nothing of the kind to do where there was nothing. -/
theorem Reachable.unparted_of_step (h : Reachable u s) (hs : Queue.step u s c = some s') {t : ThreadId}
    (hstays : s'.shared.buffer.value.disposed = s.shared.buffer.value.disposed)
    (hno : ∀ i ∈ stackAt s.stacks t, i.isParting = false) : ∀ i ∈ stackAt s'.stacks t, i.isParting = false := by
  rcases stackAt_of_step hs t with ⟨th, i, rest, e, sleeper, ths, -, ht, -, hst, he, -, rfl, hst'⟩ |
    ⟨-, ⟨role, label, rest, script, hst, hst'⟩ | ⟨script, -, -, hst'⟩ | hst'⟩
  · rw [stackAt_of_getElem? (getElem?_stacks ht), hst] at hno
    have hsound : i.isSound = true := h.sound.head (hst ▸ getElem?_stacks ht)
    intro j hj
    rw [hst'] at hj
    rcases List.mem_append.1 hj with hj | hj
    · rcases parting_of_perform hsound he with hpush | rfl | ⟨rfl, hopen⟩
      · exact hpush j hj
      · cases hno _ List.mem_cons_self
      · rw [hopen, disposed_of_dispose he] at hstays
        cases hstays
    · exact hno j (List.mem_cons_of_mem _ hj)
  · rw [hst] at hno
    rw [hst']
    intro j hj
    rcases List.mem_cons.1 hj with rfl | hj
    · rfl
    · exact hno j (List.mem_cons_of_mem _ hj)
  · rw [hst']
    intro j hj
    rw [List.mem_singleton.1 hj]
    rfl
  · rw [hst']
    exact hno

/-- A queue that is open was so before. -/
theorem Reachable.open_of_step (h : Reachable u s) (hs : Queue.step u s c = some s')
    (hopen : s'.shared.buffer.value.disposed = false) : s.shared.buffer.value.disposed = false := by
  by_contra hd
  have hd := Bool.eq_true_of_not_eq_false hd
  rw [((h.turn hs).frozen hd (h.fifo.disposed hd).1).disposed] at hopen
  cases hopen

/-- In an open queue nobody has anything of the kind to do, and the handles of all workers are there. -/
theorem Reachable.unparted (h : Reachable u s) (hopen : s.shared.buffer.value.disposed = false) :
    s.shared.handles = List.range u.workers ∧ ∀ t, ∀ i ∈ stackAt s.stacks t, i.isParting = false := by
  induction h with
  | start =>
    refine ⟨rfl, fun t i hi => ?_⟩
    rw [stackAt_start] at hi
    split at hi
    · simp only [List.mem_cons, List.not_mem_nil, or_false] at hi
      rcases hi with rfl | rfl <;> rfl
    · cases hi
  | @step s s' c hr hs ih =>
    have hopen₀ := hr.open_of_step hs hopen
    obtain ⟨hhandles, hno⟩ := ih hopen₀
    refine ⟨?_, fun t => hr.unparted_of_step hs (hopen.trans hopen₀.symm) (hno t)⟩
    rcases (belongings_of_step hs).1 with heq | ⟨t, sleeper, rest, -, hst⟩
    · rw [heq, hhandles]
    · cases hno t .takeHandles (hst ▸ List.mem_cons_self)

end Steps

/-! ## How far a disposal has come -/

/-- Thread `t`, which has `rest` to do after it has disposed the queue, has still to take the handles of all workers,
with nothing before that it could wait for; or it waits for those workers that have not ended; or all have ended. -/
inductive Leaving (u : Setup ι) (t : ThreadId) (rest : List (Instr ι)) (s : State ι) : Prop
  | taking {p : List (Instr ι)} (hst : stackAt s.stacks t = p ++ .takeHandles :: rest)
      (hp : ∀ i ∈ p, i.isSwift = true) (hhandles : s.shared.handles = List.range u.workers)
  | joining {ws : List ThreadId} (hst : stackAt s.stacks t = ws.map .join ++ .reply .unit :: rest)
      (hws : ∀ w ∈ ws, w < u.workers ∧ w ≠ t) (hended : ∀ w < u.workers, w ≠ t → w ∈ ws ∨ s.hasEnded w = true)
  | back (hno : ∀ i ∈ stackAt s.stacks t, i.isParting = false)
      (hended : ∀ w < u.workers, w ≠ t → s.hasEnded w = true)

/-- The queue was disposed by thread `t`, which had `rest` to do after that. What belongs to the disposal is on that
thread only: it has woken all sleepers and set the result, or has still to. -/
structure Closing (u : Setup ι) (t : ThreadId) (rest : List (Instr ι)) (s : State ι) : Prop where
  disposed : s.shared.buffer.value.disposed = true
  disposer : ∃ xs drained, s.shared.disposals = [(t, xs, drained)]
  below : ∀ i ∈ rest, i.isParting = false
  others : ∀ t' ≠ t, ∀ i ∈ stackAt s.stacks t', i.isParting = false
  roused : ∀ c ≠ .resolved, (∃ th ∈ s.threads, th.asleep = some c) → .notifyAll c ∈ stackAt s.stacks t
  resolved : s.shared.result = none → ∃ b, .resolve b ∈ stackAt s.stacks t
  leaving : Leaving u t rest s

section Closing

variable {u : Setup ι} {s s' : State ι} {c : Choice ι} {t : ThreadId} {rest : List (Instr ι)}

/-- A thread that has all sleepers to wake wakes them, or still has to after a step. -/
theorem Reachable.rouses_step (h : Reachable u s) (hs : Queue.step u s c = some s') {k : Condition}
    (hup : k.isUp s.shared = true)
    (hby : (∃ th ∈ s.threads, th.asleep = some k) → .notifyAll k ∈ stackAt s.stacks t) :
    (∃ th ∈ s'.threads, th.asleep = some k) → .notifyAll k ∈ stackAt s'.stacks t := by
  intro hsleep
  cases moves_of_step h.sound hs with
  | @act t' th i below e sleeper ths ht hawake hst hact hwake =>
    have hget : s.stacks[t']? = some (i :: below) := by rw [getElem?_stacks ht, hst]
    rw [stacks_of_wake hwake, stackAt_set hget]
    rcases sleepers_before hact hwake hsleep with ⟨hno, -⟩ | hold
    · have hstill : k.isUp e.shared = true := by
        rcases hact.isUp_cases k with heq | ⟨htrue, -⟩
        · exact heq ▸ hup
        · exact htrue
      exact absurd (hstill.symm.trans hno) (by decide)
    · have hmem := hby hold
      split
      · rename_i htt
        rw [htt, stackAt_of_getElem? hget] at hmem
        rcases List.mem_cons.1 hmem with rfl | hmem
        · -- all are woken now
          rw [hact.wake_all] at hwake
          obtain ⟨th', hth', hs'⟩ := hsleep
          exact absurd hs' (wake_all hwake th' hth')
        · exact List.mem_append_right _ hmem
      · exact hmem
  | rouse ht => exact (eased_rouse ht).all t (hby ((eased_rouse ht).asleep hsleep))
  | answer ht hst => exact (eased_answer _ ht hst).all t (hby ((eased_answer _ ht hst).asleep hsleep))
  | spawn script => exact (eased_spawn script).all t (hby ((eased_spawn script).asleep hsleep))
  | outside hsame => exact hby hsleep

/-- A thread that has the result to set sets it, or still has to after a step. -/
theorem Reachable.resolves_step (h : Reachable u s) (hs : Queue.step u s c = some s')
    (hby : s.shared.result = none → ∃ b, .resolve b ∈ stackAt s.stacks t) :
    s'.shared.result = none → ∃ b, .resolve b ∈ stackAt s'.stacks t := by
  intro hnone
  have hnone₀ : s.shared.result = none := by
    cases hr : s.shared.result with
    | none => rfl
    | some b =>
      rw [(h.shift hs).result_stable hr] at hnone
      cases hnone
  obtain ⟨b, hb⟩ := hby hnone₀
  refine ⟨b, ?_⟩
  rcases stackAt_of_step hs t with ⟨th, i, below, e, sleeper, ths, -, ht, -, hst, he, -, rfl, hst'⟩ |
    ⟨-, ⟨role, label, below, script, hst, hst'⟩ | ⟨script, -, hst, -⟩ | hst'⟩
  · rw [stackAt_of_getElem? (getElem?_stacks ht), hst] at hb
    rw [hst']
    rcases List.mem_cons.1 hb with rfl | hb
    · simp only [perform, hnone₀, Option.isSome_none, Bool.false_eq_true, if_false, Option.some.injEq] at he
      subst he
      cases hnone
    · exact List.mem_append_right _ hb
  · rw [hst] at hb
    rw [hst']
    rcases List.mem_cons.1 hb with hb | hb
    · cases hb
    · exact List.mem_cons_of_mem _ hb
  · rw [hst] at hb
    cases hb
  · rwa [hst']

/-- Whoever waits for a worker goes on once that has ended. -/
theorem Leaving.step (h : Leaving u t rest s) (hr : Reachable u s) (hs : Queue.step u s c = some s')
    (hd : s.shared.buffer.value.disposed = true) (hbelow : ∀ i ∈ rest, i.isParting = false)
    (hothers : ∀ t' ≠ t, ∀ i ∈ stackAt s.stacks t', i.isParting = false) : Leaving u t rest s' := by
  have hd' := ((hr.turn hs).frozen hd (hr.fifo.disposed hd).1).disposed
  have hkeep : ∀ w < u.workers, s.hasEnded w = true → s'.hasEnded w = true := fun w hw =>
    hr.hasEnded_of_step hs hw
  cases h with
  | back hno hended =>
    exact .back (hr.unparted_of_step hs (hd'.trans hd.symm) hno) fun w hw hwt => hkeep w hw (hended w hw hwt)
  | @joining ws hst hws hended =>
    rcases stackAt_of_step hs t with ⟨th, i, below, e, sleeper, ths, -, ht, -, hth, he, -, rfl, hst'⟩ |
      ⟨-, ⟨role, label, below, script, hst₀, -⟩ | ⟨script, -, hst₀, -⟩ | hst'⟩
    · rw [stackAt_of_getElem? (getElem?_stacks ht), hth] at hst
      cases ws with
      | nil =>
        cases hst
        cases he
        refine .back (fun j hj => ?_) fun w hw hwt => hkeep w hw ((hended w hw hwt).resolve_left List.not_mem_nil)
        rw [hst'] at hj
        exact hbelow j hj
      | cons w ws =>
        cases hst
        simp only [perform] at he
        split at he
        · rename_i hw
          cases he
          refine .joining hst' (fun w' hw' => hws w' (List.mem_cons_of_mem _ hw')) fun w' hlt hwt => ?_
          rcases hended w' hlt hwt with hmem | hyes
          · rcases List.mem_cons.1 hmem with rfl | hmem
            · exact .inr (hkeep _ hlt hw)
            · exact .inl hmem
          · exact .inr (hkeep w' hlt hyes)
        · cases he
    · rw [hst₀] at hst
      cases ws <;> cases hst
    · rw [hst₀] at hst
      cases ws <;> cases hst
    · exact .joining (hst'.trans hst) hws fun w hw hwt => (hended w hw hwt).imp_right (hkeep w hw)
  | @taking p hst hp hhandles =>
    rcases stackAt_of_step hs t with ⟨th, i, below, e, sleeper, ths, -, ht, -, hth, he, -, rfl, hst'⟩ |
      ⟨hc, ⟨role, label, below, script, hst₀, -⟩ | ⟨script, -, hst₀, -⟩ | hst'⟩
    · rw [stackAt_of_getElem? (getElem?_stacks ht), hth] at hst
      cases p with
      | nil =>
        cases hst
        cases he
        refine .joining (by rw [hst', hhandles, List.append_assoc]; rfl) (fun w hw => ?_) fun w hw hwt => .inl ?_
        · simpa using hw
        · simpa using ⟨hw, hwt⟩
      | cons j p =>
        cases hst
        have hj := hp i List.mem_cons_self
        refine .taking (p := e.push ++ p) (by rw [hst', List.append_assoc]; rfl) (fun k hk => ?_) ?_
        · rcases List.mem_append.1 hk with hk | hk
          · exact swift_of_perform hj he k hk
          · exact hp k (List.mem_cons_of_mem _ hk)
        · exact ((belongings_of_perform he).1 (by rintro rfl; cases hj)).trans hhandles
    · rw [hst₀] at hst
      cases p with
      | nil => cases hst
      | cons j p =>
        cases hst
        cases hp _ List.mem_cons_self
    · rw [hst₀] at hst
      cases p <;> cases hst
    · refine .taking (hst'.trans hst) hp ?_
      rcases (belongings_of_step hs).1 with heq | ⟨t', sleeper, below, rfl, hst₀⟩
      · rw [heq, hhandles]
      · have htt : t' ≠ t := Choice.isOf_run.1 hc
        cases hothers t' htt .takeHandles (hst₀ ▸ List.mem_cons_self)

/-- How far a disposal has come stays true of it. -/
theorem Closing.step (h : Closing u t rest s) (hr : Reachable u s) (hs : Queue.step u s c = some s') :
    Closing u t rest s' := by
  have hf := (hr.turn hs).frozen h.disposed (hr.fifo.disposed h.disposed).1
  refine ⟨hf.disposed, ?_, h.below, fun t' htt => ?_, fun k hk => ?_, hr.resolves_step hs h.resolved,
    h.leaving.step hr hs h.disposed h.below h.others⟩
  · rw [hf.disposals]
    exact h.disposer
  · exact hr.unparted_of_step hs (hf.disposed.trans h.disposed.symm) (h.others t' htt)
  · have hup : k.isUp s.shared = true := by simp [k.isUp_of_ne hk, Buffer.isClosed, h.disposed]
    exact hr.rouses_step hs hup (h.roused k hk)

theorem Closing.execute {cs : List (Choice ι)} (h : Closing u t rest s) (hr : Reachable u s)
    (he : Queue.execute u s cs = some s') : Closing u t rest s' :=
  hr.execute_induction (P := Closing u t rest) (fun hr hs hc => hc.step hr hs) he h

/-- What the disposal of a queue with `n` items does before it takes the handles. -/
def farewell (u : Setup ι) (n : Nat) (drained : Bool) : List (Instr ι) :=
  [.notifyAll .notEmpty, .notifyAll .notFull, .bump .abandoned n, .resolve drained, .say (.disposed u.name n),
    .publish (u.milestone .disposed (some n))]

theorem isSwift_farewell (u : Setup ι) (n : Nat) (drained : Bool) : ∀ i ∈ farewell u n drained, i.isSwift = true := by
  simp [farewell, Instr.isSwift]

/-- What the disposal of an open queue does, and what it leaves to be done. -/
theorem disposal_of_step {sleeper : Option ThreadId} (hs : Queue.step u s (.run t sleeper) = some s')
    (hst : stackAt s.stacks t = .dispose :: rest) (hopen : s.shared.buffer.value.disposed = false) :
    s'.shared = (s.shared.setBuffer s.shared.buffer.value.close).note t
        (.abandoned s.shared.buffer.value.items s.shared.buffer.value.isDrained) ∧
      ∀ t', stackAt s'.stacks t' = if t' = t then
        farewell u s.shared.buffer.value.items.length s.shared.buffer.value.isDrained ++ .takeHandles :: rest
      else stackAt s.stacks t' := by
  obtain ⟨th, i, below, e, ths, ht, -, hth, he, hw, rfl⟩ := run_of_step hs
  have hget := getElem?_stacks ht
  rw [stackAt_of_getElem? hget, hth] at hst
  cases hst
  simp only [perform, Guarded.recovered, hopen, Bool.false_eq_true, if_false, Option.some.injEq] at he
  subst he
  refine ⟨rfl, fun t' => ?_⟩
  rw [stacks_of_wake hw]
  exact stackAt_set (hth ▸ hget) _ t'

/-- How far the disposal of an open queue has come at once. -/
theorem Reachable.closing_of_dispose (h : Reachable u s) {sleeper : Option ThreadId}
    (hs : Queue.step u s (.run t sleeper) = some s') (hst : stackAt s.stacks t = .dispose :: rest)
    (hopen : s.shared.buffer.value.disposed = false) : Closing u t rest s' := by
  obtain ⟨hhandles, hno⟩ := h.unparted hopen
  obtain ⟨hshared, hstack⟩ := disposal_of_step hs hst hopen
  have hself := hstack t
  rw [if_pos rfl] at hself
  refine ⟨by rw [hshared]; rfl, ⟨s.shared.buffer.value.items, s.shared.buffer.value.isDrained, ?_⟩,
    fun i hi => hno t i (hst ▸ List.mem_cons_of_mem _ hi), fun t' htt => ?_, fun k hk _ => ?_, fun _ => ?_,
    .taking hself (isSwift_farewell _ _ _) (by rw [hshared]; exact hhandles)⟩
  · rw [hshared]
    simp [Note.abandoned?, h.fifo.undisposed hopen]
  · rw [hstack, if_neg htt]
    exact hno t'
  · rw [hself]
    cases k with
    | resolved => exact absurd rfl hk
    | _ => simp [farewell]
  · exact ⟨s.shared.buffer.value.isDrained, by rw [hself]; simp [farewell]⟩

/-- Only a call that disposes it disposes a queue. -/
theorem Reachable.dispose_of_disposed (h : Reachable u s) (hs : Queue.step u s c = some s')
    (hopen : s.shared.buffer.value.disposed = false) (hd : s'.shared.buffer.value.disposed = true) :
    ∃ t sleeper rest, c = .run t sleeper ∧ stackAt s.stacks t = .dispose :: rest := by
  have hno : ∀ {sh : Shared ι}, sh = s.shared → sh.buffer.value.disposed = true → False := fun heq hyes => by
    rw [heq, hopen] at hyes
    cases hyes
  cases c with
  | run t sleeper =>
    obtain ⟨th, i, rest, e, ths, ht, -, hst, he, -, rfl⟩ := run_of_step hs
    have hsound : i.isSound = true := h.sound.head (hst ▸ getElem?_stacks ht)
    rcases (act_of_perform hsound he).disposed with heq | rfl
    · exact absurd (hopen.symm.trans (heq.symm.trans hd)) (by decide)
    · exact ⟨t, sleeper, rest, rfl, by rw [stackAt_of_getElem? (getElem?_stacks ht), hst]⟩
  | rouse t =>
    obtain ⟨th, -, -, rfl⟩ := rouse_of_step hs
    exact (hno rfl hd).elim
  | answer t script =>
    obtain ⟨th, role, label, rest, -, -, rfl⟩ := answer_of_step hs
    exact (hno rfl hd).elim
  | _ => cases hs; exact absurd (hopen.symm.trans hd) (by decide)

/-- A disposed queue was disposed by some thread, which has come so far with it. -/
theorem Reachable.closing (h : Reachable u s) (hd : s.shared.buffer.value.disposed = true) :
    ∃ t rest, Closing u t rest s := by
  induction h with
  | start => cases hd
  | @step s s' c hr hs ih =>
    by_cases hd₀ : s.shared.buffer.value.disposed = true
    · obtain ⟨t, rest, hc⟩ := ih hd₀
      exact ⟨t, rest, hc.step hr hs⟩
    · have hopen := Bool.eq_false_iff.2 hd₀
      obtain ⟨t, sleeper, rest, rfl, hst⟩ := hr.dispose_of_disposed hs hopen hd
      exact ⟨t, rest, hr.closing_of_dispose hs hst hopen⟩

/-- Who is back from the disposal has seen all other workers end. -/
theorem Closing.back (h : Closing u t rest s) (hback : (stackAt s.stacks t).length ≤ rest.length) :
    (∀ w < u.workers, w ≠ t → s.hasEnded w = true) ∧ ∀ t', ∀ i ∈ stackAt s.stacks t', i.isParting = false := by
  cases h.leaving with
  | taking hst =>
    rw [hst, List.length_append, List.length_cons] at hback
    omega
  | joining hst =>
    rw [hst, List.length_append, List.length_cons] at hback
    omega
  | back hno hended =>
    refine ⟨hended, fun t' => ?_⟩
    by_cases htt : t' = t
    · exact htt ▸ hno
    · exact h.others t' htt

end Closing

/-! ## Once the workers have ended -/

/-- The handler is at no item and about to get none, no worker is busy, and all that was accepted is counted as
processed, failed or abandoned. -/
structure Deserted (s : State ι) : Prop where
  idle : ∀ th ∈ s.threads, ∀ i ∈ th.stack, i.starting? = none ∧ i.handling? = none
  busy : s.shared.buffer.value.busy = 0
  counted : s.shared.counters.processed + s.shared.counters.failed + s.shared.counters.abandoned =
    s.shared.accepted.length

section Ended

variable {u : Setup ι} {s s' : State ι} {cs : List (Choice ι)}

/-- Only workers have to do with items, so nobody has once they have ended. -/
theorem Reachable.pending_of_ended (h : Reachable u s) (hended : ∀ w < u.workers, s.hasEnded w = true) (t : ThreadId) :
    load Instr.pending (stackAt s.stacks t) = 0 ∧ load Instr.closing (stackAt s.stacks t) = 0 := by
  have hround := (h.inRound t).disciplined
  by_cases ht : t < u.workers
  · rw [State.hasEnded_iff.1 (hended t ht)]
    exact ⟨rfl, rfl⟩
  · have hle := hround.closing_le
    rw [if_neg ht] at hle
    exact ⟨Nat.le_zero.1 (hround.2.le.trans hle), Nat.le_zero.1 hle⟩

theorem Reachable.deserted (h : Reachable u s) (hended : ∀ w < u.workers, s.hasEnded w = true)
    (hd : s.shared.buffer.value.disposed = true)
    (hno : ∀ t, ∀ i ∈ stackAt s.stacks t, i.isParting = false) : Deserted s := by
  have hstack : ∀ th ∈ s.threads, ∃ t, stackAt s.stacks t = th.stack := fun th hth => by
    obtain ⟨t, ht⟩ := List.mem_iff_getElem?.1 hth
    exact ⟨t, stackAt_of_getElem? (getElem?_stacks ht)⟩
  constructor
  case idle =>
    intro th hth i hi
    obtain ⟨t, ht⟩ := hstack th hth
    obtain ⟨hstarting, hhandling⟩ := filterMap_of_pending (h.pending_of_ended hended t).1
    rw [ht] at hstarting hhandling
    exact ⟨List.filterMap_eq_nil_iff.1 hstarting i hi, List.filterMap_eq_nil_iff.1 hhandling i hi⟩
  case busy =>
    rw [h.busy_eq]
    refine load_eq_zero fun st hst => ?_
    obtain ⟨th, hth, rfl⟩ := List.mem_map.1 hst
    obtain ⟨t, ht⟩ := hstack th hth
    exact ht ▸ (h.pending_of_ended hended t).2
  case counted =>
    have hpending : total Instr.pending s.stacks = 0 := load_eq_zero fun st hst => by
      obtain ⟨th, hth, rfl⟩ := List.mem_map.1 hst
      obtain ⟨t, ht⟩ := hstack th hth
      exact ht ▸ (h.pending_of_ended hended t).1
    have habandoned := h.abandoned_counted.2 fun th hth n hn => by
      obtain ⟨t, ht⟩ := hstack th hth
      have := hno t _ (ht ▸ hn)
      simp [Instr.isParting] at this
    have heq := h.accepted_eq
    rw [(h.fifo.disposed hd).1, hpending, List.length_nil] at heq
    omega

/-- An instruction that hands no item to the handler notes no start. -/
theorem Act.starts_of_starting? {sh : Shared ι} {t : ThreadId} {i : Instr ι} {e : Effect ι} (hact : Act u sh t i e)
    (hi : i.starting? = none) : e.shared.starts = sh.starts := by
  rcases hact.item_cases with ⟨x, -, hdeals⟩ | ⟨x, rfl, -⟩ | ⟨x, ending, -, hdeals⟩ | ⟨-, hdeals⟩
  · simpa using hdeals.starts
  · cases hi
  · simpa using hdeals.starts
  · simpa using hdeals.starts

/-- Where no thread is about to hand an item to the handler, no step does. -/
theorem Shift.starts_of_starting? {sh sh' : Shared ι} {ss ss' : List (List (Instr ι))} (h : Shift u sh ss sh' ss')
    (hno : ∀ t, ∀ i ∈ stackAt ss t, i.starting? = none) : sh'.starts = sh.starts := by
  cases h with
  | act ht hact => exact hact.starts_of_starting? (hno _ _ (stackAt_of_getElem? ht ▸ List.mem_cons_self))
  | same hsame => exact hsame.starts
  | _ => rfl

/-- Once the workers have ended, the handler gets no item any more. -/
theorem Reachable.starts_of_ended (h : Reachable u s) (hended : ∀ w < u.workers, s.hasEnded w = true)
    (he : Queue.execute u s cs = some s') : s'.shared.starts = s.shared.starts := by
  refine (h.execute_induction (P := fun s₁ => (∀ w < u.workers, s₁.hasEnded w = true) ∧
    s₁.shared.starts = s.shared.starts) (fun {s₁ s₂ c} hr hs hP => ⟨fun w hw => hr.hasEnded_of_step hs hw (hP.1 w hw),
      ?_⟩) he ⟨hended, rfl⟩).2
  rw [← hP.2]
  refine (hr.shift hs).starts_of_starting? fun t => ?_
  exact List.filterMap_eq_nil_iff.1 (filterMap_of_pending (hr.pending_of_ended hP.1 t).1).1

end Ended

/-! ## The call that disposes a queue waits, and no other -/

section Waits

variable {u : Setup ι} {s₀ s₁ s : State ι} {t : ThreadId} {sleeper : Option ThreadId} {rest : List (Instr ι)}
  {cs : List (Choice ι)}

/-- When the call that finds the queue open and disposes it is back, whatever happened in between, all workers but its
own thread have ended for good. If that is no worker, the handler is at no item and never gets another one, no worker is
busy, and what was ever accepted is processed, failed or abandoned. But from the disposal on, each other disposing call
is back at once, in one silent step, whoever is at work. -/
theorem disposer_waits (h : Reachable u s₀) (hst : stackAt s₀.stacks t = .dispose :: rest)
    (hopen : s₀.shared.buffer.value.disposed = false) (hs : step u s₀ (.run t sleeper) = some s₁)
    (he : execute u s₁ cs = some s) :
    ((stackAt s.stacks t).length ≤ rest.length → ∀ cs' s', execute u s cs' = some s' →
      (∀ w < u.workers, w ≠ t → s'.hasEnded w = true) ∧
      (u.workers ≤ t → Deserted s' ∧ s'.shared.starts = s.shared.starts)) ∧
    ∀ t' th below, s.threads[t']? = some th → th.asleep = none → th.stack = .dispose :: below →
      ∃ s', step u s (.run t' none) = some s' ∧ s'.shared = s.shared ∧ stackAt s'.stacks t' = below ∧
        s'.reply? t' = some .unit := by
  have hr₁ := h.step hs
  have hr := hr₁.execute he
  have hclosing := (h.closing_of_dispose hs hst hopen).execute hr₁ he
  refine ⟨fun hback cs' s' he' => ?_, fun t' th below ht hawake hth => ?_⟩
  · obtain ⟨hended, hno⟩ := hclosing.back hback
    have hlater := hr.execute_induction
      (P := fun s' => s'.shared.buffer.value.disposed = true ∧ (∀ w < u.workers, w ≠ t → s'.hasEnded w = true) ∧
        ∀ t', ∀ i ∈ stackAt s'.stacks t', i.isParting = false)
      (fun {s₂ s₃ c} hr₂ hs₂ hP => by
        have hd := ((hr₂.turn hs₂).frozen hP.1 (hr₂.fifo.disposed hP.1).1).disposed
        exact ⟨hd, fun w hw hwt => hr₂.hasEnded_of_step hs₂ hw (hP.2.1 w hw hwt),
          fun t' => hr₂.unparted_of_step hs₂ (hd.trans hP.1.symm) (hP.2.2 t')⟩)
      he' ⟨hclosing.disposed, hended, hno⟩
    refine ⟨hlater.2.1, fun ht => ?_⟩
    have hall : ∀ {s : State ι}, (∀ w < u.workers, w ≠ t → s.hasEnded w = true) →
        ∀ w < u.workers, s.hasEnded w = true := fun hended w hw => hended w hw (Nat.ne_of_lt (hw.trans_le ht))
    exact ⟨(hr.execute he').deserted (hall hlater.2.1) hlater.1 hlater.2.2, hr.starts_of_ended (hall hended) he'⟩
  · have hrun := step_run (u := u) ht hawake hth (perform_dispose hclosing.disposed) rfl
    refine ⟨_, hrun, rfl, ?_, by rw [reply?_set ht]; rfl⟩
    simp [stackAt, State.stacks, (List.getElem?_eq_some_iff.1 ht).1, Thread.after]

/-- The disposing client comes as far as to wait for the worker; then the handler returns, and the worker leaves. -/
def sampleLeaving : List (Choice Nat) := runs 2 9 ++ .answer 0 .done :: runs 0 6 ++ runs 2 2

theorem sample_disposer_waits :
    ∃ s₁ s, step sample (after sample sampleClosing) (.run 2 none) = some s₁ ∧
      execute sample s₁ sampleLeaving = some s ∧
      stackAt s.stacks 2 = [.resume .client fun r => .ret (.returned r)] ∧ s.hasEnded 0 = true ∧ Deserted s ∧
      s.shared.counters.processed = 1 ∧ s.shared.counters.abandoned = 1 := by
  have hs : step sample (after sample sampleClosing) (.run 2 none) =
      some (after sample (sampleClosing ++ [.run 2 none])) := rfl
  have he : execute sample (after sample (sampleClosing ++ [.run 2 none])) sampleLeaving =
      some (after sample (sampleClosing ++ .run 2 none :: sampleLeaving)) := rfl
  have hst : stackAt (after sample sampleClosing).stacks 2 =
      [.dispose, .resume .client fun r => .ret (.returned r)] := rfl
  obtain ⟨hback, -⟩ := disposer_waits (reachable_after sample sampleClosing) hst rfl hs he
  obtain ⟨hended, hidle⟩ := hback (Nat.le_refl 1) [] _ rfl
  exact ⟨_, _, hs, he, rfl, hended 0 (by decide) (by decide), (hidle (by decide)).1, rfl, rfl⟩

/-- A client waits in its disposing call for the worker, whose handler is at an item. The disposing call of another
client is back all the same: the handler is still at its item, the worker is busy, and of two accepted items one is
counted. -/
theorem late_dispose_returns :
    ∃ s₀ s, execute sample sample.start (sampleClosing ++ runs 2 10 ++ .spawn (.just .dispose) :: runs 3 1) = some s₀ ∧
      sample.workers ≤ 3 ∧ stackAt s₀.stacks 3 = [.dispose, .resume .client fun r => .ret (.returned r)] ∧
      execute sample s₀ (runs 3 3) = some s ∧ s.hasEnded 3 = true ∧
      (∃ below, stackAt s.stacks 0 = .run (.handler 7) (.pause "handler") :: below) ∧
      s.shared.buffer.value.busy = 1 ∧ s.shared.accepted = [7, 8] ∧
      s.shared.counters.processed + s.shared.counters.failed + s.shared.counters.abandoned = 1 :=
  ⟨_, _, rfl, by decide, rfl, rfl, rfl, ⟨_, rfl⟩, rfl, rfl, rfl⟩

end Waits

end Conveyor.Queue
