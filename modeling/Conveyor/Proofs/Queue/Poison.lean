import Conveyor.Proofs.Queue.Return

/-!
# What a poisoned lock changes

The instructions of a queue come in two families. Some take the state lock only if it is not poisoned
(`Instr.access?`): on a poisoned lock they come back with an error and do nothing else (`perform_poisoned`). To all
others a poisoned lock is like any other (`perform_poison`).

* `poisoned_iff`: a lock becomes poisoned exactly if a look at the pending items cannot clone one of them, and nothing
  else changes then (`Breaks.eq_of_step`).
* `poisoned_of_execute`: a lock that is poisoned stays so.
-/

namespace Conveyor.Queue

variable {ι : Type}

/-! ## The two families -/

/-- How an instruction takes the state lock, if it does so only when the lock is not poisoned. -/
def Instr.access? : Instr ι → Option Guarded.Access
  | .enter _ | .completeAdding | .pendingCount | .pendingItems => some .lock
  | .retry _ => some .wait
  | _ => none

/-- The same state with its lock poisoned. -/
def Shared.poison (s : Shared ι) : Shared ι := { s with buffer := { s.buffer with poisoned := true } }

/-- The same effect on a state whose lock is poisoned. -/
def Effect.poison (e : Effect ι) : Effect ι := { e with shared := e.shared.poison }

namespace Shared

variable (s : Shared ι) (t : ThreadId) (n : Note ι)

@[simp] theorem poison_value : s.poison.buffer.value = s.buffer.value := rfl

@[simp] theorem poison_poisoned : s.poison.buffer.poisoned = true := rfl

theorem poison_noteAll (ns : List (Note ι)) : s.poison.noteAll t ns = (s.noteAll t ns).poison := by
  induction ns generalizing s with
  | nil => rfl
  | cons n ns ih => exact ih (s.note t n)

end Shared

section Perform

variable {u : Setup ι} {s : Shared ι} {t : ThreadId} {ended : ThreadId → Bool} {held : Reply ι} {i : Instr ι}
  {e : Effect ι}

/-- On a poisoned lock, an instruction that minds comes back with an error and does nothing else. -/
theorem perform_poisoned {a : Guarded.Access} (hi : i.access? = some a) (hp : s.buffer.poisoned = true) :
    perform u s ended t held i =
      some { shared := s, reply := some (.error (.synchronisation a.poisonMessage)) } := by
  cases i <;> cases hi <;> simp [perform, Guarded.checked, hp]

theorem seek_poison : seek u s.poison t = (seek u s t).poison := by
  unfold seek Guarded.recovered
  dsimp only [Shared.poison_value]
  split
  · rfl
  · split
    · rfl
    · split <;> rfl

theorem followUp_poison (role : Role ι) (ending : Ending ι) :
    followUp u s.poison t ending role = (followUp u s t ending role).poison := by
  cases role <;> cases ending <;> rfl

/-- An instruction that does not mind does on a poisoned lock what it does on any other. -/
theorem perform_poison (hi : i.access? = none) :
    perform u s.poison ended t held i = (perform u s ended t held i).map Effect.poison := by
  cases i with
  | run role script =>
    cases script with
    | ret ending => exact congrArg some (followUp_poison role ending)
    | call c next => rfl
    | pause label => rfl
  | upgrade call dead =>
    cases call with
    | nil => rfl
    | cons j call =>
      simp only [perform, Option.map_some, Option.some.injEq]
      have hs : s.poison.strong = s.strong := rfl
      rw [hs]
      split <;> rfl
  | disown =>
    have ho : s.poison.owned = s.owned := rfl
    simp only [perform, ho]
    split <;> rfl
  | enter b => cases hi
  | retry b => cases hi
  | completeAdding => cases hi
  | pendingCount => cases hi
  | pendingItems => cases hi
  | publish x =>
    have hhub : s.poison.hub = s.hub := rfl
    rcases hp : s.hub.publish x with ⟨hub, r, notices⟩
    simp only [perform, hhub, hp, Option.map_some, Option.some.injEq]
    refine congrArg (fun sh => ({ shared := sh, push := _ } : Effect ι)) ?_
    exact Shared.poison_noteAll ({ s with hub := hub }.note t (.published x)) t (notices.map .said)
  | subscribe name filter =>
    have hhub : s.poison.hub = s.hub := rfl
    rcases hp : s.hub.subscribe name filter ("queue:" ++ u.name) with ⟨hub, n, notices⟩
    simp only [perform, hhub, hp, Option.map_some, Option.some.injEq]
    refine congrArg (fun sh => ({ shared := sh, reply := _ } : Effect ι)) ?_
    exact Shared.poison_noteAll ({ s with hub := hub }.note t (.subscribed name n)) t (notices.map .said)
  | take => exact congrArg some seek_poison
  | retake => exact congrArg some seek_poison
  | resolve drained =>
    have hr : s.poison.result = s.result := rfl
    simp only [perform, hr, Option.map_some, Option.some.injEq]
    split <;> rfl
  | dispose =>
    have hv : s.poison.buffer.recovered = s.buffer.recovered := rfl
    simp only [perform, hv, Option.map_some, Option.some.injEq]
    by_cases hd : s.buffer.recovered.disposed = true
    · rw [if_pos hd, if_pos hd]
      rfl
    · rw [if_neg hd, if_neg hd]
      rfl
  | join w =>
    simp only [perform]
    split <;> rfl
  | awaitResult d =>
    have hr : s.poison.result = s.result := rfl
    have hn : s.poison.now = s.now := rfl
    simp only [perform, hr, hn, Option.map_some, Option.some.injEq]
    split
    · rfl
    · split <;> rfl
  | awaitWatch =>
    have hw : s.poison.watch = s.watch := rfl
    simp only [perform, hw]
    split <;> rfl
  | _ => rfl

/-! ## How a lock becomes poisoned -/

theorem look_poisoned (bid : Bid ι) : (look u s t bid).shared.buffer.poisoned = s.buffer.poisoned := by
  unfold look
  dsimp only
  split
  · rfl
  · split
    · rfl
    · split
      · rfl
      · split
        · rfl
        · split <;> rfl

theorem seek_poisoned : (seek u s t).shared.buffer.poisoned = s.buffer.poisoned := by
  unfold seek
  dsimp only
  split
  · rfl
  · split
    · rfl
    · split <;> rfl

theorem followUp_poisoned (role : Role ι) (ending : Ending ι) :
    (followUp u s t ending role).shared.buffer.poisoned = s.buffer.poisoned := by
  cases role <;> cases ending <;> rfl

/-- A look at the pending items that cannot clone one of them panics, and leaves the lock poisoned. -/
theorem perform_pendingItems {m : String} (hp : s.buffer.poisoned = false) (hd : s.buffer.value.disposed = false)
    (hm : firstFault u s.buffer.value.items = some m) :
    perform u s ended t held .pendingItems =
      some { shared := s.poison.note t .poisoned, reply := some (.panicked (.text m)) } := by
  simp [perform, Guarded.checked, hp, hd, hm, Shared.poison]

/-- Nothing else poisons a lock, and nothing mends it. -/
theorem poisoned_of_perform (h : perform u s ended t held i = some e) :
    e.shared.buffer.poisoned = s.buffer.poisoned ∨
      i = .pendingItems ∧ s.buffer.value.disposed = false ∧
        (firstFault u s.buffer.value.items).isSome = true ∧ e.shared.buffer.poisoned = true := by
  cases i with
  | pendingItems =>
    cases hp : s.buffer.poisoned with
    | true =>
      rw [perform_poisoned rfl hp] at h
      cases h
      exact .inl hp
    | false =>
      cases hd : s.buffer.value.disposed with
      | true =>
        simp [perform, Guarded.checked, hp, hd] at h
        exact .inl (h ▸ hp)
      | false =>
        cases hm : firstFault u s.buffer.value.items with
        | none =>
          simp [perform, Guarded.checked, hp, hd, hm] at h
          exact .inl (h ▸ hp)
        | some m =>
          rw [perform_pendingItems hp hd hm] at h
          cases h
          exact .inr ⟨rfl, rfl, rfl, rfl⟩
  | run role script =>
    cases script with
    | ret ending => cases h; exact .inl (followUp_poisoned role ending)
    | call c next => cases h; exact .inl rfl
    | pause label => cases h
  | upgrade call dead =>
    cases call with
    | nil => cases h; exact .inl rfl
    | cons j call =>
      simp only [perform, Option.some.injEq] at h
      split at h <;> (cases h; exact .inl rfl)
  | disown =>
    cases h
    left
    dsimp only
    split <;> rfl
  | enter b =>
    simp only [perform] at h
    split at h
    · cases h; exact .inl rfl
    · simp only [Option.some.injEq] at h
      split at h
      · cases h; exact .inl rfl
      · cases h; exact .inl (look_poisoned b)
  | retry b =>
    simp only [perform] at h
    split at h
    · cases h; exact .inl rfl
    · cases h; exact .inl (look_poisoned b)
  | publish x =>
    cases h
    exact .inl (congrArg Guarded.poisoned (Shared.noteAll_spec _ t _).1)
  | subscribe name filter =>
    cases h
    exact .inl (congrArg Guarded.poisoned (Shared.noteAll_spec _ t _).1)
  | take => cases h; exact .inl seek_poisoned
  | retake => cases h; exact .inl seek_poisoned
  | resolve drained =>
    simp only [perform, Option.some.injEq] at h
    split at h <;> (cases h; exact .inl rfl)
  | completeAdding =>
    simp only [perform] at h
    split at h
    · cases h; exact .inl rfl
    · simp only [Option.some.injEq] at h
      split at h <;> (cases h; exact .inl rfl)
  | dispose =>
    simp only [perform, Option.some.injEq] at h
    split at h <;> (cases h; exact .inl rfl)
  | join w =>
    simp only [perform] at h
    split at h
    · cases h; exact .inl rfl
    · cases h
  | pendingCount =>
    simp only [perform] at h
    split at h <;> (cases h; exact .inl rfl)
  | awaitResult d =>
    simp only [perform, Option.some.injEq] at h
    split at h
    · cases h; exact .inl rfl
    · split at h <;> (cases h; exact .inl rfl)
  | awaitWatch =>
    simp only [perform] at h
    split at h
    · cases h; exact .inl rfl
    · cases h
  | _ => cases h; exact .inl rfl

end Perform

/-- A thread is about to look at the pending items of a queue that is not disposed, and one of them cannot be
cloned. -/
structure Breaks (u : Setup ι) (s : State ι) (t : ThreadId) (th : Thread ι) (rest : List (Instr ι)) : Prop where
  thread : s.threads[t]? = some th
  awake : th.asleep = none
  stack : th.stack = .pendingItems :: rest
  undisposed : s.shared.buffer.value.disposed = false
  fault : ∃ x ∈ s.shared.buffer.value.items, (u.code.cloneFault x).isSome = true

section Steps

variable {u : Setup ι} {s s' : State ι} {c : Choice ι} {cs : List (Choice ι)}

theorem isSome_firstFault {xs : List ι} :
    (firstFault u xs).isSome = true ↔ ∃ x ∈ xs, (u.code.cloneFault x).isSome = true := by
  rw [firstFault, List.findSome?_isSome_iff]

/-- A step that starts a look at the pending items which cannot be cloned panics there; the lock is poisoned, and
nothing else changes. -/
theorem Breaks.eq_of_step {t : ThreadId} {sleeper : Option ThreadId} {th : Thread ι} {rest : List (Instr ι)}
    (h : Breaks u s t th rest) (hp : s.shared.buffer.poisoned = false)
    (hs : step u s (.run t sleeper) = some s') :
    ∃ m, firstFault u s.shared.buffer.value.items = some m ∧
      s'.shared = s.shared.poison.note t .poisoned ∧ s'.reply? t = some (.panicked (.text m)) := by
  obtain ⟨m, hm⟩ := Option.isSome_iff_exists.1 (isSome_firstFault.2 h.fault)
  have heq := eq_of_step_run h.thread h.awake h.stack (perform_pendingItems hp h.undisposed hm) rfl hs
  subst heq
  exact ⟨m, hm, rfl, reply?_set h.thread⟩

/-- A lock becomes poisoned exactly if an item cannot be cloned for a look at the pending items. -/
theorem poisoned_iff (hs : step u s c = some s') (hp : s.shared.buffer.poisoned = false) :
    s'.shared.buffer.poisoned = true ↔ ∃ t sleeper th rest, c = .run t sleeper ∧ Breaks u s t th rest := by
  constructor
  · intro hp'
    cases c with
    | run t sleeper =>
      obtain ⟨th, i, rest, e, ths, ht, hawake, hst, he, -, rfl⟩ := run_of_step hs
      rcases poisoned_of_perform he with heq | ⟨rfl, hd, hfault, -⟩
      · rw [heq, hp] at hp'
        cases hp'
      · exact ⟨t, sleeper, th, rest, rfl, ht, hawake, hst, hd, isSome_firstFault.1 hfault⟩
    | rouse t =>
      obtain ⟨th, -, -, rfl⟩ := rouse_of_step hs
      rw [hp] at hp'
      cases hp'
    | answer t script =>
      obtain ⟨th, role, label, rest, -, -, rfl⟩ := answer_of_step hs
      rw [hp] at hp'
      cases hp'
    | _ =>
      cases hs
      exact absurd (hp.symm.trans hp') Bool.false_ne_true
  · rintro ⟨t, sleeper, th, rest, rfl, hbreak⟩
    obtain ⟨m, -, hshared, -⟩ := hbreak.eq_of_step hp hs
    rw [hshared]
    rfl

/-- A poisoned lock is never mended. -/
theorem poisoned_of_step (hs : step u s c = some s') (hp : s.shared.buffer.poisoned = true) :
    s'.shared.buffer.poisoned = true := by
  cases c with
  | run t sleeper =>
    obtain ⟨th, i, rest, e, ths, -, -, -, he, -, rfl⟩ := run_of_step hs
    rcases poisoned_of_perform he with heq | ⟨-, -, -, hp'⟩
    · exact heq.trans hp
    · exact hp'
  | rouse t =>
    obtain ⟨th, -, -, rfl⟩ := rouse_of_step hs
    exact hp
  | answer t script =>
    obtain ⟨th, role, label, rest, -, -, rfl⟩ := answer_of_step hs
    exact hp
  | _ => cases hs; exact hp

theorem poisoned_of_execute (he : execute u s cs = some s') (hp : s.shared.buffer.poisoned = true) :
    s'.shared.buffer.poisoned = true := by
  induction cs generalizing s with
  | nil => exact Option.some.inj he ▸ hp
  | cons c cs ih =>
    rw [execute_cons, Option.bind_eq_some_iff] at he
    obtain ⟨s₁, hs, he⟩ := he
    exact ih he (poisoned_of_step hs hp)

end Steps

end Conveyor.Queue
