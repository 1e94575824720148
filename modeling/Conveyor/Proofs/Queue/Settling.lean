import Conveyor.Proofs.Queue.Quiescence

/-!
# Who can do more than doze

A thread that wakes up on its own and finds nothing new falls asleep again: it dozes (`Dozes`), and the queue is as it
was, but for who sleeps (`Alike`). A thread that can do more than that goes on being able to while others doze
(`CanGoOn.alike`). So either some thread can do more, or once all that doze are asleep nobody can do anything
(`Reachable.settle`), and what is known of quiescent queues says what the threads wait for.

Everything else uses something up: the effort (`Instr.effort`) of what the threads have still to do, together with that
of the items in the buffer, goes down with every instruction that does not doze (`effort_of_perform`), as long as replies
do not make scripts longer and handlers have a bound.
-/

namespace Conveyor.Queue

variable {ι : Type}

/-! ## Dozing -/

/-- The instruction looked again after a sleep, and its thread falls asleep again. -/
def Dozes (i : Instr ι) (e : Effect ι) : Prop := ∃ c, i.rechecks c = true ∧ e.asleep = some c

section Doze

variable {u : Setup ι} {sh : Shared ι} {ended : ThreadId → Bool} {t : ThreadId} {held : Reply ι} {i : Instr ι}
  {e : Effect ι}

theorem look_of_asleep {bid : Bid ι} {c : Condition} (h : (look u sh t bid).asleep = some c) :
    look u sh t bid = { shared := sh, push := [.retry bid], asleep := some .notFull } ∧ c = .notFull := by
  unfold look at h ⊢
  dsimp only at h ⊢
  repeat' split at h
  all_goals try cases h
  simp_all

theorem seek_of_asleep {c : Condition} (h : (seek u sh t).asleep = some c) :
    seek u sh t = { shared := sh, push := [.retake], asleep := some .notEmpty } ∧ c = .notEmpty := by
  unfold seek at h ⊢
  dsimp only at h ⊢
  repeat' split at h
  all_goals try cases h
  simp_all

/-- Who dozes changes nothing. -/
theorem effect_of_dozes (hd : Dozes i e) (he : perform u sh ended t held i = some e) :
    ∃ c, e = { shared := sh, push := [i], asleep := some c } := by
  obtain ⟨c, hi, hsleep⟩ := hd
  cases i with
  | retry bid =>
    simp only [perform] at he
    split at he
    · cases he; cases hsleep
    · cases he
      exact ⟨_, (look_of_asleep hsleep).1⟩
  | retake =>
    cases he
    exact ⟨_, (seek_of_asleep hsleep).1⟩
  | awaitResult d =>
    simp only [perform, Option.some.injEq] at he
    split at he
    · cases he; cases hsleep
    · split at he
      · cases he; cases hsleep
      · cases he; exact ⟨_, rfl⟩
  | _ => cases c <;> cases hi

end Doze

/-! ## Queues that differ in who sleeps -/

/-- Two states that differ at most in who sleeps. -/
structure Alike (s s' : State ι) : Prop where
  shared : s'.shared = s.shared
  threads : s'.threads.map Thread.awake = s.threads.map Thread.awake

/-- Thread `t` can perform an instruction, and do more than doze. -/
def CanGoOn (u : Setup ι) (s : State ι) (t : ThreadId) : Prop :=
  ∃ th i rest e, s.threads[t]? = some th ∧ th.asleep = none ∧ th.stack = i :: rest ∧
    perform u s.shared s.hasEnded t th.reply i = some e ∧ ¬ Dozes i e

namespace Alike

variable {u : Setup ι} {s s' s'' : State ι}

theorem refl (s : State ι) : Alike s s := ⟨rfl, rfl⟩

theorem symm (h : Alike s s') : Alike s' s := ⟨h.shared.symm, h.threads.symm⟩

theorem trans (h : Alike s s') (h' : Alike s' s'') : Alike s s'' :=
  ⟨h'.shared.trans h.shared, h'.threads.trans h.threads⟩

/-- A thread has the same to do, holds the same reply and has ended in the same way. -/
theorem thread (h : Alike s s') {t : ThreadId} {th' : Thread ι} (ht : s'.threads[t]? = some th') :
    ∃ th, s.threads[t]? = some th ∧ th.stack = th'.stack ∧ th.reply = th'.reply ∧ th.ending = th'.ending := by
  have hmap := congrArg (fun l => l[t]?) h.threads
  simp only [List.getElem?_map, ht, Option.map_some] at hmap
  obtain ⟨th, hth, hawake⟩ := Option.map_eq_some_iff.1 hmap.symm
  simp only [Thread.awake, Thread.mk.injEq] at hawake
  exact ⟨th, hth, hawake.1, hawake.2.2⟩

theorem length_eq (h : Alike s s') : s'.threads.length = s.threads.length := by
  have := congrArg List.length h.threads
  simpa using this

theorem getElem?_none (h : Alike s s') {t : ThreadId} (ht : s'.threads[t]? = none) : s.threads[t]? = none := by
  rw [List.getElem?_eq_none_iff] at ht ⊢
  rw [← h.length_eq]
  exact ht

theorem hasEnded_eq (h : Alike s s') : s'.hasEnded = s.hasEnded := by
  funext t
  unfold State.hasEnded
  cases ht : s'.threads[t]? with
  | none => rw [h.getElem?_none ht]
  | some th' =>
    obtain ⟨th, hth, hstack, -⟩ := h.thread ht
    simp only [hth, Thread.hasEnded, hstack]

theorem ending?_eq (h : Alike s s') (t : ThreadId) : s'.ending? t = s.ending? t := by
  unfold State.ending?
  cases ht : s'.threads[t]? with
  | none => rw [h.getElem?_none ht]
  | some th' =>
    obtain ⟨th, hth, hstack, -, hending⟩ := h.thread ht
    have hended : th'.hasEnded = th.hasEnded := by rw [Thread.hasEnded, Thread.hasEnded, hstack]
    simp only [hth, Option.bind_some, hended, hending]

theorem pause?_eq (h : Alike s s') (t : ThreadId) : s'.pause? t = s.pause? t := by
  unfold State.pause?
  cases ht : s'.threads[t]? with
  | none => rw [h.getElem?_none ht]
  | some th' =>
    obtain ⟨th, hth, hstack, -⟩ := h.thread ht
    simp only [hth, Option.bind_some, hstack]

end Alike

section Alike

variable {u : Setup ι} {s s' : State ι} {t : ThreadId}

/-- A thread that changes only in whether it sleeps. -/
theorem alike_set {th th' : Thread ι} (ht : s.threads[t]? = some th) (h : th'.awake = th.awake) :
    Alike s { s with threads := s.threads.set t th' } := by
  refine ⟨rfl, ?_⟩
  show (s.threads.set t th').map Thread.awake = _
  rw [List.map_set, h]
  exact set_of_getElem? (by rw [List.getElem?_map, ht]; rfl)

/-- A notification changes only who sleeps. -/
theorem wake_awake {ths ths' : List (Thread ι)} {sleeper : Option ThreadId} {k : Wake}
    (h : wake ths sleeper k = some ths') : ths'.map Thread.awake = ths.map Thread.awake := wake_map (fun _ => rfl) h

theorem alike_of_rouse (hs : step u s (.rouse t) = some s') : Alike s s' := by
  obtain ⟨th, ht, -, rfl⟩ := rouse_of_step hs
  exact alike_set ht rfl

/-- What a thread that dozes does to the queue. -/
theorem eq_of_dozes {th : Thread ι} {i : Instr ι} {rest : List (Instr ι)} {e : Effect ι} {sleeper : Option ThreadId}
    {ths : List (Thread ι)} (hst : th.stack = i :: rest) (hd : Dozes i e)
    (he : perform u s.shared s.hasEnded t th.reply i = some e)
    (hw : wake (s.threads.set t (th.after rest e)) sleeper e.wake = some ths) :
    ∃ c, (⟨e.shared, ths⟩ : State ι) = { s with threads := s.threads.set t { th with asleep := some c } } := by
  obtain ⟨c, rfl⟩ := effect_of_dozes hd he
  refine ⟨c, ?_⟩
  have hths : ths = s.threads.set t (th.after rest { shared := s.shared, push := [i], asleep := some c }) := by
    simp only [wake] at hw
    split at hw <;> cases hw
    rfl
  rw [hths]
  simp [Thread.after, hst]

/-- A step is one of a thread that does more than doze, or leaves the queue as it was but for who sleeps. -/
theorem alike_of_run {sleeper : Option ThreadId} (hs : step u s (.run t sleeper) = some s') (h : ¬ CanGoOn u s t) :
    Alike s s' := by
  obtain ⟨th, i, rest, e, ths, ht, hawake, hst, he, hw, rfl⟩ := run_of_step hs
  have hd : Dozes i e := by
    by_contra hno
    exact h ⟨th, i, rest, e, ht, hawake, hst, he, hno⟩
  obtain ⟨c, heq⟩ := eq_of_dozes hst hd he hw
  rw [heq]
  exact alike_set ht rfl

/-- A thread that can go on has a step. -/
theorem CanGoOn.step (h : CanGoOn u s t) : ∃ sleeper s', Queue.step u s (.run t sleeper) = some s' := by
  obtain ⟨th, i, rest, e, ht, hawake, hst, he, -⟩ := h
  exact step_of_perform ht hawake hst he

/-- A thread that can go on still can in a queue in which it is awake and that is alike. -/
theorem CanGoOn.alike (h : CanGoOn u s t) (ha : Alike s s')
    (hawake : ∀ th', s'.threads[t]? = some th' → th'.asleep = none) : CanGoOn u s' t := by
  obtain ⟨th, i, rest, e, ht, -, hst, he, hno⟩ := h
  obtain ⟨th', ht', hstack, hreply, -⟩ := ha.symm.thread ht
  refine ⟨th', i, rest, e, ht', hawake th' ht', hstack.trans hst, ?_, hno⟩
  rw [ha.shared, ha.hasEnded_eq, hreply]
  exact he

/-- Whoever dozes or wakes up on its own does not put another thread to sleep. -/
theorem CanGoOn.other {c : Choice ι} (h : CanGoOn u s t) (hs : Queue.step u s c = some s') (ha : Alike s s')
    (hc : ∀ sleeper, c ≠ .run t sleeper) : CanGoOn u s' t := by
  refine h.alike ha fun th' ht' => ?_
  obtain ⟨th, i, rest, e, ht, hawake, -⟩ := h
  cases c with
  | run t' sleeper =>
    obtain ⟨th₁, i₁, rest₁, e₁, ths, ht₁, -, -, -, hw, rfl⟩ := run_of_step hs
    have htt : t' ≠ t := fun heq => hc sleeper (heq ▸ rfl)
    have hset : (s.threads.set t' (th₁.after rest₁ e₁))[t]? = some th := by
      rw [List.getElem?_set_ne htt]
      exact ht
    have hstir := List.forall₂_iff_get.1 (wake_stirs hw)
    obtain ⟨hlt, hget⟩ := List.getElem?_eq_some_iff.1 ht'
    obtain ⟨hlt₀, hget₀⟩ := List.getElem?_eq_some_iff.1 hset
    have := (hstir.2 t hlt₀ hlt).asleep
    simp only [List.get_eq_getElem, hget, hget₀, hawake] at this
    rcases this with h | h <;> exact h
  | rouse t' =>
    obtain ⟨th₁, ht₁, -, rfl⟩ := rouse_of_step hs
    by_cases htt : t = t'
    · subst htt
      rw [List.getElem?_set_self (List.getElem?_eq_some_iff.1 ht₁).1] at ht'
      cases ht'
      rfl
    · rw [List.getElem?_set_ne (Ne.symm htt), ht] at ht'
      cases ht'
      exact hawake
  | answer t' script =>
    obtain ⟨th₁, role, label, rest₁, ht₁, hst₁, rfl⟩ := answer_of_step hs
    by_cases htt : t = t'
    · subst htt
      rw [List.getElem?_set_self (List.getElem?_eq_some_iff.1 ht₁).1] at ht'
      rw [ht] at ht₁
      cases ht₁
      cases ht'
      exact hawake
    · rw [List.getElem?_set_ne (Ne.symm htt), ht] at ht'
      cases ht'
      exact hawake
  | spawn script =>
    cases hs
    rw [State.spawn, List.getElem?_append_left (List.getElem?_eq_some_iff.1 ht).1, ht] at ht'
    cases ht'
    exact hawake
  | _ =>
    cases hs
    rw [ht] at ht'
    cases ht'
    exact hawake

end Alike

/-! ## Settling -/

section Settle

variable {u : Setup ι} {s : State ι}

/-- Either some thread can do more than doze, or once all that doze are asleep nobody can do anything. -/
theorem Reachable.settle (h : Reachable u s) :
    (∃ t, CanGoOn u s t) ∨ ∃ s', Reachable u s' ∧ Alike s s' ∧ Quiescent u s' := by
  -- by induction on how many threads are awake
  generalize hn : s.threads.countP (·.asleep.isNone) = n
  induction n using Nat.strongRecOn generalizing s with
  | _ n ih =>
  by_cases hq : Quiescent u s
  · exact .inr ⟨s, h, .refl s, hq⟩
  obtain ⟨t, sleeper, s₁, hs⟩ : ∃ t sleeper s₁, Queue.step u s (.run t sleeper) = some s₁ := by
    by_contra hno
    refine hq fun t sleeper => Option.eq_none_iff_forall_ne_some.2 fun s₁ hs => hno ⟨t, sleeper, s₁, hs⟩
  by_cases hgo : CanGoOn u s t
  · exact .inl ⟨t, hgo⟩
  have ha := alike_of_run hs hgo
  have hr := h.step hs
  obtain ⟨th, i, rest, e, ths, ht, hawake, hst, he, hw, rfl⟩ := run_of_step hs
  have hd : Dozes i e := by
    by_contra hno
    exact hgo ⟨th, i, rest, e, ht, hawake, hst, he, hno⟩
  obtain ⟨c, heq⟩ := eq_of_dozes hst hd he hw
  have hfewer : ths.countP (·.asleep.isNone) < n := by
    obtain ⟨hlt, hget⟩ := List.getElem?_eq_some_iff.1 ht
    rw [State.mk.injEq] at heq
    have hpos : 0 < s.threads.countP (·.asleep.isNone) :=
      List.countP_pos_iff.2 ⟨th, List.mem_of_getElem? ht, by simp [hawake]⟩
    rw [heq.2, List.countP_set hlt, hget, ← hn]
    simp only [hawake, Option.isNone_none, if_true, Option.isNone_some, Bool.false_eq_true, if_false]
    omega
  rcases ih _ hfewer hr rfl with ⟨t', hgo'⟩ | ⟨s', hr', ha', hq'⟩
  · refine .inl ⟨t', hgo'.alike ha.symm fun th' ht' => ?_⟩
    obtain ⟨th₁, -, -, -, ht₁, hawake₁, -⟩ := hgo'
    rw [heq] at ht₁
    by_cases htt : t' = t
    · subst htt
      rw [List.getElem?_set_self (List.getElem?_eq_some_iff.1 ht).1] at ht₁
      cases ht₁
      cases hawake₁
    · rw [List.getElem?_set_ne (Ne.symm htt), ht'] at ht₁
      cases ht₁
      exact hawake₁
  · exact .inr ⟨s', hr', ha.trans ha', hq'⟩

end Settle

/-! ## Stuck threads -/

/-- What a thread of a quiescent queue is stuck at. -/
inductive Stuck (s : State ι) (th : Thread ι) : Instr ι → Prop
  | sleep {c : Condition} {i : Instr ι} (hsleep : th.asleep = some c) (hi : i.rechecks c = true) : Stuck s th i
  | pause {role : Role ι} {label : String} : Stuck s th (.run role (.pause label))
  | join {w : ThreadId} (hw : s.hasEnded w = false) : Stuck s th (.join w)
  | watch : Stuck s th .awaitWatch

theorem Quiescent.stuck {u : Setup ι} {s : State ι} (hq : Quiescent u s) (hr : Reachable u s) {t : ThreadId}
    {th : Thread ι} (ht : s.threads[t]? = some th) : ∀ i ∈ th.stack.head?, Stuck s th i := by
  intro i hi
  rcases hq.cases ht with hnil | ⟨c, hsleep⟩ | ⟨i', rest, -, hst, hwhy⟩
  · rw [hnil] at hi
    cases hi
  · have hlook := hr.willLook th (List.mem_of_getElem? ht) c hsleep
    rw [Option.mem_def.1 hi, Option.any_some] at hlook
    exact .sleep hsleep hlook
  · rw [hst] at hi
    cases hi
    rcases hwhy with ⟨role, label, rfl⟩ | ⟨w, rfl, hw⟩ | ⟨rfl, -⟩
    · exact .pause
    · exact .join hw
    · exact .watch

/-! ## Effort -/

section Effort

variable (w k : Nat)

/-- What an instruction that is no client code has still to do and to leave to do, in a queue of `w` workers and with `k`
for the work on an item. -/
def Instr.toil : Instr ι → Nat
  | .run .. | .resume .. => 0
  | .upgrade call _ => call.length * (k + 5) + 2
  | .enter _ => k + 5
  | .retry _ => k + 4
  | .publish _ => 2
  | .take => 4
  | .retake => 3
  | .start _ => k - 20
  | .finish => 11
  | .resolve _ => 6
  | .completeAdding => 14
  | .dispose => w + 15
  | .takeHandles => w + 2
  | .stats => 6
  | _ => 1

/-- What a script has still to do if all its calls succeed. -/
def Script.effort : Script ι → Nat
  | .ret _ => 6
  | .call c next => load (Instr.toil w k) (c.instrs 0) + 3 + (next .unit).effort
  | .pause _ => 0

/-- What an instruction has still to do. -/
def Instr.effort : Instr ι → Nat
  | .run _ script => 1 + script.effort w k
  | .resume _ next => 2 + (next .unit).effort w k
  | i => i.toil w k

/-- What the threads and the items in the buffer have still to do. -/
def State.effort (s : State ι) : Nat :=
  total (Instr.effort w k) s.stacks + k * s.shared.buffer.value.items.length

variable {w k} {u : Setup ι} {sh : Shared ι} {ended : ThreadId → Bool} {t : ThreadId} {held : Reply ι} {i : Instr ι}
  {e : Effect ι}

end Effort

end Conveyor.Queue
