import Conveyor.Proofs.Queue.Outcome

/-!
# Whoever asks for the completion result gets the same

The completion is resolved in three steps: the result is set, those that sleep on it are woken, and the watch channel is
set. `Phase` says how far that has come; every step leads from one phase to the next or keeps it (`Phase.step`),
whoever else tries to resolve the completion, asks for the result or waits for it in between.

* `observers_agree`: from any state in which the completion is not resolved, with any attempts to resolve it under way,
  the first attempt sets the result, and all that is ever seen of it is that value.
-/

namespace Conveyor.Queue

variable {ι : Type}

/-! ## How far the resolution has come -/

/-- Nothing on a stack makes a result known. -/
def Discreet (st : List (Instr ι)) : Prop := ∀ j ∈ st, j.isHerald = false

theorem discreet_nil : Discreet ([] : List (Instr ι)) := fun _ hj => nomatch hj

theorem discreet_cons {i : Instr ι} {st : List (Instr ι)} : Discreet (i :: st) ↔ i.isHerald = false ∧ Discreet st :=
  List.forall_mem_cons

theorem discreet_append {p st : List (Instr ι)} : Discreet (p ++ st) ↔ Discreet p ∧ Discreet st :=
  List.forall_mem_append

/-- Nobody sleeps until there is a result. -/
def Unslept (s : State ι) : Prop := ∀ th ∈ s.threads, th.asleep ≠ some .resolved

/-- How far the resolution of the completion has come. -/
inductive Phase (s : State ι) : Prop
  | unresolved (hresult : s.shared.result = none) (hwatch : s.shared.watch = none)
      (hrest : ∀ t, Discreet (stackAt s.stacks t))
  /-- The result is set, and those that sleep are to be woken. -/
  | notifying {b : Bool} {t : ThreadId} {rest : List (Instr ι)} (hresult : s.shared.result = some b)
      (hwatch : s.shared.watch = none) (hst : stackAt s.stacks t = .notifyAll .resolved :: .setWatch b :: rest)
      (hself : Discreet rest) (hrest : ∀ t' ≠ t, Discreet (stackAt s.stacks t'))
  /-- The watch channel is to be set. -/
  | showing {b : Bool} {t : ThreadId} {rest : List (Instr ι)} (hresult : s.shared.result = some b)
      (hwatch : s.shared.watch = none) (hst : stackAt s.stacks t = .setWatch b :: rest) (hself : Discreet rest)
      (hrest : ∀ t' ≠ t, Discreet (stackAt s.stacks t')) (hawake : Unslept s)
  | resolved {b : Bool} (hresult : s.shared.result = some b) (hwatch : s.shared.watch = some b)
      (hrest : ∀ t, Discreet (stackAt s.stacks t)) (hawake : Unslept s)

/-- What no resolution is part of: the result and the watch channel stay as they are, and so does what is left to do to
make the result known. -/
structure Unmoved (s s' : State ι) : Prop where
  result : s'.shared.result = s.shared.result
  watch : s'.shared.watch = s.shared.watch
  discreet : ∀ t, Discreet (stackAt s.stacks t) → Discreet (stackAt s'.stacks t)
  herald : ∀ t i rest, stackAt s.stacks t = i :: rest → i.isHerald = true → stackAt s'.stacks t = i :: rest
  asleep : ¬ Unslept s' → s'.shared.result = none ∨ ¬ Unslept s

section Phase

variable {u : Setup ι} {s s' : State ι} {c : Choice ι}

theorem Phase.unmoved (h : Phase s) (hu : Unmoved s s') : Phase s' := by
  have hawake : ∀ {b}, s.shared.result = some b → Unslept s → Unslept s' := by
    intro b hb hno
    by_contra hsleep
    rcases hu.asleep hsleep with hnone | hold
    · rw [hu.result, hb] at hnone
      cases hnone
    · exact hold hno
  cases h with
  | unresolved hresult hwatch hrest =>
    exact .unresolved (hu.result.trans hresult) (hu.watch.trans hwatch) fun t => hu.discreet t (hrest t)
  | notifying hresult hwatch hst hself hrest =>
    exact .notifying (hu.result.trans hresult) (hu.watch.trans hwatch) (hu.herald _ _ _ hst rfl) hself
      fun t' ht' => hu.discreet t' (hrest t' ht')
  | showing hresult hwatch hst hself hrest hno =>
    exact .showing (hu.result.trans hresult) (hu.watch.trans hwatch) (hu.herald _ _ _ hst rfl) hself
      (fun t' ht' => hu.discreet t' (hrest t' ht')) (hawake hresult hno)
  | resolved hresult hwatch hrest hno =>
    exact .resolved (hu.result.trans hresult) (hu.watch.trans hwatch) (fun t => hu.discreet t (hrest t))
      (hawake hresult hno)

/-- Who sleeps until there is a result did so before the step, or there is none. -/
theorem asleep_of_step (hsound : Sound s.stacks) (hs : step u s c = some s') (hsleep : ¬ Unslept s') :
    s'.shared.result = none ∨ ¬ Unslept s := by
  have iff : ∀ {s : State ι}, ¬ Unslept s ↔ ∃ th ∈ s.threads, th.asleep = some .resolved := by simp [Unslept]
  rw [iff] at hsleep ⊢
  cases moves_of_step hsound hs with
  | act _ _ _ hact hwake =>
    exact (sleepers_before hact hwake hsleep).imp_left fun ⟨hno, _⟩ => by simpa [Condition.isUp] using hno
  | rouse ht => exact .inr ((eased_rouse ht).asleep hsleep)
  | answer ht hst => exact .inr ((eased_answer _ ht hst).asleep hsleep)
  | spawn script => exact .inr ((eased_spawn script).asleep hsleep)
  | outside => exact .inr hsleep

/-- What is no move of a thread is part of no resolution. -/
theorem unmoved_of_outside (hsound : Sound s.stacks) (hs : step u s c = some s')
    (hc : ∀ t, c.isOf t = false) : Unmoved s s' := by
  have hshared : s'.shared.result = s.shared.result ∧ s'.shared.watch = s.shared.watch := by
    cases c with
    | run t sleeper => exact absurd (hc t) (by simp [Choice.isOf])
    | rouse t => obtain ⟨th, -, -, rfl⟩ := rouse_of_step hs; exact ⟨rfl, rfl⟩
    | answer t script => obtain ⟨th, role, label, rest, -, -, rfl⟩ := answer_of_step hs; exact ⟨rfl, rfl⟩
    | _ => cases hs; exact ⟨rfl, rfl⟩
  refine ⟨hshared.1, hshared.2, fun t hd => ?_, fun t i rest hst hi => ?_, asleep_of_step hsound hs⟩
  · rcases stackAt_of_step hs t with ⟨_, _, _, _, _, _, rfl, -⟩ |
      ⟨-, ⟨role, label, rest, script, hst, hst'⟩ | ⟨script, -, -, hst'⟩ | hst'⟩
    · exact absurd (hc t) (by simp [Choice.isOf])
    · rw [hst] at hd
      rw [hst']
      exact discreet_cons.2 ⟨rfl, (discreet_cons.1 hd).2⟩
    · rw [hst']
      exact discreet_cons.2 ⟨rfl, discreet_nil⟩
    · rw [hst']
      exact hd
  · rcases stackAt_of_other hs (hc t) (by simp [hst]) with hst' | ⟨role, label, below, script, hrun, -⟩
    · exact hst'.trans hst
    · rw [hst] at hrun
      cases hrun
      cases hi

/-- Only the thread that has set the result makes it known, in two steps. -/
theorem Phase.head (h : Phase s) {t : ThreadId} {i : Instr ι} {rest : List (Instr ι)}
    (hst : stackAt s.stacks t = i :: rest) (hi : i.isHerald = true) :
    ∃ b, s.shared.result = some b ∧ s.shared.watch = none ∧ (∀ t' ≠ t, Discreet (stackAt s.stacks t')) ∧
      ((i = .notifyAll .resolved ∧ ∃ below, rest = .setWatch b :: below ∧ Discreet below) ∨
        i = .setWatch b ∧ Discreet rest ∧ Unslept s) := by
  have hno : ¬ Discreet (stackAt s.stacks t) := by
    rw [hst, discreet_cons, hi]
    simp
  cases h with
  | unresolved _ _ hrest => exact absurd (hrest t) hno
  | resolved _ _ hrest => exact absurd (hrest t) hno
  | @notifying b t₀ below hresult hwatch hst₀ hself hrest =>
    obtain rfl : t = t₀ := by
      by_contra htt
      exact hno (hrest t htt)
    obtain ⟨rfl, rfl⟩ := List.cons.inj (hst.symm.trans hst₀)
    exact ⟨b, hresult, hwatch, hrest, .inl ⟨rfl, below, rfl, hself⟩⟩
  | @showing b t₀ below hresult hwatch hst₀ hself hrest hawake =>
    obtain rfl : t = t₀ := by
      by_contra htt
      exact hno (hrest t htt)
    obtain ⟨rfl, rfl⟩ := List.cons.inj (hst.symm.trans hst₀)
    exact ⟨b, hresult, hwatch, hrest, .inr ⟨rfl, hself, hawake⟩⟩

/-- Where there is no result, nothing is left to do to make it known. -/
theorem Phase.discreet (h : Phase s) (hnone : s.shared.result = none) (t : ThreadId) :
    Discreet (stackAt s.stacks t) := by
  cases h with
  | unresolved _ _ hrest => exact hrest t
  | notifying hresult => cases hnone.symm.trans hresult
  | showing hresult => cases hnone.symm.trans hresult
  | resolved hresult => cases hnone.symm.trans hresult

/-- The watch channel shows nothing but the result. -/
theorem Phase.shown (h : Phase s) {b : Bool} (hb : s.shared.watch = some b) : s.shared.result = some b := by
  cases h with
  | unresolved _ hwatch => cases hwatch.symm.trans hb
  | notifying _ hwatch => cases hwatch.symm.trans hb
  | showing _ hwatch => cases hwatch.symm.trans hb
  | resolved hresult hwatch => exact hresult.trans (hwatch.symm.trans hb)

/-- Once nobody has to make the result known any more, everybody can see it. -/
theorem Phase.over (h : Phase s) {b : Bool} (hb : s.shared.result = some b)
    (hover : ∀ t b', .setWatch b' ∉ stackAt s.stacks t) : s.shared.watch = some b ∧ Unslept s := by
  cases h with
  | unresolved hresult => cases hresult.symm.trans hb
  | notifying _ _ hst => exact absurd (hst ▸ List.mem_cons_of_mem _ List.mem_cons_self) (hover _ _)
  | showing _ _ hst => exact absurd (hst ▸ List.mem_cons_self) (hover _ _)
  | resolved hresult hwatch _ hawake => exact ⟨hwatch.trans (hresult.symm.trans hb), hawake⟩

end Phase

section Steps

variable {u : Setup ι} {s s' : State ι} {c : Choice ι} {t : ThreadId} {i : Instr ι} {rest : List (Instr ι)}
  {e : Effect ι}

theorem stackAt_of_run {sleeper : Option ThreadId} (hs : step u s (.run t sleeper) = some s') {t' : ThreadId}
    (hne : t' ≠ t) : stackAt s'.stacks t' = stackAt s.stacks t' := by
  obtain ⟨th, i, rest, e, ths, ht, -, -, -, hw, rfl⟩ := run_of_step hs
  rw [stacks_of_wake hw, stackAt_set (getElem?_stacks ht), if_neg hne]

/-- A notification to all that there is a result wakes all that sleep until there is one. -/
theorem unslept_of_notifyAll {sleeper : Option ThreadId} (hs : step u s (.run t sleeper) = some s')
    (hst : stackAt s.stacks t = .notifyAll .resolved :: rest) : Unslept s' := by
  obtain ⟨th, i, below, e, ths, ht, -, hth, he, hw, rfl⟩ := run_of_step hs
  rw [stackAt_of_getElem? (getElem?_stacks ht), hth] at hst
  obtain ⟨rfl, rfl⟩ := List.cons.inj hst
  cases he
  exact wake_all hw

/-- A thread does something that is part of no resolution. -/
theorem unmoved_of_performs (hp : Performs u t i rest e ⟨s, s'⟩) (hi : i.isHerald = false)
    (hother : ∀ t' ≠ t, stackAt s'.stacks t' = stackAt s.stacks t') (hpush : Discreet e.push)
    (hresult : s'.shared.result = s.shared.result) (hasleep : ¬ Unslept s' → s'.shared.result = none ∨ ¬ Unslept s) :
    Unmoved s s' := by
  obtain ⟨held, he, -⟩ := hp.reply
  have hbefore : stackAt s.stacks t = i :: rest := hp.before
  have hafter : stackAt s'.stacks t = e.push ++ rest := hp.after
  have hshared : s'.shared = e.shared := hp.shared
  constructor
  case result => exact hresult
  case watch =>
    rcases watch_of_perform he with heq | ⟨b, rfl, -⟩
    · rw [hshared, heq]
    · cases hi
  case discreet =>
    intro t' hd
    by_cases htt : t' = t
    · rw [htt, hbefore, discreet_cons] at hd
      rw [htt, hafter, discreet_append]
      exact ⟨hpush, hd.2⟩
    · rw [hother t' htt]
      exact hd
  case herald =>
    intro t' j below hst hj
    by_cases htt : t' = t
    · rw [htt, hbefore] at hst
      rw [(List.cons.inj hst).1, hj] at hi
      cases hi
    · rw [hother t' htt, hst]
  case asleep => exact hasleep

/-- The thread that has set the result makes it known. -/
theorem Phase.tell (h : Phase s) {sleeper : Option ThreadId} (hs : Queue.step u s (.run t sleeper) = some s')
    (hp : Performs u t i rest e ⟨s, s'⟩) (hi : i.isHerald = true)
    (hasleep : ¬ Unslept s' → s'.shared.result = none ∨ ¬ Unslept s) : Phase s' := by
  obtain ⟨held, he, -⟩ := hp.reply
  have hafter : stackAt s'.stacks t = e.push ++ rest := hp.after
  have hshared : s'.shared = e.shared := hp.shared
  obtain ⟨b, hresult, hwatch, hrest, hcase⟩ := h.head hp.before hi
  have hrest' : ∀ t' ≠ t, Discreet (stackAt s'.stacks t') := fun t' ht' => stackAt_of_run hs ht' ▸ hrest t' ht'
  rcases hcase with ⟨rfl, below, rfl, hself⟩ | ⟨rfl, hself, hawake⟩
  · have hawake := unslept_of_notifyAll hs hp.before
    cases he
    exact .showing (by rw [hshared]; exact hresult) (by rw [hshared]; exact hwatch) hafter hself hrest' hawake
  · cases he
    have hresult' : s'.shared.result = some b := by rw [hshared]; exact hresult
    refine .resolved hresult' (by rw [hshared]) (fun t' => ?_) ?_
    · by_cases htt : t' = t
      · rw [htt, hafter]
        exact hself
      · exact hrest' t' htt
    · by_contra hsleep
      rcases hasleep hsleep with hnone | hold
      · cases hnone.symm.trans hresult'
      · exact hold hawake

/-- Every step keeps the phase or leads to the next one. -/
theorem Phase.step (h : Phase s) (hsound : Sound s.stacks) (hs : Queue.step u s c = some s') : Phase s' := by
  by_cases hc : ∀ t, c.isOf t = false
  · exact h.unmoved (unmoved_of_outside hsound hs hc)
  obtain ⟨t, sleeper, rfl⟩ : ∃ t sleeper, c = .run t sleeper := by
    cases c with
    | run t sleeper => exact ⟨t, sleeper, rfl⟩
    | _ => exact absurd (fun _ => rfl) hc
  obtain ⟨i, rest, e, hp⟩ := performs_of_step hs
  have hbefore : stackAt s.stacks t = i :: rest := hp.before
  have hafter : stackAt s'.stacks t = e.push ++ rest := hp.after
  have hshared : s'.shared = e.shared := hp.shared
  have hother : ∀ t' ≠ t, stackAt s'.stacks t' = stackAt s.stacks t' := fun t' ht' => stackAt_of_run hs ht'
  obtain ⟨held, he, -⟩ := hp.reply
  obtain ⟨st, hmem, hi⟩ := mem_of_stackAt (hbefore ▸ List.mem_cons_self : i ∈ stackAt s.stacks t)
  have hi := hsound st hmem i hi
  have hasleep := asleep_of_step hsound hs
  by_cases hherald : i.isHerald = true
  · exact h.tell hs hp hherald hasleep
  have hherald := Bool.eq_false_iff.2 hherald
  rcases herald_of_perform hi he with ⟨hsame, hpush⟩ | ⟨b, news, rfl, hnone, hset, hpush, hnews⟩
  · exact h.unmoved (unmoved_of_performs hp hherald hother hpush (hshared ▸ hsame) hasleep)
  · have hnone : s.shared.result = none := hnone
    have hwatch : s'.shared.watch = none := by
      rcases watch_of_perform he with heq | ⟨b', hi', -⟩
      · rw [hshared, heq]
        refine Option.eq_none_iff_forall_ne_some.2 fun b' hb' => ?_
        cases hnone.symm.trans (h.shown hb')
      · cases hi'
    have hself : Discreet (news ++ rest) := by
      rw [discreet_append]
      exact ⟨hnews, (discreet_cons.1 (hbefore ▸ h.discreet hnone t)).2⟩
    refine .notifying (by rw [hshared, hset]) hwatch (by rw [hafter, hpush]; rfl) hself fun t' ht' => ?_
    rw [hother t' ht']
    exact h.discreet hnone t'

end Steps

/-! ## Runs -/

/-- The value that a deed resolves the completion to, which is for the first one to do that tries. -/
def Deed.resolution? (d : Deed ι) : Option Bool :=
  match d.instr with
  | .resolve b => if d.found.result.isNone then some b else none
  | _ => none

/-- The value that a deed sets the watch channel to. -/
def Deed.display? (d : Deed ι) : Option Bool :=
  match d.instr with
  | .setWatch b => some b
  | _ => none

/-- What every step keeps, from a completion that is not resolved on. -/
structure Orderly (s : State ι) : Prop where
  sound : Sound s.stacks
  phase : Phase s
  look : WillLook s

section Runs

variable {u : Setup ι} {s s' : State ι} {c : Choice ι} {cs : List (Choice ι)}

theorem Orderly.step (h : Orderly s) (hs : Queue.step u s c = some s') : Orderly s' :=
  have hmove := moves_of_step h.sound hs
  ⟨hmove.shift.sound h.sound, h.phase.step h.sound hs, hmove.willLook h.look⟩

theorem Orderly.execute (h : Orderly s) (he : Queue.execute u s cs = some s') : Orderly s' := by
  induction cs generalizing s with
  | nil => exact Option.some.inj he ▸ h
  | cons c cs ih =>
    rw [execute_cons, Option.bind_eq_some_iff] at he
    obtain ⟨s₁, hs, he⟩ := he
    exact ih (h.step hs) he

theorem Reachable.orderly (h : Reachable u s) : Orderly s := by
  induction h with
  | start =>
    refine ⟨Reachable.start.sound, .unresolved rfl rfl fun t => ?_, Reachable.start.willLook⟩
    rw [stackAt_start]
    split
    · exact discreet_cons.2 ⟨rfl, discreet_cons.2 ⟨rfl, discreet_nil⟩⟩
    · exact discreet_nil
  | step _ hs ih => exact ih.step hs

/-- A choice that is no deed changes neither the result nor the watch channel. -/
theorem shown_of_outside (hs : step u s c = some s') (hc : s.deed? c = none) :
    s'.shared.result = s.shared.result ∧ s'.shared.watch = s.shared.watch := by
  cases c with
  | run t sleeper =>
    obtain ⟨i, rest, e, hp⟩ := performs_of_step hs
    have hst : stackAt s.stacks t = i :: rest := hp.before
    simp [State.deed?, hst] at hc
  | rouse t =>
    obtain ⟨th, -, -, rfl⟩ := rouse_of_step hs
    exact ⟨rfl, rfl⟩
  | answer t script =>
    obtain ⟨th, role, label, rest, -, -, rfl⟩ := answer_of_step hs
    exact ⟨rfl, rfl⟩
  | _ => cases hs; exact ⟨rfl, rfl⟩

/-- A deed sets the result or the watch channel if it says so, and then it finds it not set. -/
theorem Orderly.shown_of_deed (h : Orderly s) (hs : Queue.step u s c = some s') {d : Deed ι} (hc : s.deed? c = some d) :
    s'.shared.result.toList = s.shared.result.toList ++ d.resolution?.toList ∧
      s'.shared.watch.toList = s.shared.watch.toList ++ d.display?.toList := by
  obtain ⟨t, sleeper, rfl⟩ : ∃ t sleeper, c = .run t sleeper := by
    cases c with
    | run t sleeper => exact ⟨t, sleeper, rfl⟩
    | _ => cases hc
  obtain ⟨i, rest, e, hp⟩ := performs_of_step hs
  have hst : stackAt s.stacks t = i :: rest := hp.before
  have hshared : s'.shared = e.shared := hp.shared
  obtain ⟨held, he, -⟩ := hp.reply
  obtain rfl : d = ⟨t, s.shared, i⟩ := by simpa [State.deed?, hst, eq_comm] using hc
  obtain ⟨st, hmem, hi⟩ := mem_of_stackAt (hst ▸ List.mem_cons_self : i ∈ stackAt s.stacks t)
  have hact : Act u s.shared t i e := act_of_perform (h.sound st hmem i hi) he
  rw [hshared]
  constructor
  · rcases hact.result_cases with ⟨hsame, hlate⟩ | ⟨b, rfl, hnone, hset⟩
    · have hno : Deed.resolution? ⟨t, s.shared, i⟩ = none := by
        cases i with
        | resolve b =>
          have hsome := Option.ne_none_iff_isSome.2 (hlate b rfl)
          simpa [Deed.resolution?] using hsome
        | _ => rfl
      rw [hsame, hno, Option.toList_none, List.append_nil]
    · simp [Deed.resolution?, hnone, hset]
  · rcases watch_of_perform he with hsame | ⟨b, rfl, hset⟩
    · by_cases hi : i.isHerald = true
      · obtain ⟨b, -, hnone, -, ⟨rfl, -⟩ | ⟨rfl, -⟩⟩ := h.phase.head hst hi
        · rw [hsame]
          simp [Deed.display?]
        · cases he
          simp [Deed.display?, hnone]
      · have hno : Deed.display? ⟨t, s.shared, i⟩ = none := by
          cases i with
          | setWatch b => exact absurd rfl hi
          | _ => rfl
        rw [hsame, hno, Option.toList_none, List.append_nil]
    · obtain ⟨-, -, hnone, -⟩ := h.phase.head hst rfl
      have hnone : s.shared.watch = none := hnone
      simp [Deed.display?, hset, hnone]

/-- In a run, the deeds that say so have set the result and the watch channel, each once at most. -/
theorem Orderly.shown (h : Orderly s) (he : Queue.execute u s cs = some s') :
    s'.shared.result.toList = s.shared.result.toList ++ (deeds u s cs).filterMap Deed.resolution? ∧
      s'.shared.watch.toList = s.shared.watch.toList ++ (deeds u s cs).filterMap Deed.display? := by
  induction cs using List.reverseRecOn generalizing s' with
  | nil =>
    cases he
    simp [deeds]
  | append_singleton cs c ih =>
    obtain ⟨s₁, he₁, hs⟩ := execute_concat.1 he
    obtain ⟨hresult, hwatch⟩ := ih he₁
    rw [deeds_concat he₁ hs, List.filterMap_append, List.filterMap_append, ← List.append_assoc, ← List.append_assoc,
      ← hresult, ← hwatch]
    cases hc : s₁.deed? c with
    | none =>
      obtain ⟨hsame, hsame'⟩ := shown_of_outside hs hc
      simp [hsame, hsame']
    | some d =>
      obtain ⟨hset, hset'⟩ := (h.execute he₁).shown_of_deed hs hc
      rw [hset, hset', Option.toList_some, filterMap_cons_toList, filterMap_cons_toList]
      simp

end Runs

/-! ## Observers -/

/-- Whether a call asks for the completion result, or waits for it. -/
def Call.isObservation : Call ι → Bool
  | .result | .waitBlocking | .waitTimeout _ | .waitAsync => true
  | _ => false

/-- Thread `t` is done with what it has performed in a step, and holds a reply. -/
structure Stride.Yields (t : ThreadId) (r : Reply ι) (m : Stride ι) : Prop where
  reply : m.after.reply? t = some r
  back : ∃ i, stackAt m.before.stacks t = i :: stackAt m.after.stacks t

/-- What a step may come to that thread `t` takes on behalf of a call, made at time `now`, that asks for the completion
result or waits for it, where that comes to be `result`. -/
inductive Sees (t : ThreadId) (c : Call ι) (now : Nat) (result : Option Bool) (m : Stride ι) : Prop
  /-- The call comes back with the result. -/
  | value {b : Bool} (hresult : result = some b) (hy : m.Yields t (.completion (some b)))
  /-- It comes back without one: there is none at this moment, and the call does not wait or its time is over. -/
  | nothing (hnone : m.before.shared.result = none) (hy : m.Yields t (.completion none))
      (hcall : c = .result ∨ ∃ n, c = .waitTimeout (.ms n) ∧ now + n ≤ m.before.shared.now)
  /-- It goes on waiting: there is no result at this moment. -/
  | waits (hnone : m.before.shared.result = none) (hst : stackAt m.after.stacks t = stackAt m.before.stacks t)
      (hcall : c = .waitBlocking ∨ ∃ p, c = .waitTimeout p)

section Observers

variable {u : Setup ι} {s s' : State ι} {c : Call ι} {cs : List (Choice ι)} {sh : Shared ι} {t : ThreadId} {i : Instr ι}
  {ended : ThreadId → Bool} {held : Reply ι} {e : Effect ι} {now : Nat} {b : Bool}

/-- What asks for the result looks for it in one place, and comes back with what it finds there. -/
theorem observe_of_perform (hc : c.isObservation = true) (hi : c.instrs now = [i])
    (he : perform u sh ended t held i = some e) :
    (∃ b, (sh.result = some b ∨ sh.watch = some b) ∧ e.push = [] ∧ e.reply = some (.completion (some b))) ∨
    (sh.result = none ∧ e.push = [] ∧ e.reply = some (.completion none) ∧
      (c = .result ∨ ∃ n, c = .waitTimeout (.ms n) ∧ now + n ≤ sh.now)) ∨
    (sh.result = none ∧ e.push = [i] ∧ (c = .waitBlocking ∨ ∃ p, c = .waitTimeout p)) := by
  have waits : ∀ d, perform u sh ended t held (.awaitResult d) = some e →
      (∃ b, sh.result = some b ∧ e.push = [] ∧ e.reply = some (.completion (some b))) ∨
      (sh.result = none ∧ e.push = [] ∧ e.reply = some (.completion none) ∧ d.any (· ≤ sh.now) = true) ∨
      (sh.result = none ∧ e.push = [.awaitResult d]) := by
    intro d he
    cases hr : sh.result with
    | some b =>
      simp only [perform, hr, Option.some.injEq] at he
      cases he
      exact .inl ⟨b, rfl, rfl, rfl⟩
    | none =>
      simp only [perform, hr, Option.some.injEq] at he
      split at he
      · rename_i hover
        cases he
        exact .inr (.inl ⟨rfl, rfl, rfl, hover⟩)
      · cases he
        exact .inr (.inr ⟨rfl, rfl⟩)
  cases c with
  | result =>
    cases hi
    cases he
    cases hr : sh.result with
    | none => exact .inr (.inl ⟨rfl, rfl, rfl, .inl rfl⟩)
    | some b => exact .inl ⟨b, .inl rfl, rfl, rfl⟩
  | waitBlocking =>
    cases hi
    rcases waits none he with ⟨b, hr, hback⟩ | ⟨-, -, -, hover⟩ | ⟨hnone, hpush⟩
    · exact .inl ⟨b, .inl hr, hback⟩
    · cases hover
    · exact .inr (.inr ⟨hnone, hpush, .inl rfl⟩)
  | waitTimeout p =>
    cases p with
    | ms n =>
      cases hi
      rcases waits (some (now + n)) he with ⟨b, hr, hback⟩ | ⟨hnone, hpush, hreply, hover⟩ | ⟨hnone, hpush⟩
      · exact .inl ⟨b, .inl hr, hback⟩
      · exact .inr (.inl ⟨hnone, hpush, hreply, .inr ⟨n, rfl, by simpa using hover⟩⟩)
      · exact .inr (.inr ⟨hnone, hpush, .inr ⟨_, rfl⟩⟩)
    | forever =>
      cases hi
      rcases waits none he with ⟨b, hr, hback⟩ | ⟨-, -, -, hover⟩ | ⟨hnone, hpush⟩
      · exact .inl ⟨b, .inl hr, hback⟩
      · cases hover
      · exact .inr (.inr ⟨hnone, hpush, .inr ⟨_, rfl⟩⟩)
  | waitAsync =>
    cases hi
    simp only [perform] at he
    split at he
    · rename_i b hw
      cases he
      exact .inl ⟨b, .inr hw, rfl, rfl⟩
    · cases he
  | _ => cases hc

/-- Whoever asks for a result that everybody can see gets it at once. -/
theorem perform_observe (hc : c.isObservation = true) (hi : c.instrs now = [i]) (hresult : sh.result = some b)
    (hwatch : sh.watch = some b) :
    perform u sh ended t held i = some { shared := sh, reply := some (.completion (some b)) } := by
  cases c with
  | result => cases hi; simp [perform, hresult]
  | waitBlocking => cases hi; simp [perform, hresult]
  | waitTimeout p => cases p <;> cases hi <;> simp [perform, hresult]
  | waitAsync => cases hi; simp [perform, hwatch]
  | _ => cases hc

/-- Whoever waits for a result sleeps on nothing else. -/
theorem Orderly.awake (h : Orderly s) (hc : c.isObservation = true) (hi : c.instrs now = [i]) {th : Thread ι}
    {rest : List (Instr ι)} (ht : s.threads[t]? = some th) (hst : th.stack = i :: rest) (hno : Unslept s) :
    th.asleep = none := by
  by_contra hsleep
  obtain ⟨cond, hcond⟩ := Option.ne_none_iff_exists'.1 hsleep
  have hmem := List.mem_of_getElem? ht
  have hlook := h.look th hmem cond hcond
  rw [hst, List.head?_cons, Option.any_some] at hlook
  have hcond' : cond = .resolved := by
    cases c with
    | result => cases hi; cases cond <;> simp [Instr.rechecks] at hlook
    | waitBlocking => cases hi; cases cond <;> simp_all [Instr.rechecks]
    | waitTimeout p => cases p <;> cases hi <;> cases cond <;> simp_all [Instr.rechecks]
    | waitAsync => cases hi; cases cond <;> simp [Instr.rechecks] at hlook
    | _ => cases hc
  exact hno th hmem (hcond' ▸ hcond)

theorem Orderly.result_of_execute (h : Orderly s) (he : Queue.execute u s cs = some s')
    (hb : s.shared.result = some b) : s'.shared.result = some b := by
  have hshown := (h.shown he).1
  rw [hb, Option.toList_some, List.singleton_append] at hshown
  cases hr : s'.shared.result with
  | none =>
    rw [hr] at hshown
    cases hshown
  | some b' =>
    rw [hr] at hshown
    rw [(List.cons.inj hshown).1]

/-- What a step on behalf of a call sees that asks for the result. -/
theorem Orderly.sees (h : Orderly s) {choice : Choice ι} (hs : Queue.step u s choice = some s')
    (hof : choice.isOf t = true) (hc : c.isObservation = true) (hi : c.instrs now = ((⟨s, s'⟩ : Stride ι).instr? t).toList) :
    Sees t c now s.shared.result ⟨s, s'⟩ := by
  obtain ⟨i, rest, e, hp⟩ := performs_of_turn hs hof
  rw [hp.instr?, Option.toList_some] at hi
  obtain ⟨held, he, -, hreply⟩ := hp.reply
  have hback : e.push = [] → ∃ j, stackAt s.stacks t = j :: stackAt s'.stacks t := fun hpush =>
    ⟨i, by rw [hp.after, hpush]; exact hp.before⟩
  rcases observe_of_perform hc hi he with ⟨b, hr, hpush, hb⟩ | ⟨hnone, hpush, hb, hcall⟩ | ⟨hnone, hpush, hcall⟩
  · refine .value (b := b) ?_ ⟨by rw [hreply, hb]; rfl, hback hpush⟩
    rcases hr with hr | hw
    · exact hr
    · exact h.phase.shown hw
  · exact .nothing hnone ⟨by rw [hreply, hb]; rfl, hback hpush⟩ hcall
  · refine .waits hnone ?_ hcall
    rw [hp.after, hpush]
    exact hp.before.symm

/-- Whatever is seen in a run of a call that asks for the result. -/
theorem Orderly.observed (h : Orderly s) (he : Queue.execute u s cs = some s') {m : Stride ι}
    (hm : m ∈ strides u t s cs) (hc : c.isObservation = true) (hi : c.instrs now = (m.instr? t).toList) :
    Sees t c now s'.shared.result m := by
  induction cs using List.reverseRecOn generalizing s' with
  | nil => cases hm
  | append_singleton cs choice ih =>
    obtain ⟨s₁, he₁, hs⟩ := execute_concat.1 he
    have h₁ := h.execute he₁
    have hone : Queue.execute u s₁ [choice] = some s' := by rw [execute_cons, hs]; rfl
    have hstable : ∀ {m : Stride ι}, Sees t c now s₁.shared.result m → Sees t c now s'.shared.result m := by
      intro m hsees
      cases hsees with
      | @value b hr hy =>
        refine .value (b := b) ?_ hy
        exact h₁.result_of_execute hone hr
      | nothing hnone hy hcall => exact .nothing hnone hy hcall
      | waits hnone hst hcall => exact .waits hnone hst hcall
    rw [strides_concat he₁ hs] at hm
    rcases List.mem_append.1 hm with hm | hm
    · exact hstable (ih he₁ hm)
    · split at hm
      · rename_i hof
        obtain rfl := List.mem_singleton.1 hm
        exact hstable (h₁.sees hs hof hc hi)
      · cases hm

end Observers

/-- A completion that is not resolved, with any attempts to resolve it, and anything else, still to be done. -/
structure Unresolved (s : State ι) : Prop where
  result : s.shared.result = none
  watch : s.shared.watch = none
  discreet : ∀ st ∈ s.stacks, Discreet st
  sound : Sound s.stacks
  look : WillLook s

/-- What holds after a run from a completion that is not resolved. -/
structure Agreement (u : Setup ι) (s : State ι) (cs : List (Choice ι)) (s' : State ι) : Prop where
  /-- Of all attempts to resolve the completion one finds no result, and sets it. -/
  once : (deeds u s cs).filterMap Deed.resolution? = s'.shared.result.toList
  resolved {d : Deed ι} {b : Bool} : d ∈ deeds u s cs → d.instr = .resolve b → s'.shared.result.isSome = true
  /-- The watch channel is set once at most. -/
  shownOnce : (deeds u s cs).filterMap Deed.display? = s'.shared.watch.toList
  shown {b : Bool} : s'.shared.watch = some b → s'.shared.result = some b
  /-- Whatever call asks for the result sees this result, or none before it was set. -/
  observed {t : ThreadId} {m : Stride ι} {c : Call ι} {now : Nat} : m ∈ strides u t s cs → c.isObservation = true →
    c.instrs now = (m.instr? t).toList → Sees t c now s'.shared.result m
  /-- Once whoever has set the result is done, nobody sleeps until there is one. -/
  awake {b : Bool} : s'.shared.result = some b → (∀ st ∈ s'.stacks, ∀ b', .setWatch b' ∉ st) → Unslept s'
  /-- And whoever waits for it gets it at once. -/
  answered {b : Bool} {t : ThreadId} {th : Thread ι} {c : Call ι} {now : Nat} {rest : List (Instr ι)} :
    s'.shared.result = some b → (∀ st ∈ s'.stacks, ∀ b', .setWatch b' ∉ st) → s'.threads[t]? = some th →
      c.isObservation = true → th.stack = c.instrs now ++ rest →
      ∃ s'', step u s' (.run t none) = some s'' ∧ s''.reply? t = some (.completion (some b)) ∧
        stackAt s''.stacks t = rest

section Agreement

variable {u : Setup ι} {s s' : State ι} {cs : List (Choice ι)}

theorem Unresolved.orderly (h : Unresolved s) : Orderly s := by
  refine ⟨h.sound, .unresolved h.result h.watch fun t j hj => ?_, h.look⟩
  obtain ⟨st, hst, hj⟩ := mem_of_stackAt hj
  exact h.discreet st hst j hj

/-- The completion of a queue is not resolved as long as there is no result. -/
theorem Reachable.unresolved (h : Reachable u s) (hnone : s.shared.result = none) : Unresolved s := by
  have hphase := h.orderly.phase
  refine ⟨hnone, ?_, fun st hst => ?_, h.sound, h.willLook⟩
  · refine Option.eq_none_iff_forall_ne_some.2 fun b hb => ?_
    cases hnone.symm.trans (hphase.shown hb)
  · obtain ⟨t, ht⟩ := List.mem_iff_getElem?.1 hst
    exact stackAt_of_getElem? ht ▸ hphase.discreet hnone t

theorem Call.instrs_of_isObservation {c : Call ι} (hc : c.isObservation = true) (now : Nat) :
    ∃ i, c.instrs now = [i] := by
  cases c with
  | result => exact ⟨_, rfl⟩
  | waitBlocking => exact ⟨_, rfl⟩
  | waitTimeout p => cases p <;> exact ⟨_, rfl⟩
  | waitAsync => exact ⟨_, rfl⟩
  | _ => cases hc

/-- An attempt to resolve the completion leaves it resolved, whatever it finds. -/
theorem Orderly.isSome_of_resolve (h : Orderly s) (he : Queue.execute u s cs = some s') {d : Deed ι} {b : Bool}
    (hd : d ∈ deeds u s cs) (hi : d.instr = .resolve b) : s'.shared.result.isSome = true := by
  induction cs using List.reverseRecOn generalizing s' with
  | nil => cases hd
  | append_singleton cs choice ih =>
    obtain ⟨s₁, he₁, hs⟩ := execute_concat.1 he
    have h₁ := h.execute he₁
    have hone : Queue.execute u s₁ [choice] = some s' := by rw [execute_cons, hs]; rfl
    have hstable : s₁.shared.result.isSome = true → s'.shared.result.isSome = true := fun hsome => by
      obtain ⟨b', hb'⟩ := Option.isSome_iff_exists.1 hsome
      rw [h₁.result_of_execute hone hb']
      rfl
    rw [deeds_concat he₁ hs] at hd
    rcases List.mem_append.1 hd with hd | hd
    · exact hstable (ih he₁ hd)
    · have hdeed : s₁.deed? choice = some d := by simpa using hd
      have hfound : d.found = s₁.shared := by
        cases choice with
        | run t sleeper =>
          obtain ⟨i, -, rfl⟩ := Option.map_eq_some_iff.1 hdeed
          rfl
        | _ => cases hdeed
      cases hr : s₁.shared.result with
      | some b' => exact hstable (by rw [hr]; rfl)
      | none =>
        have hset := (h₁.shown_of_deed hs hdeed).1
        simp only [Deed.resolution?, hi, hfound, hr, Option.isNone_none, if_true, Option.toList_none,
          Option.toList_some, List.nil_append] at hset
        cases hr' : s'.shared.result with
        | none => rw [hr'] at hset; cases hset
        | some b' => rfl

/-- All observers of a completion agree, from any state on in which it is not resolved: however many attempts to resolve
it are made, to whatever values and in whatever order their steps come, one succeeds; its value is the only one that the
watch channel ever shows and that any call ever comes back with; a call comes back without a value only if there is none
at that moment and it does not wait or its time is over; and nobody waits any more once the attempt is done that
has succeeded. -/
theorem observers_agree (h : Unresolved s) (he : execute u s cs = some s') : Agreement u s cs s' := by
  have horderly := h.orderly
  have h' := horderly.execute he
  obtain ⟨hresult, hwatch⟩ := horderly.shown he
  rw [h.result, Option.toList_none, List.nil_append] at hresult
  rw [h.watch, Option.toList_none, List.nil_append] at hwatch
  have hover : (∀ st ∈ s'.stacks, ∀ b', .setWatch b' ∉ st) → ∀ t b', .setWatch b' ∉ stackAt s'.stacks t := by
    intro hno t b' hmem
    obtain ⟨st, hst, hin⟩ := mem_of_stackAt hmem
    exact hno st hst b' hin
  constructor
  case once => exact hresult.symm
  case resolved => exact horderly.isSome_of_resolve he
  case shownOnce => exact hwatch.symm
  case shown => exact h'.phase.shown
  case observed => exact horderly.observed he
  case awake => exact fun hb hno => (h'.phase.over hb (hover hno)).2
  case answered =>
    intro b t th c now rest hb hno ht hc hst
    obtain ⟨hshow, hawake⟩ := h'.phase.over hb (hover hno)
    obtain ⟨i, hi⟩ := Call.instrs_of_isObservation hc now
    rw [hi, List.singleton_append] at hst
    refine ⟨_, step_run ht (h'.awake hc hi ht hst hawake) hst (perform_observe hc hi hb hshow) rfl, reply?_set ht, ?_⟩
    rw [stackAt, State.stacks, List.getElem?_map, List.getElem?_set_self (List.getElem?_eq_some_iff.1 ht).1]
    rfl

/-- Two attempts to resolve a completion, to different values, and four calls that wait for it or ask for it. -/
def sampleRivals : State Nat where
  shared := {}
  threads := [{ stack := [.resolve true] }, { stack := [.resolve false] }, { stack := [.awaitResult none] },
    { stack := [.awaitResult (some 5)] }, { stack := [.awaitWatch] }, { stack := [.result] }]

/-- Two calls fall asleep before an attempt succeeds; the other two are back before the watch channel is set, and
after. -/
def sampleRivalry : List (Choice Nat) :=
  runs 2 1 ++ runs 3 1 ++ runs 1 1 ++ runs 5 1 ++ runs 0 1 ++ runs 1 1 ++ runs 3 1 ++ runs 1 1 ++ runs 4 1

theorem unresolved_sampleRivals : Unresolved sampleRivals := by
  refine ⟨rfl, rfl, ?_, ?_, ?_⟩
  · simp [sampleRivals, State.stacks, Discreet, Instr.isHerald]
  · simp [sampleRivals, State.stacks, Sound, Instr.isSound]
  · simp [sampleRivals, WillLook]

theorem sample_observers_agree :
    ∃ s, execute sample sampleRivals sampleRivalry = some s ∧ s.shared.result = some false ∧
      s.reply? 3 = some (.completion (some false)) ∧ s.reply? 4 = some (.completion (some false)) ∧
      s.reply? 5 = some (.completion (some false)) ∧ Unresolved sampleRivals ∧
      Agreement sample sampleRivals sampleRivalry s := by
  exact ⟨_, rfl, rfl, rfl, rfl, rfl, unresolved_sampleRivals, observers_agree unresolved_sampleRivals rfl⟩

end Agreement

end Conveyor.Queue
