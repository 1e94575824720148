import Conveyor.Proofs.Queue.Act
import Mathlib.Algebra.Order.Group.Nat

/-!
# Steps, thread by thread

A step is a move of one thread, or comes from outside (`Moves`, `moves_of_step`). Notifications change no stack, so
what a step does to the shared state and to the stacks can be said without the conditions that threads sleep on
(`Shift`, `Moves.shift`).

* `Reachable.moves_induction`, `Reachable.shift_induction`: what every move, or every shift, keeps holds in every
  reachable state.
* `Reachable.stack_induction`: the same for what is said of each thread by itself.
* `load`, `total`: how much of something the threads have still to do.
-/

namespace Conveyor.Queue

variable {ι : Type}

/-! ## Stacks -/

/-- What the threads have still to do. -/
def State.stacks (s : State ι) : List (List (Instr ι)) := s.threads.map (·.stack)

/-- What thread `t` has still to do; nothing if there is no such thread. -/
def stackAt (ss : List (List (Instr ι))) (t : ThreadId) : List (Instr ι) := ss[t]?.getD []

/-- Every strong reference is taken for a bid or for nothing. -/
def Sound (ss : List (List (Instr ι))) : Prop := ∀ st ∈ ss, ∀ i ∈ st, i.isSound = true

/-- What comes next of a sound stack is sound. -/
theorem Sound.head {ss : List (List (Instr ι))} {t : ThreadId} {i : Instr ι} {rest : List (Instr ι)} (h : Sound ss)
    (ht : ss[t]? = some (i :: rest)) : i.isSound = true := h _ (List.mem_of_getElem? ht) i List.mem_cons_self

theorem stackAt_of_getElem? {ss : List (List (Instr ι))} {t : ThreadId} {st : List (Instr ι)} (h : ss[t]? = some st) :
    stackAt ss t = st := by simp [stackAt, h]

theorem stackAt_set {ss : List (List (Instr ι))} {t : ThreadId} {st : List (Instr ι)} (h : ss[t]? = some st)
    (st' : List (Instr ι)) (t' : ThreadId) : stackAt (ss.set t st') t' = if t' = t then st' else stackAt ss t' := by
  have ht : t < ss.length := (List.getElem?_eq_some_iff.1 h).1
  by_cases htt : t' = t
  · subst htt; simp [stackAt, ht]
  · rw [if_neg htt, stackAt, stackAt, List.getElem?_set_ne (Ne.symm htt)]

theorem stackAt_append {ss : List (List (Instr ι))} {st : List (Instr ι)} (t : ThreadId) :
    stackAt (ss ++ [st]) t = if t = ss.length then st else stackAt ss t := by
  rcases Nat.lt_trichotomy t ss.length with h | h | h
  · rw [if_neg (Nat.ne_of_lt h), stackAt, stackAt, List.getElem?_append_left h]
  · subst h; simp [stackAt]
  · rw [if_neg (Nat.ne_of_gt h), stackAt, stackAt, List.getElem?_eq_none (by simpa using Nat.succ_le_of_lt h),
      List.getElem?_eq_none (Nat.le_of_lt h)]

theorem mem_of_stackAt {ss : List (List (Instr ι))} {t : ThreadId} {i : Instr ι} (h : i ∈ stackAt ss t) :
    ∃ st ∈ ss, i ∈ st := by
  cases ht : ss[t]? with
  | none => simp [stackAt, ht] at h
  | some st => exact ⟨st, List.mem_of_getElem? ht, by simpa [stackAt, ht] using h⟩

/-- The stacks of a queue that was just built. -/
theorem start_stacks (u : Setup ι) :
    u.start.stacks = (List.range u.workers).map fun i => [.say (.workerStarted u.name i), .take] := by
  simp [State.stacks, Setup.start]

theorem stackAt_start (u : Setup ι) (t : ThreadId) :
    stackAt u.start.stacks t = if t < u.workers then [.say (.workerStarted u.name t), .take] else [] := by
  rw [start_stacks]
  by_cases ht : t < u.workers <;> simp [stackAt, ht]

/-- Writing what is there already. -/
theorem set_of_getElem? {α : Type} {l : List α} {n : Nat} {a : α} (h : l[n]? = some a) : l.set n a = l := by
  obtain ⟨hn, rfl⟩ := List.getElem?_eq_some_iff.1 h
  exact List.set_getElem_self hn

/-- A notification changes nothing of the threads but who sleeps. -/
theorem wake_map {β : Type} {f : Thread ι → β} (hf : ∀ th, f th.awake = f th) {ths ths' : List (Thread ι)}
    {sleeper : Option ThreadId} {k : Wake} (h : wake ths sleeper k = some ths') : ths'.map f = ths.map f := by
  cases k with
  | nobody =>
    simp only [wake] at h
    split at h
    · cases h; rfl
    · cases h
  | all c =>
    simp only [wake] at h
    split at h
    · cases h
      rw [List.map_map]
      refine List.map_congr_left fun th _ => ?_
      simp only [Function.comp_apply]
      split
      · exact hf th
      · rfl
    · cases h
  | one c =>
    simp only [wake] at h
    split at h
    · split at h
      · cases h
      · cases h; rfl
    · split at h
      · rename_i w th hw
        split at h
        · cases h
          rw [List.map_set]
          exact set_of_getElem? (by rw [List.getElem?_map, hw, Option.map_some, hf])
        · cases h
      · cases h

/-- A notification changes no stack. -/
theorem wake_stacks {ths ths' : List (Thread ι)} {sleeper : Option ThreadId} {k : Wake}
    (h : wake ths sleeper k = some ths') : ths'.map (·.stack) = ths.map (·.stack) := wake_map (fun _ => rfl) h

/-- A notification changes no reply. -/
theorem reply?_of_wake {sh : Shared ι} {ths ths' : List (Thread ι)} {sleeper : Option ThreadId} {k : Wake}
    (hw : wake ths sleeper k = some ths') (t : ThreadId) :
    (⟨sh, ths'⟩ : State ι).reply? t = (ths[t]?).map (·.reply) := by
  have hmap := congrArg (·[t]?) (wake_map (f := Thread.reply) (fun _ => rfl) hw)
  simpa [State.reply?] using hmap

/-! ## Moves -/

/-- The steps of a queue: a thread acts, wakes by itself or is answered, a client starts, or something happens that
concerns no item. -/
inductive Moves (u : Setup ι) (s : State ι) : State ι → Prop
  | act {t : ThreadId} {th : Thread ι} {i : Instr ι} {rest : List (Instr ι)} {e : Effect ι}
      {sleeper : Option ThreadId} {ths : List (Thread ι)} (ht : s.threads[t]? = some th) (hawake : th.asleep = none)
      (hst : th.stack = i :: rest) (hact : Act u s.shared t i e)
      (hwake : wake (s.threads.set t (th.after rest e)) sleeper e.wake = some ths) : Moves u s ⟨e.shared, ths⟩
  | rouse {t : ThreadId} {th : Thread ι} (ht : s.threads[t]? = some th) (hasleep : th.asleep.isSome = true) :
      Moves u s { s with threads := s.threads.set t th.awake }
  | answer {t : ThreadId} {th : Thread ι} {role : Role ι} {label : String} {rest : List (Instr ι)}
      {script : Script ι} (ht : s.threads[t]? = some th) (hst : th.stack = .run role (.pause label) :: rest) :
      Moves u s { s with threads := s.threads.set t { th with stack := .run role script :: rest } }
  | spawn (script : Script ι) : Moves u s (s.spawn script)
  | outside {sh : Shared ι} (h : s.shared.Same sh) : Moves u s { s with shared := sh }

/-- What lies behind a step of one thread: it is awake, its next instruction can be performed, and whoever is notified
wakes up. -/
theorem run_of_step {u : Setup ι} {s s' : State ι} {t : ThreadId} {sleeper : Option ThreadId}
    (h : step u s (.run t sleeper) = some s') :
    ∃ th i rest e ths, s.threads[t]? = some th ∧ th.asleep = none ∧ th.stack = i :: rest ∧
      perform u s.shared s.hasEnded t th.reply i = some e ∧
      wake (s.threads.set t (th.after rest e)) sleeper e.wake = some ths ∧ s' = ⟨e.shared, ths⟩ := by
  simp only [step] at h
  split at h
  · rename_i th ht
    split at h
    · rename_i i rest hawake hst
      split at h
      · rename_i e he
        obtain ⟨ths, hw, rfl⟩ := Option.map_eq_some_iff.1 h
        exact ⟨th, i, rest, e, ths, ht, hawake, hst, he, hw, rfl⟩
      · cases h
    · cases h
  · cases h

theorem rouse_of_step {u : Setup ι} {s s' : State ι} {t : ThreadId} (h : step u s (.rouse t) = some s') :
    ∃ th, s.threads[t]? = some th ∧ th.asleep.isSome = true ∧ s' = { s with threads := s.threads.set t th.awake } := by
  simp only [step] at h
  split at h
  · rename_i th ht
    split at h
    · rename_i ha
      cases h
      exact ⟨th, ht, ha, rfl⟩
    · cases h
  · cases h

theorem answer_of_step {u : Setup ι} {s s' : State ι} {t : ThreadId} {script : Script ι}
    (h : step u s (.answer t script) = some s') :
    ∃ th role label rest, s.threads[t]? = some th ∧ th.stack = .run role (.pause label) :: rest ∧
      s' = { s with threads := s.threads.set t { th with stack := .run role script :: rest } } := by
  simp only [step] at h
  split at h
  · rename_i th ht
    split at h
    · rename_i role label rest hst
      cases h
      exact ⟨th, role, label, rest, ht, hst, rfl⟩
    · cases h
  · cases h

/-- Every step is a move. -/
theorem moves_of_step {u : Setup ι} {s s' : State ι} {c : Choice ι} (hs : Sound s.stacks)
    (h : step u s c = some s') : Moves u s s' := by
  cases c with
  | run t sleeper =>
    obtain ⟨th, i, rest, e, ths, ht, hawake, hst, he, hw, rfl⟩ := run_of_step h
    have hi : i.isSound = true :=
      hs th.stack (List.mem_map_of_mem (List.mem_of_getElem? ht)) i (by rw [hst]; exact List.mem_cons_self)
    exact .act ht hawake hst (act_of_perform hi he) hw
  | rouse t =>
    obtain ⟨th, ht, ha, rfl⟩ := rouse_of_step h
    exact .rouse ht ha
  | answer t script =>
    obtain ⟨th, role, label, rest, ht, hst, rfl⟩ := answer_of_step h
    exact .answer ht hst
  | spawn script => cases h; exact .spawn script
  | tick ms => cases h; exact .outside ⟨rfl, id, rfl, rfl, [], rfl, by simp⟩
  | drain n => cases h; exact .outside ⟨rfl, id, rfl, rfl, [], rfl, by simp⟩
  | hangUp n => cases h; exact .outside ⟨rfl, id, rfl, rfl, [], rfl, by simp⟩

/-- What a move does to the shared state and the stacks. -/
inductive Shift (u : Setup ι) (sh : Shared ι) (ss : List (List (Instr ι))) :
    Shared ι → List (List (Instr ι)) → Prop
  | act {t : ThreadId} {i : Instr ι} {rest : List (Instr ι)} {e : Effect ι} (ht : ss[t]? = some (i :: rest))
      (hact : Act u sh t i e) : Shift u sh ss e.shared (ss.set t (e.push ++ rest))
  | answer {t : ThreadId} {role : Role ι} {label : String} {rest : List (Instr ι)} {script : Script ι}
      (ht : ss[t]? = some (.run role (.pause label) :: rest)) : Shift u sh ss sh (ss.set t (.run role script :: rest))
  | spawn (script : Script ι) : Shift u sh ss sh (ss ++ [[.run .client script]])
  | same {sh' : Shared ι} (h : sh.Same sh') : Shift u sh ss sh' ss

theorem getElem?_stacks {s : State ι} {t : ThreadId} {th : Thread ι} (h : s.threads[t]? = some th) :
    s.stacks[t]? = some th.stack := by simp [State.stacks, h]

/-- The stacks after an act and its notification. -/
theorem stacks_of_wake {s : State ι} {t : ThreadId} {th : Thread ι} {rest : List (Instr ι)} {e : Effect ι}
    {sleeper : Option ThreadId} {ths : List (Thread ι)}
    (h : wake (s.threads.set t (th.after rest e)) sleeper e.wake = some ths) :
    (⟨e.shared, ths⟩ : State ι).stacks = s.stacks.set t (e.push ++ rest) := by
  simp only [State.stacks]
  rw [wake_stacks h, List.map_set]
  rfl

/-- A thread that wakes by itself has the same to do. -/
theorem stacks_of_awake {s : State ι} {t : ThreadId} {th : Thread ι} (ht : s.threads[t]? = some th) :
    ({ s with threads := s.threads.set t th.awake } : State ι).stacks = s.stacks := by
  simp only [State.stacks, List.map_set]
  exact set_of_getElem? (by rw [List.getElem?_map, ht]; rfl)

theorem stacks_of_answer {s : State ι} {t : ThreadId} {th : Thread ι} {st : List (Instr ι)} :
    ({ s with threads := s.threads.set t { th with stack := st } } : State ι).stacks = s.stacks.set t st := by
  simp only [State.stacks, List.map_set]

theorem stacks_spawn {s : State ι} {script : Script ι} :
    (s.spawn script).stacks = s.stacks ++ [[.run .client script]] := by
  simp [State.stacks, State.spawn]

theorem Moves.shift {u : Setup ι} {s s' : State ι} (m : Moves u s s') :
    Shift u s.shared s.stacks s'.shared s'.stacks := by
  cases m with
  | @act t th i rest e sleeper ths ht hawake hst hact hwake =>
    rw [stacks_of_wake hwake]
    exact .act (by rw [getElem?_stacks ht, hst]) hact
  | @rouse t th ht hasleep =>
    rw [stacks_of_awake ht]
    exact .same (.refl _)
  | @answer t th role label rest script ht hst =>
    rw [stacks_of_answer]
    exact .answer (by rw [getElem?_stacks ht, hst])
  | spawn script =>
    rw [stacks_spawn]
    exact .spawn script
  | outside h => exact .same h

/-! ## Induction over runs -/

theorem Shift.sound {u : Setup ι} {sh sh' : Shared ι} {ss ss' : List (List (Instr ι))} (h : Shift u sh ss sh' ss')
    (hs : Sound ss) : Sound ss' := by
  cases h with
  | act ht hact =>
    intro st hst j hj
    rcases List.mem_or_eq_of_mem_set hst with hst | rfl
    · exact hs st hst j hj
    · rcases List.mem_append.1 hj with hj | hj
      · exact hact.sound j hj
      · exact hs _ (List.mem_of_getElem? ht) j (List.mem_cons_of_mem _ hj)
  | answer ht =>
    intro st hst j hj
    rcases List.mem_or_eq_of_mem_set hst with hst | rfl
    · exact hs st hst j hj
    · rcases List.mem_cons.1 hj with rfl | hj
      · rfl
      · exact hs _ (List.mem_of_getElem? ht) j (List.mem_cons_of_mem _ hj)
  | spawn script =>
    intro st hst j hj
    rcases List.mem_append.1 hst with hst | hst
    · exact hs st hst j hj
    · rw [List.mem_singleton.1 hst] at hj
      rw [List.mem_singleton.1 hj]; rfl
  | same _ => exact hs

theorem Reachable.sound {u : Setup ι} {s : State ι} (h : Reachable u s) : Sound s.stacks := by
  induction h with
  | start =>
    intro st hst j hj
    rw [start_stacks] at hst
    obtain ⟨n, -, rfl⟩ := List.mem_map.1 hst
    simp only [List.mem_cons, List.not_mem_nil, or_false] at hj
    rcases hj with rfl | rfl <;> rfl
  | step _ hs ih => exact (moves_of_step ih hs).shift.sound ih

/-- A step from a reachable state shifts the shared state and the stacks. -/
theorem Reachable.shift {u : Setup ι} {s s' : State ι} {c : Choice ι} (h : Reachable u s)
    (hs : Queue.step u s c = some s') : Shift u s.shared s.stacks s'.shared s'.stacks :=
  (moves_of_step h.sound hs).shift

/-- What every move keeps holds in every reachable state. -/
theorem Reachable.moves_induction {u : Setup ι} {I : State ι → Prop} (start : I u.start)
    (move : ∀ {s s'}, Reachable u s → Moves u s s' → I s → I s') {s : State ι} (h : Reachable u s) : I s := by
  induction h with
  | start => exact start
  | step hr hs ih => exact move hr (moves_of_step hr.sound hs) ih

/-- What every shift keeps holds in every reachable state. -/
theorem Reachable.shift_induction {u : Setup ι} {I : Shared ι → List (List (Instr ι)) → Prop}
    (start : I u.start.shared u.start.stacks)
    (shift : ∀ {s sh ss}, Reachable u s → Shift u s.shared s.stacks sh ss → I s.shared s.stacks → I sh ss)
    {s : State ι} (h : Reachable u s) : I s.shared s.stacks :=
  h.moves_induction (I := fun s => I s.shared s.stacks) start fun hr m => shift hr m.shift

/-- The workers are always there. -/
theorem Reachable.workers_le {u : Setup ι} {s : State ι} (h : Reachable u s) : u.workers ≤ s.stacks.length := by
  refine h.shift_induction (I := fun _ ss => u.workers ≤ ss.length) (by simp [start_stacks]) ?_
  intro s sh ss _ hsh ih
  cases hsh with
  | spawn => simp; omega
  | _ => simpa using ih

/-- What is said of every thread by itself (of its number, the shared state and its stack) holds in every reachable
state, if the acts and answers of the thread keep it and the acts of the other threads do not disturb it. -/
theorem Reachable.stack_induction {u : Setup ι} {P : Shared ι → ThreadId → List (Instr ι) → Prop}
    (start : ∀ t, P u.start.shared t (stackAt u.start.stacks t))
    (same : ∀ {sh sh' t st}, sh.Same sh' → P sh t st → P sh' t st)
    (answer : ∀ {sh t role label script rest},
      P sh t (.run role (.pause label) :: rest) → P sh t (.run role script :: rest))
    (spawn : ∀ {sh t} script, u.workers ≤ t → P sh t [] → P sh t [.run .client script])
    (act : ∀ {sh t i rest e}, Act u sh t i e → P sh t (i :: rest) → P e.shared t (e.push ++ rest))
    (frame : ∀ {sh t t' i e st}, t' ≠ t → Act u sh t i e → P sh t' st → P e.shared t' st)
    {s : State ι} (h : Reachable u s) : ∀ t, P s.shared t (stackAt s.stacks t) := by
  refine h.shift_induction (I := fun sh ss => ∀ t, P sh t (stackAt ss t)) start ?_
  intro s sh ss hr hsh ih t'
  cases hsh with
  | @act t i rest e ht hact =>
    rw [stackAt_set ht]
    by_cases htt : t' = t
    · subst htt
      rw [if_pos rfl]
      exact act hact (stackAt_of_getElem? ht ▸ ih t')
    · rw [if_neg htt]
      exact frame htt hact (ih t')
  | @answer t role label rest script ht =>
    rw [stackAt_set ht]
    by_cases htt : t' = t
    · subst htt
      rw [if_pos rfl]
      exact answer (stackAt_of_getElem? ht ▸ ih t')
    · rw [if_neg htt]
      exact ih t'
  | spawn script =>
    rw [stackAt_append]
    by_cases htt : t' = s.stacks.length
    · subst htt
      have hnil : stackAt s.stacks s.stacks.length = [] := by simp [stackAt]
      rw [if_pos rfl]
      exact spawn script hr.workers_le (hnil ▸ ih _)
    · rw [if_neg htt]
      exact ih t'
  | same hsame => exact same hsame (ih t')

/-! ## Totals -/

section Load

variable {α : Type} {w w' : α → Nat} {l : List α}

/-- The weight of a list. -/
def load (w : α → Nat) : List α → Nat
  | [] => 0
  | a :: l => w a + load w l

@[simp] theorem load_nil (w : α → Nat) : load w [] = 0 := rfl

@[simp] theorem load_cons (w : α → Nat) (a : α) (l : List α) : load w (a :: l) = w a + load w l := rfl

@[simp] theorem load_append (w : α → Nat) (l l' : List α) : load w (l ++ l') = load w l + load w l' := by
  induction l with
  | nil => simp
  | cons a l ih =>
    rw [List.cons_append, load_cons, load_cons, ih]
    omega

/-- What weighs no more piece by piece weighs no more altogether. -/
theorem load_le_load (h : ∀ a ∈ l, w a ≤ w' a) : load w l ≤ load w' l := by
  induction l with
  | nil => exact Nat.le_refl 0
  | cons a l ih =>
    have ha := h a List.mem_cons_self
    have hl := ih fun b hb => h b (List.mem_cons_of_mem _ hb)
    rw [load_cons, load_cons]
    omega

theorem load_eq_zero (h : ∀ a ∈ l, w a = 0) : load w l = 0 := by
  induction l with
  | nil => rfl
  | cons a l ih =>
    rw [load_cons, h a List.mem_cons_self, ih fun b hb => h b (List.mem_cons_of_mem _ hb)]

/-- A piece weighs no more than all together. -/
theorem weight_le_load {a : α} (h : a ∈ l) : w a ≤ load w l := by
  induction l with
  | nil => cases h
  | cons b l ih =>
    rw [load_cons]
    rcases List.mem_cons.1 h with rfl | h
    · exact Nat.le_add_right _ _
    · exact Nat.le_trans (ih h) (Nat.le_add_left _ _)

/-- How the weight changes when one piece does. -/
theorem load_set {a : α} (b : α) {n : Nat} (h : l[n]? = some a) : load w (l.set n b) + w a = load w l + w b := by
  induction l generalizing n with
  | nil => simp at h
  | cons c l ih =>
    cases n with
    | zero =>
      simp only [List.getElem?_cons_zero, Option.some.injEq] at h
      subst h
      simp only [List.set_cons_zero, load_cons]
      omega
    | succ n =>
      have hl := ih (by simpa using h)
      simp only [List.set_cons_succ, load_cons]
      omega

end Load

/-- The weight of all that the threads have still to do. -/
def total (w : Instr ι → Nat) (ss : List (List (Instr ι))) : Nat := load (load w) ss

theorem total_append (w : Instr ι → Nat) (ss ss' : List (List (Instr ι))) :
    total w (ss ++ ss') = total w ss + total w ss' := load_append ..

/-- How the total changes when one stack does. -/
theorem total_set {w : Instr ι → Nat} {st : List (Instr ι)} (st' : List (Instr ι)) {ss : List (List (Instr ι))}
    {t : ThreadId} (h : ss[t]? = some st) : total w (ss.set t st') + load w st = total w ss + load w st' :=
  load_set st' h

/-- A stack weighs no more than all together. -/
theorem load_le_total {w : Instr ι → Nat} {st : List (Instr ι)} {ss : List (List (Instr ι))} (h : st ∈ ss) :
    load w st ≤ total w ss := weight_le_load h

theorem load_stackAt_le_total (w : Instr ι → Nat) (ss : List (List (Instr ι))) (t : ThreadId) :
    load w (stackAt ss t) ≤ total w ss := by
  cases ht : ss[t]? with
  | none => simp [stackAt, ht]
  | some st => exact stackAt_of_getElem? ht ▸ load_le_total (List.mem_of_getElem? ht)

/-- What weighs no more on any stack weighs no more in total. -/
theorem total_le_total {w w' : Instr ι → Nat} {ss : List (List (Instr ι))}
    (h : ∀ t, load w (stackAt ss t) ≤ load w' (stackAt ss t)) : total w ss ≤ total w' ss := by
  refine load_le_load fun st hst => ?_
  obtain ⟨t, ht⟩ := List.mem_iff_getElem?.1 hst
  exact stackAt_of_getElem? ht ▸ h t

/-- Where no thread has anything of weight to do, the total is zero. -/
theorem total_eq_zero {w : Instr ι → Nat} {s : State ι} (h : ∀ th ∈ s.threads, ∀ i ∈ th.stack, w i = 0) :
    total w s.stacks = 0 := by
  refine load_eq_zero fun st hst => ?_
  obtain ⟨th, hth, rfl⟩ := List.mem_map.1 hst
  exact load_eq_zero (h th hth)

theorem load_plain {w : Instr ι → Nat} (hw : ∀ i, i.isPlain = true → w i = 0) {p : List (Instr ι)}
    (hp : ∀ j ∈ p, j.isPlain = true) : load w p = 0 := load_eq_zero fun j hj => hw j (hp j hj)

end Conveyor.Queue
