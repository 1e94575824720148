import Conveyor.Proofs.Queue.Execution
import Conveyor.Proofs.Queue.Move
import Conveyor.Proofs.Queue.Voice
import Mathlib.Data.List.Induction

/-!
# Turns

A step is a turn of one thread, which has an act and a voice, or comes from outside (`Turn`, `turn_of_step`). The deeds
of a run are the instructions that it has performed, each with its thread and the state that it found.

* `execute_turns`: what every turn keeps of the deeds, the shared state and the stacks holds at the end of every run;
  `execute_thread` is the same for what is said of each thread by itself.
* `Reachable.tally`: a quantity that goes up with what a voice leaves to do and down with what it does is the weight
  of what the threads have still to do.
-/

namespace Conveyor.Queue

variable {ι : Type}

/-! ## Deeds -/

/-- An instruction that was performed. -/
structure Deed (ι : Type) where
  thread : ThreadId
  /-- The state that the instruction found. -/
  found : Shared ι
  instr : Instr ι

/-- What a choice has a thread perform. -/
def State.deed? (s : State ι) : Choice ι → Option (Deed ι)
  | .run t _ => (stackAt s.stacks t).head?.map fun i => ⟨t, s.shared, i⟩
  | _ => none

/-- What was performed in a run, earliest first. -/
def deeds (u : Setup ι) (s : State ι) : List (Choice ι) → List (Deed ι)
  | [] => []
  | c :: cs =>
    match step u s c with
    | some s' => (s.deed? c).toList ++ deeds u s' cs
    | none => []

/-- What thread `t` has performed, of all that was. -/
def deedsOf (t : ThreadId) (ds : List (Deed ι)) : List (Deed ι) := ds.filter (·.thread = t)

section Deeds

variable {u : Setup ι} {s s₁ s' : State ι} {c : Choice ι} {cs : List (Choice ι)}

/-- What a thread performs is what comes next on it. -/
theorem deed?_run {t : ThreadId} {sleeper : Option ThreadId} {th : Thread ι} {i : Instr ι} {rest : List (Instr ι)}
    (ht : s.threads[t]? = some th) (hst : th.stack = i :: rest) :
    s.deed? (.run t sleeper) = some ⟨t, s.shared, i⟩ := by
  rw [State.deed?, stackAt_of_getElem? (getElem?_stacks ht), hst]
  rfl

/-- The last deed of a run. -/
theorem deeds_concat (he : execute u s cs = some s₁) (hs : step u s₁ c = some s') :
    deeds u s (cs ++ [c]) = deeds u s cs ++ (s₁.deed? c).toList := by
  induction cs generalizing s with
  | nil =>
    cases he
    simp [deeds, hs]
  | cons c₀ cs ih =>
    rw [execute_cons, Option.bind_eq_some_iff] at he
    obtain ⟨s₀, hs₀, he⟩ := he
    simp only [List.cons_append, deeds, hs₀, ih he, List.append_assoc]

variable {t t' : ThreadId} {ds : List (Deed ι)} {sh : Shared ι} {i : Instr ι}

theorem deedsOf_self : deedsOf t (ds ++ [⟨t, sh, i⟩]) = deedsOf t ds ++ [⟨t, sh, i⟩] := by
  simp [deedsOf]

theorem deedsOf_other (h : t' ≠ t) : deedsOf t' (ds ++ [⟨t, sh, i⟩]) = deedsOf t' ds := by
  simp [deedsOf, h.symm]

end Deeds

/-! ## Turns -/

/-- What a step does to the shared state and the stacks, and the deed that it is, if it is one. -/
inductive Turn (u : Setup ι) (sh : Shared ι) (ss : List (List (Instr ι))) :
    Option (Deed ι) → Shared ι → List (List (Instr ι)) → Prop
  | act {t : ThreadId} {i : Instr ι} {rest : List (Instr ι)} {e : Effect ι} (ht : ss[t]? = some (i :: rest))
      (hact : Act u sh t i e) (hvoice : Voice u sh t i e) :
      Turn u sh ss (some ⟨t, sh, i⟩) e.shared (ss.set t (e.push ++ rest))
  | answer {t : ThreadId} {role : Role ι} {label : String} {rest : List (Instr ι)} {script : Script ι}
      (ht : ss[t]? = some (.run role (.pause label) :: rest)) :
      Turn u sh ss none sh (ss.set t (.run role script :: rest))
  | spawn (script : Script ι) : Turn u sh ss none sh (ss ++ [[.run .client script]])
  | same {sh' : Shared ι} (hsame : sh.Same sh') (hhush : sh.Hush sh') : Turn u sh ss none sh' ss

/-- Strong references are taken for new bids only. -/
def Proper (ss : List (List (Instr ι))) : Prop := ∀ st ∈ ss, ∀ i ∈ st, i.isProper = true

/-- What comes next of a proper stack is proper. -/
theorem Proper.head {ss : List (List (Instr ι))} {t : ThreadId} {i : Instr ι} {rest : List (Instr ι)} (h : Proper ss)
    (ht : ss[t]? = some (i :: rest)) : i.isProper = true := h _ (List.mem_of_getElem? ht) i List.mem_cons_self

/-- Every step is a turn. -/
theorem turn_of_step {u : Setup ι} {s s' : State ι} {c : Choice ι} (hs : Sound s.stacks) (hp : Proper s.stacks)
    (h : step u s c = some s') : Turn u s.shared s.stacks (s.deed? c) s'.shared s'.stacks := by
  cases c with
  | run t sleeper =>
    obtain ⟨th, i, rest, e, ths, ht, hawake, hst, he, hw, rfl⟩ := run_of_step h
    have hstack : s.stacks[t]? = some (i :: rest) := by rw [getElem?_stacks ht, hst]
    rw [deed?_run ht hst, stacks_of_wake hw]
    exact .act hstack (act_of_perform (hs.head hstack) he) (voice_of_perform (hp.head hstack) he)
  | rouse t =>
    obtain ⟨th, ht, ha, rfl⟩ := rouse_of_step h
    rw [stacks_of_awake ht]
    exact .same (.refl _) (.refl _)
  | answer t script =>
    obtain ⟨th, role, label, rest, ht, hst, rfl⟩ := answer_of_step h
    rw [stacks_of_answer]
    exact .answer (by rw [getElem?_stacks ht, hst])
  | spawn script =>
    cases h
    rw [stacks_spawn]
    exact .spawn script
  | tick ms => cases h; exact .same ⟨rfl, id, rfl, rfl, [], rfl, by simp⟩ (hush_frame rfl rfl rfl id rfl)
  | drain n => cases h; exact .same ⟨rfl, id, rfl, rfl, [], rfl, by simp⟩ (hush_frame rfl rfl rfl id rfl)
  | hangUp n => cases h; exact .same ⟨rfl, id, rfl, rfl, [], rfl, by simp⟩ (hush_frame rfl rfl rfl id rfl)

/-- Where an instruction that is due after a turn comes from: it was due before, it is left by the voice of the turn,
or it is client code. -/
theorem Turn.origin {u : Setup ι} {sh sh' : Shared ι} {ss ss' : List (List (Instr ι))} {d : Option (Deed ι)}
    (h : Turn u sh ss d sh' ss') {j : Instr ι} (hj : ∃ st ∈ ss', j ∈ st) :
    (∃ st ∈ ss, j ∈ st) ∨ (∃ role script, j = .run role script) ∨
      ∃ t i rest e, ss[t]? = some (i :: rest) ∧ Act u sh t i e ∧ Voice u sh t i e ∧ sh' = e.shared ∧ j ∈ e.push := by
  obtain ⟨st, hst, hj⟩ := hj
  cases h with
  | @act t i rest e ht hact hvoice =>
    rcases List.mem_or_eq_of_mem_set hst with hst | rfl
    · exact .inl ⟨st, hst, hj⟩
    · rcases List.mem_append.1 hj with hj | hj
      · exact .inr (.inr ⟨t, i, rest, e, ht, hact, hvoice, rfl, hj⟩)
      · exact .inl ⟨_, List.mem_of_getElem? ht, List.mem_cons_of_mem _ hj⟩
  | @answer t role label rest script ht =>
    rcases List.mem_or_eq_of_mem_set hst with hst | rfl
    · exact .inl ⟨st, hst, hj⟩
    · rcases List.mem_cons.1 hj with rfl | hj
      · exact .inr (.inl ⟨role, script, rfl⟩)
      · exact .inl ⟨_, List.mem_of_getElem? ht, List.mem_cons_of_mem _ hj⟩
  | spawn script =>
    rcases List.mem_append.1 hst with hst | hst
    · exact .inl ⟨st, hst, hj⟩
    · rw [List.mem_singleton.1 hst] at hj
      exact .inr (.inl ⟨.client, script, List.mem_singleton.1 hj⟩)
  | same => exact .inl ⟨st, hst, hj⟩

theorem Turn.proper {u : Setup ι} {sh sh' : Shared ι} {ss ss' : List (List (Instr ι))} {d : Option (Deed ι)}
    (h : Turn u sh ss d sh' ss') (hp : Proper ss) : Proper ss' := by
  intro st hst j hj
  rcases h.origin ⟨st, hst, hj⟩ with ⟨st, hst, hj⟩ | ⟨role, script, rfl⟩ | ⟨t, i, rest, e, -, -, hvoice, -, hj⟩
  · exact hp st hst j hj
  · rfl
  · exact hvoice.proper j hj

theorem Reachable.proper {u : Setup ι} {s : State ι} (h : Reachable u s) : Proper s.stacks := by
  induction h with
  | start =>
    intro st hst j hj
    rw [start_stacks] at hst
    obtain ⟨n, -, rfl⟩ := List.mem_map.1 hst
    simp only [List.mem_cons, List.not_mem_nil, or_false] at hj
    rcases hj with rfl | rfl <;> rfl
  | step hr hs ih => exact (turn_of_step hr.sound ih hs).proper ih

theorem Reachable.turn {u : Setup ι} {s s' : State ι} {c : Choice ι} (h : Reachable u s)
    (hs : Queue.step u s c = some s') : Turn u s.shared s.stacks (s.deed? c) s'.shared s'.stacks :=
  turn_of_step h.sound h.proper hs

/-! ## Induction over runs -/

/-- What every turn keeps of the deeds, the shared state and the stacks holds at the end of every run. -/
theorem execute_turns {u : Setup ι} {P : List (Deed ι) → Shared ι → List (List (Instr ι)) → Prop}
    (start : P [] u.start.shared u.start.stacks)
    (turn : ∀ {ds s d sh ss}, Reachable u s → Turn u s.shared s.stacks d sh ss → P ds s.shared s.stacks →
      P (ds ++ d.toList) sh ss)
    {cs : List (Choice ι)} {s : State ι} (he : execute u u.start cs = some s) :
    P (deeds u u.start cs) s.shared s.stacks := by
  induction cs using List.reverseRecOn generalizing s with
  | nil =>
    cases he
    exact start
  | append_singleton cs c ih =>
    obtain ⟨s₁, he₁, hs⟩ := execute_concat.1 he
    have hr := Reachable.start.execute he₁
    rw [deeds_concat he₁ hs]
    exact turn hr (hr.turn hs) (ih he₁)

/-- What is said of every thread by itself (of its deeds, the shared state, its number and its stack) holds at the end
of every run, if the turns of the thread keep it and those of the other threads do not disturb it. -/
theorem execute_thread {u : Setup ι} {P : List (Deed ι) → Shared ι → ThreadId → List (Instr ι) → Prop}
    (start : ∀ t, P [] u.start.shared t (stackAt u.start.stacks t))
    (same : ∀ {ds sh sh' t st}, sh.Same sh' → sh.Hush sh' → P ds sh t st → P ds sh' t st)
    (answer : ∀ {ds sh t role label script rest},
      P ds sh t (.run role (.pause label) :: rest) → P ds sh t (.run role script :: rest))
    (spawn : ∀ {ds sh t} script, u.workers ≤ t → P ds sh t [] → P ds sh t [.run .client script])
    (act : ∀ {ds sh t i rest e}, Act u sh t i e → Voice u sh t i e → P ds sh t (i :: rest) →
      P (ds ++ [⟨t, sh, i⟩]) e.shared t (e.push ++ rest))
    (frame : ∀ {ds sh t t' i e st}, t' ≠ t → Act u sh t i e → Voice u sh t i e → P ds sh t' st → P ds e.shared t' st)
    {cs : List (Choice ι)} {s : State ι} (he : execute u u.start cs = some s) (t : ThreadId) :
    P (deedsOf t (deeds u u.start cs)) s.shared t (stackAt s.stacks t) := by
  refine execute_turns (P := fun ds sh ss => ∀ t, P (deedsOf t ds) sh t (stackAt ss t)) start ?_ he t
  intro ds s d sh ss hr hturn ih t'
  cases hturn with
  | @act t i rest e ht hact hvoice =>
    rw [stackAt_set ht, Option.toList_some]
    by_cases htt : t' = t
    · subst htt
      rw [if_pos rfl, deedsOf_self]
      exact act hact hvoice (stackAt_of_getElem? ht ▸ ih t')
    · rw [if_neg htt, deedsOf_other htt]
      exact frame htt hact hvoice (ih t')
  | @answer t role label rest script ht =>
    rw [stackAt_set ht, Option.toList_none, List.append_nil]
    by_cases htt : t' = t
    · subst htt
      rw [if_pos rfl]
      exact answer (stackAt_of_getElem? ht ▸ ih t')
    · rw [if_neg htt]
      exact ih t'
  | spawn script =>
    rw [stackAt_append, Option.toList_none, List.append_nil]
    by_cases htt : t' = s.stacks.length
    · subst htt
      have hnil : stackAt s.stacks s.stacks.length = [] := by simp [stackAt]
      rw [if_pos rfl]
      exact spawn script hr.workers_le (hnil ▸ ih _)
    · rw [if_neg htt]
      exact ih t'
  | same hsame hhush =>
    rw [Option.toList_none, List.append_nil]
    exact same hsame hhush (ih t')

/-- What every turn keeps holds in every reachable state. -/
theorem Reachable.turn_induction {u : Setup ι} {I : Shared ι → List (List (Instr ι)) → Prop}
    (start : I u.start.shared u.start.stacks)
    (turn : ∀ {s d sh ss}, Reachable u s → Turn u s.shared s.stacks d sh ss → I s.shared s.stacks → I sh ss)
    {s : State ι} (h : Reachable u s) : I s.shared s.stacks := by
  obtain ⟨cs, he⟩ := reachable_iff_execute.1 h
  exact execute_turns (P := fun _ => I) start turn he

/-! ## Tallies -/

/-- `F` goes up with what a voice leaves to do and down with what it does; only the change of a counter and the
publication of an event weigh anything. -/
structure Tally (u : Setup ι) (F : Shared ι → Int) (w : Instr ι → Nat) : Prop where
  mute : ∀ i, i.isVocal = false → w i = 0
  dispatch : ∀ x, w (.dispatch x) = 0
  invoke : ∀ c x, w (.invoke c x) = 0
  start : F u.start.shared = 0
  hush : ∀ {sh sh' : Shared ι}, sh.Hush sh' → F sh' = F sh
  refused : ∀ (sh : Shared ι) t x, x.kind = .add →
    F (sh.note t (.raised x)) = F sh + w (.bump .rejected 1) + w (.publish (.ofException x))
  handled : ∀ (sh : Shared ι) t x e, F (sh.noteEnding u t x e) = F sh + load w (e.report u)
  complete : ∀ sh : Shared ι, sh.buffer.value.disposed = false →
    F (sh.setBuffer sh.buffer.value.complete) =
      F sh + if sh.buffer.value.addingCompleted then 0
        else w (.publish (u.milestone .addingCompleted (some sh.buffer.value.items.length)))
  close : ∀ (sh : Shared ι) t d, sh.buffer.value.disposed = false →
    F ((sh.setBuffer sh.buffer.value.close).note t (.abandoned sh.buffer.value.items d)) =
      F sh + w (.bump .abandoned sh.buffer.value.items.length) +
        w (.publish (u.milestone .disposed (some sh.buffer.value.items.length)))
  settled : ∀ (sh : Shared ι) t d, sh.result = none →
    F ((sh.settled d).note t (.resolved d)) = F sh + if d then w (.publish (u.milestone .completed none)) else 0
  bump : ∀ (sh : Shared ι) c n, F (sh.count c n) + w (.bump c n) = F sh
  called : ∀ (sh : Shared ι) t c x, F (sh.note t (.called c x)) = F sh
  published : ∀ (sh : Shared ι) t x, F (sh.note t (.published x)) + w (.publish x) = F sh

section Tally

variable {u : Setup ι} {F : Shared ι → Int} {w : Instr ι → Nat}

theorem Tally.load_mute (h : Tally u F w) {p : List (Instr ι)} (hp : ∀ j ∈ p, j.isVocal = false) : load w p = 0 :=
  load_eq_zero fun j hj => h.mute j (hp j hj)

/-- Every voice keeps a tally. -/
theorem Tally.voice (h : Tally u F w) {sh : Shared ι} {t : ThreadId} {i : Instr ι} {e : Effect ι}
    (hvoice : Voice u sh t i e) : F e.shared + w i = F sh + load w e.push := by
  cases hvoice with
  | @refuse i bid r hi =>
    have hw : w i = 0 := h.mute i (by cases i <;> simp_all [Instr.bid?, Instr.isVocal])
    have := h.refused sh t (sh.refusal u) rfl
    simp only [raise, Shared.refusal, load_append, load_cons, load_nil, hw, h.dispatch, h.mute (.say _) rfl,
      h.mute (.reply _) rfl] at this ⊢
    omega
  | @handled x ending =>
    have := h.handled sh t x ending
    rw [this, h.mute _ rfl]
    exact Int.add_zero _
  | complete hopen =>
    have := h.complete sh hopen
    simp only [load_append, load_cons, load_nil, h.mute (.notifyAll _) rfl, h.mute (.reply _) rfl,
      h.mute .completeAdding rfl, this]
    split <;> split <;> simp [h.mute (.say _) rfl, h.mute (.resolve _) rfl]
  | close hopen =>
    have := h.close sh t sh.buffer.value.isDrained hopen
    simp only [load_cons, load_nil, h.mute (.notifyAll _) rfl, h.mute (.resolve _) rfl, h.mute (.say _) rfl,
      h.mute .takeHandles rfl, h.mute .dispose rfl, this]
    omega
  | @resolve drained hresult =>
    have := h.settled sh t drained hresult
    simp only [load_append, load_cons, load_nil, h.mute (.notifyAll _) rfl, h.mute (.setWatch _) rfl,
      h.mute (.resolve _) rfl, this]
    split <;> simp [h.mute (.say _) rfl]
  | bump => simpa using h.bump sh _ _
  | dispatch =>
    rw [h.dispatch, load_eq_zero fun j hj => ?_]
    obtain ⟨c, -, rfl⟩ := List.mem_map.1 hj
    exact h.invoke _ _
  | invoke => simp [h.called, h.invoke, h.mute (.run _ _) rfl]
  | @publish x e hhush hpush =>
    have hzero : load w e.push = 0 := h.load_mute fun j hj => by
      obtain ⟨n, rfl⟩ := hpush j hj
      rfl
    have := h.published sh t x
    rw [h.hush hhush, hzero]
    omega
  | await hi =>
    have hw : w i = 0 := h.mute i (by cases i <;> simp_all [Instr.bid?, Instr.isVocal])
    simp [hw, h.mute (.retry _) rfl]
  | hush hi _ hhush hpush =>
    have hzero : load w e.push = 0 := h.load_mute fun j hj =>
      Instr.isVocal_of_isTacit (Instr.isTacit_of_isTacitAfter (hpush j hj))
    rw [h.hush hhush, h.mute _ hi, hzero]

/-- A tally is the weight of what the threads have still to do. -/
theorem Reachable.tally (h : Tally u F w) {s : State ι} (hr : Reachable u s) : F s.shared = total w s.stacks := by
  refine hr.turn_induction (I := fun sh ss => F sh = total w ss) ?_ ?_
  · have hzero : total w u.start.stacks = 0 := by
      refine total_eq_zero fun th hth i hi => ?_
      obtain ⟨k, -, rfl⟩ := List.mem_map.1 hth
      simp only [List.mem_cons, List.not_mem_nil, or_false] at hi
      rcases hi with rfl | rfl
      · exact h.mute _ rfl
      · exact h.mute _ rfl
    rw [hzero, h.start]; rfl
  · intro s d sh ss _ hturn ih
    cases hturn with
    | @act t i rest e ht _ hvoice =>
      have hset := total_set (w := w) (e.push ++ rest) ht
      rw [load_cons, load_append] at hset
      have := h.voice hvoice
      omega
    | @answer t role label rest script ht =>
      have hset := total_set (w := w) (.run role script :: rest) ht
      rw [load_cons, load_cons, h.mute _ rfl, h.mute _ rfl] at hset
      omega
    | spawn script =>
      rw [total_append]
      simpa [total, h.mute (.run _ _) rfl] using ih
    | same _ hhush => rw [h.hush hhush, ih]

end Tally

end Conveyor.Queue
