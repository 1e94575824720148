import Conveyor.Proofs.Queue.Events
import Conveyor.Proofs.Queue.Nesting

/-!
# Callbacks that call back

An exception is counted, goes to the callbacks that are registered when its dispatch takes their list, and is published
at last. Each callback may do anything: register others, raise exceptions of its own on the same thread, close the
queue, or panic. `Dispatching` says how far the report of an exception has come; each step keeps that, be it one of the
report itself (`Dispatching.speak`), of a callback's code or of another thread (`Dispatching.silent`).

* `callbacks_of_execute`: the registered callbacks are those of the setup and then all that were registered, in order.
* `Reachable.reported`: on every thread, the exceptions raised are those published and those whose events are due.
* `dispatch_exact`: what a report makes heard, in every run, and that it comes to its end.
-/

namespace Conveyor.Queue

variable {ι : Type}

/-! ## Registrations -/

/-- The callback that an instruction registers. -/
def Instr.registering? : Instr ι → Option CallbackId
  | .register c => some c
  | _ => none

/-- The callbacks that some deeds have registered, earliest first. -/
def registered (ds : List (Deed ι)) : List CallbackId := ds.filterMap (·.instr.registering?)

section Registrations

variable {u : Setup ι} {s s' : State ι} {c : Choice ι} {cs : List (Choice ι)}

theorem callbacks_of_perform {sh : Shared ι} {ended : ThreadId → Bool} {t : ThreadId} {held : Reply ι} {i : Instr ι}
    {e : Effect ι} (he : perform u sh ended t held i = some e) :
    e.shared.callbacks = sh.callbacks ++ i.registering?.toList := by
  by_cases hi : ∃ c, i = .register c
  · obtain ⟨c, rfl⟩ := hi
    cases he
    rfl
  · have hnone : i.registering? = none := by cases i <;> simp_all [Instr.registering?]
    rw [hnone, Option.toList_none, List.append_nil]
    exact (decreed_of_perform he).callbacks fun c hc => hi ⟨c, hc⟩

theorem callbacks_of_step (hs : step u s c = some s') :
    s'.shared.callbacks = s.shared.callbacks ++ registered (s.deed? c).toList := by
  cases c with
  | run t sleeper =>
    obtain ⟨th, i, rest, e, ths, ht, -, hst, he, -, rfl⟩ := run_of_step hs
    rw [callbacks_of_perform he, deed?_run ht hst]
    cases i <;> rfl
  | rouse t =>
    obtain ⟨th, -, -, rfl⟩ := rouse_of_step hs
    exact (List.append_nil _).symm
  | answer t script =>
    obtain ⟨th, role, label, rest, -, -, rfl⟩ := answer_of_step hs
    exact (List.append_nil _).symm
  | _ => cases hs; exact (List.append_nil _).symm

/-- No registration is lost or made twice: the callbacks are those that there were and all that were registered since,
in order. -/
theorem callbacks_of_execute (he : execute u s cs = some s') :
    s'.shared.callbacks = s.shared.callbacks ++ registered (deeds u s cs) := by
  induction cs using List.reverseRecOn generalizing s' with
  | nil =>
    cases he
    exact (List.append_nil _).symm
  | append_singleton cs c ih =>
    obtain ⟨s₁, he₁, hs⟩ := execute_concat.1 he
    rw [callbacks_of_step hs, ih he₁, deeds_concat he₁ hs, registered, registered, registered, List.filterMap_append,
      List.append_assoc]

end Registrations

/-! ## Exceptions and their events, on each thread -/

section Reports

variable {u : Setup ι} {s s' : State ι} {cs : List (Choice ι)} {t : ThreadId}

/-- A voice has its thread publish later what it raises, and no longer publish what it publishes. -/
theorem Voice.reported {sh : Shared ι} {i : Instr ι} {rest : List (Instr ι)} {e : Effect ι} (hvoice : Voice u sh t i e)
    (h : (onThread t sh.raisings).Perm ((onThread t sh.publications).filterMap QueueEvent.exception ++
      (i :: rest).filterMap Instr.reporting?)) :
    (onThread t e.shared.raisings).Perm ((onThread t e.shared.publications).filterMap QueueEvent.exception ++
      (e.push ++ rest).filterMap Instr.reporting?) := by
  have hi : i.reporting?.toList = i.publishing?.toList.filterMap QueueEvent.exception := by
    cases i with
    | publish x => cases hx : x.exception <;> simp [Instr.reporting?, Instr.publishing?, hx]
    | _ => rfl
  have hcons : (i :: rest).filterMap Instr.reporting? = i.reporting?.toList ++ rest.filterMap Instr.reporting? := by
    cases hr : i.reporting? <;> simp [hr]
  rw [hcons, hi, ← List.append_assoc, ← List.filterMap_append] at h
  have hpush : (e.push ++ rest).filterMap Instr.reporting? =
      e.push.filterMap Instr.reporting? ++ rest.filterMap Instr.reporting? := List.filterMap_append
  rw [hvoice.raisings, hvoice.publications, onThread_append, onThread_self, onThread_toList, hpush]
  refine (h.append_right _).trans ?_
  rw [List.append_assoc]
  exact List.perm_append_comm.append_left _

/-- A voice that raises an exception leaves its whole report to do first. -/
theorem Voice.raise_of_reports {sh : Shared ι} {i : Instr ι} {e : Effect ι} {x : QueueException}
    (hvoice : Voice u sh t i e) (hx : e.push.filterMap Instr.reporting? = [x]) : ∃ more, e.push = raise x ++ more := by
  obtain ⟨y, hy, hexception⟩ : ∃ y, .publish y ∈ e.push ∧ y.exception = some x := by
    obtain ⟨j, hj, hj'⟩ := List.mem_filterMap.1 (hx ▸ List.mem_singleton_self x)
    cases j with
    | publish y => exact ⟨y, hj, hj'⟩
    | _ => cases hj'
  -- an event of the queue's own life is that of no exception
  have milestone : ∀ type size, y ≠ u.milestone type size := by
    rintro type size rfl
    cases hexception
  cases hvoice with
  | refuse =>
    rw [List.filterMap_append, reports_raise] at hx
    obtain ⟨rfl, -⟩ := List.cons.inj hx
    exact ⟨_, rfl⟩
  | @handled z ending =>
    cases hf : ending.fault? u with
    | none => simp [Ending.report, hf] at hy
    | some z =>
      rw [Ending.report, hf, reports_raise] at hx
      obtain ⟨rfl, -⟩ := List.cons.inj hx
      exact ⟨[], by simp [Ending.report, hf]⟩
  | complete =>
    split at hy <;> split at hy <;> simp [milestone] at hy
  | close => simp [milestone] at hy
  | @resolve drained => cases drained <;> simp [milestone] at hy
  | publish _ hpush => obtain ⟨n, hn⟩ := hpush _ hy; cases hn
  | hush _ _ _ hpush => cases hpush _ hy
  | _ => simp at hy

/-- On every thread, the exceptions that were raised are those whose events are out and those whose events it has still
to publish. -/
theorem Reachable.reported (h : Reachable u s) (t : ThreadId) :
    (onThread t s.shared.raisings).Perm ((onThread t s.shared.publications).filterMap QueueEvent.exception ++
      (stackAt s.stacks t).filterMap Instr.reporting?) := by
  obtain ⟨cs, he⟩ := reachable_iff_execute.1 h
  refine execute_thread (P := fun _ sh t st => (onThread t sh.raisings).Perm
    ((onThread t sh.publications).filterMap QueueEvent.exception ++ st.filterMap Instr.reporting?))
    ?_ ?_ ?_ ?_ ?_ ?_ he t
  · intro t
    rw [stackAt_start]
    split <;> exact .refl _
  · intro ds sh sh' t st _ hhush h
    rwa [hhush.raisings, hhush.publications]
  · exact fun h => h
  · exact fun _ _ h => h
  · intro ds sh t i rest e _ hvoice h
    exact hvoice.reported h
  · intro ds sh t t' i e st hne _ hvoice h
    rw [hvoice.raisings, hvoice.publications, onThread_append, onThread_other hne.symm, List.append_nil,
      onThread_toList_other hne]
    exact h

/-- From one state to another, thread `t` has published the events of the exceptions `due` and of those that it has
raised meanwhile, each once. -/
def Reported (t : ThreadId) (due : List QueueException) (sh sh' : Shared ι) : Prop :=
  ∃ xs ys, sh'.raisings = sh.raisings ++ xs ∧ sh'.publications = sh.publications ++ ys ∧
    (due ++ onThread t xs).Perm ((onThread t ys).filterMap QueueEvent.exception)

/-- What a thread has no longer to publish, it has published. -/
theorem Reachable.reported_since {due rest : List QueueException} (h : Reachable u s)
    (he : Queue.execute u s cs = some s')
    (hdue : (stackAt s.stacks t).filterMap Instr.reporting? = due ++ rest)
    (hrest : (stackAt s'.stacks t).filterMap Instr.reporting? = rest) : Reported t due s.shared s'.shared := by
  obtain ⟨xs, hxs⟩ := h.execute_induction (P := fun s₁ => s.shared.raisings <+: s₁.shared.raisings)
    (fun hr hs hP => hP.trans (hr.turn hs).raisings_grow) he List.prefix_rfl
  obtain ⟨ys, hys⟩ := h.execute_induction (P := fun s₁ => s.shared.publications <+: s₁.shared.publications)
    (fun hr hs hP => hP.trans (hr.turn hs).publications_grow) he List.prefix_rfl
  refine ⟨xs, ys, hxs.symm, hys.symm, List.perm_iff_count.2 fun x => ?_⟩
  have hbefore := (h.reported t).count_eq x
  have hafter := ((h.execute he).reported t).count_eq x
  rw [hdue] at hbefore
  rw [hrest, ← hxs, ← hys, onThread_append, onThread_append, List.filterMap_append] at hafter
  simp only [List.count_append] at hbefore hafter ⊢
  omega

end Reports

/-! ## What a report makes heard -/

/-- What thread `t` itself makes heard above `frame` in a run: what it counts, the lists of callbacks that it takes, the
callbacks that it calls and the events that it publishes, but nothing of what the code of these callbacks does. -/
def heard (u : Setup ι) (t : ThreadId) (frame : List (Instr ι)) (s : State ι) (cs : List (Choice ι)) : List (Instr ι) :=
  ((own t frame (strides u t s cs)).filterMap (·.instr? t)).filter Instr.isVocal

/-- The choice has thread `t` perform `i` above `frame`, and not for a callback. -/
structure Speaks (t : ThreadId) (frame : List (Instr ι)) (i : Instr ι) (c : Choice ι) (s : State ι) : Prop where
  turn : c.isOf t = true
  top : ∃ p, stackAt s.stacks t = i :: (p ++ frame) ∧ ∀ j ∈ i :: p, j.isErrand = true

/-- In the run `ca` from `s₁`, thread `t` has counted the exception `x`; it then takes the list of callbacks. -/
structure Takes (u : Setup ι) (t : ThreadId) (x : QueueException) (frame : List (Instr ι)) (s₁ : State ι)
    (ca : List (Choice ι)) (sa : State ι) (c : Choice ι) (sb : State ι) : Prop where
  run : execute u s₁ ca = some sa
  counted : heard u t frame s₁ ca = [.bump (counterOf x.kind) 1]
  speaks : Speaks t frame (.dispatch x) c sa
  step : step u sa c = some sb

/-- In a run from `s₁` to `s`, thread `t` has counted the exception `x`, has taken the list of callbacks and has called
the callbacks of this list for `x`, in order and no others. After that, and with the events of all exceptions published
that it has raised meanwhile, it has published that of `x`, and has made nothing heard since. -/
inductive Dispatched (u : Setup ι) (t : ThreadId) (x : QueueException) (frame : List (Instr ι)) (s₁ : State ι) :
    List (Choice ι) → State ι → Prop
  | mk {ca cb cc : List (Choice ι)} {c c' : Choice ι} {sa sb sc sd s : State ι}
      (takes : Takes u t x frame s₁ ca sa c sb) (run : execute u sb cb = some sc)
      (called : heard u t frame sb cb = sa.shared.callbacks.map (Instr.invoke · x))
      (nested : Reported t [] s₁.shared sc.shared) (speaks : Speaks t frame (.publish (.ofException x)) c' sc)
      (step : step u sc c' = some sd) (rest : execute u sd cc = some s) (silent : heard u t frame sd cc = []) :
      Dispatched u t x frame s₁ (ca ++ c :: (cb ++ c' :: cc)) s

/-- How far the report of `x` above `frame` has come in a run from `s₁` to `s`, with `p` still to do. -/
inductive Dispatching (u : Setup ι) (t : ThreadId) (x : QueueException) (frame : List (Instr ι)) (s₁ : State ι) :
    List (Choice ι) → State ι → List (Instr ι) → Prop
  | counting {cs : List (Choice ι)} {s : State ι} {p w : List (Instr ι)} (run : execute u s₁ cs = some s)
      (counted : heard u t frame s₁ cs ++ w = [.bump (counterOf x.kind) 1])
      (left : p.filter Instr.isVocal = w ++ [.dispatch x, .publish (.ofException x)]) :
      Dispatching u t x frame s₁ cs s p
  | calling {ca cb : List (Choice ι)} {c : Choice ι} {sa sb s : State ι} {p w : List (Instr ι)}
      (takes : Takes u t x frame s₁ ca sa c sb) (run : execute u sb cb = some s)
      (called : heard u t frame sb cb ++ w = sa.shared.callbacks.map (Instr.invoke · x))
      (left : p.filter Instr.isVocal = w ++ [.publish (.ofException x)]) :
      Dispatching u t x frame s₁ (ca ++ c :: cb) s p
  | told {cs : List (Choice ι)} {s : State ι} {p : List (Instr ι)} (done : Dispatched u t x frame s₁ cs s)
      (left : p.filter Instr.isVocal = []) : Dispatching u t x frame s₁ cs s p

section Heard

variable {u : Setup ι} {t : ThreadId} {frame : List (Instr ι)} {s s₁ s' : State ι} {c : Choice ι} {cs : List (Choice ι)}
  {i : Instr ι}

theorem heard_concat (he : execute u s cs = some s₁) (hs : step u s₁ c = some s') :
    heard u t frame s (cs ++ [c]) = heard u t frame s cs ++ heard u t frame s₁ [c] := by
  have hlast : strides u t s₁ [c] = if c.isOf t then [⟨s₁, s'⟩] else [] := by
    simp only [strides, hs, List.append_nil]
  rw [heard, heard, heard, strides_concat he hs, hlast, own_append, List.filterMap_append, List.filter_append]

/-- The other threads make nothing heard of thread `t`. -/
theorem heard_other (hc : c.isOf t = false) : heard u t frame s [c] = [] := by
  simp only [heard, strides, hc]
  split <;> rfl

/-- Nor does the code of a callback. -/
theorem heard_aside (hin : inCallback frame (stackAt s.stacks t) = true) : heard u t frame s [c] = [] := by
  simp only [heard, strides]
  split
  · split <;> simp [own, hin]
  · rfl

theorem Speaks.heard (h : Speaks t frame i c s) (hs : step u s c = some s') :
    Queue.heard u t frame s [c] = [i].filter Instr.isVocal := by
  obtain ⟨hc, p, hst, hp⟩ := h
  have hown : inCallback frame (i :: (p ++ frame)) = false := not_inCallback (p := i :: p) hp
  simp [Queue.heard, strides, hs, hc, own, hown, Stride.instr?, hst]

end Heard

/-! ## What a step changes about it -/

theorem raise_vocal (x : QueueException) :
    (raise (ι := ι) x).filter Instr.isVocal =
      [.bump (counterOf x.kind) 1, .dispatch x, .publish (.ofException x)] := by
  obtain ⟨kind, name, cause⟩ := x
  cases kind <;> rfl

theorem vocal_append {k p : List (Instr ι)} (hk : k.filter Instr.isVocal = []) :
    (k ++ p).filter Instr.isVocal = p.filter Instr.isVocal := by
  rw [List.filter_append, hk, List.nil_append]

theorem Instr.reporting_eq_nil {p : List (Instr ι)} (h : p.filter isVocal = []) : p.filterMap reporting? = [] :=
  List.filterMap_eq_nil_iff.2 fun j hj =>
    reporting?_of_isVocal (Bool.eq_false_iff.2 fun hv => List.filter_eq_nil_iff.1 h j hj hv)

/-- Whatever is on an errand and takes no list leaves nothing to be heard. -/
theorem mute_of_perform {u : Setup ι} {sh : Shared ι} {ended : ThreadId → Bool} {t : ThreadId} {held : Reply ι}
    {i : Instr ι} {e : Effect ι} (hi : i.isErrand = true) (hno : ∀ x, i ≠ .dispatch x)
    (he : perform u sh ended t held i = some e) : e.push.filter Instr.isVocal = [] := by
  cases i with
  | dispatch x => exact absurd rfl (hno x)
  | publish x =>
    cases he
    dsimp only
    split <;> rfl
  | bump => cases he; rfl
  | notifyOne => cases he; rfl
  | say => cases he; rfl
  | invoke => cases he; rfl
  | reply => cases he; rfl
  | release => cases he; rfl
  | _ => cases hi

section Dispatching

variable {u : Setup ι} {t : ThreadId} {x : QueueException} {frame : List (Instr ι)} {s s₁ s' : State ι}
  {c : Choice ι} {cs : List (Choice ι)} {p : List (Instr ι)} {i : Instr ι}

theorem Dispatched.execute (h : Dispatched u t x frame s₁ cs s) : Queue.execute u s₁ cs = some s := by
  obtain ⟨takes, run, -, -, -, step, rest, -⟩ := h
  simp [execute_append, takes.run, takes.step, run, step, rest]

theorem Dispatching.execute (h : Dispatching u t x frame s₁ cs s p) : Queue.execute u s₁ cs = some s := by
  cases h with
  | counting run => exact run
  | calling takes run => simp [execute_append, takes.run, takes.step, run]
  | told done => exact done.execute

/-- A report begins with all of it still to do. -/
theorem Dispatching.begin : Dispatching u t x frame s₁ [] s₁ (raise x) :=
  .counting (w := [.bump (counterOf x.kind) 1]) rfl rfl (raise_vocal x)

/-- What is not heard may be added to what is left of a report. -/
theorem Dispatching.prepend (h : Dispatching u t x frame s₁ cs s p) {k : List (Instr ι)}
    (hk : k.filter Instr.isVocal = []) : Dispatching u t x frame s₁ cs s (k ++ p) := by
  have hleft : (k ++ p).filter Instr.isVocal = p.filter Instr.isVocal := vocal_append hk
  cases h with
  | counting run counted left => exact .counting run counted (hleft.trans left)
  | calling takes run called left => exact .calling takes run called (hleft.trans left)
  | told done left => exact .told done (hleft.trans left)

/-- A step of which nothing is heard leaves a report where it is. -/
theorem Dispatching.silent (h : Dispatching u t x frame s₁ cs s p) (hs : step u s c = some s')
    (hquiet : heard u t frame s [c] = []) : Dispatching u t x frame s₁ (cs ++ [c]) s' p := by
  have hmore : ∀ {s₀ cs₀}, Queue.execute u s₀ cs₀ = some s →
      heard u t frame s₀ (cs₀ ++ [c]) = heard u t frame s₀ cs₀ := fun he => by
    rw [heard_concat he hs, hquiet, List.append_nil]
  cases h with
  | counting run counted left => exact .counting (execute_concat.2 ⟨s, run, hs⟩) ((hmore run).symm ▸ counted) left
  | calling takes run called left =>
    rw [List.append_assoc, List.cons_append]
    exact .calling takes (execute_concat.2 ⟨s, run, hs⟩) ((hmore run).symm ▸ called) left
  | told done left =>
    obtain ⟨takes, run, called, nested, speaks, step, rest, silent⟩ := done
    refine .told ?_ left
    have hcs : ∀ {ca cb cc : List (Choice ι)} {c₁ c₂ : Choice ι},
        (ca ++ c₁ :: (cb ++ c₂ :: cc)) ++ [c] = ca ++ c₁ :: (cb ++ c₂ :: (cc ++ [c])) := by simp
    rw [hcs]
    exact .mk takes run called nested speaks step (execute_concat.2 ⟨s, rest, hs⟩) ((hmore rest).trans silent)

/-- What is not heard may go from what is left of a report. -/
theorem Dispatching.drop (h : Dispatching u t x frame s₁ cs s (i :: p)) (hi : i.isVocal = false) :
    Dispatching u t x frame s₁ cs s p := by
  have hleft : (i :: p).filter Instr.isVocal = p.filter Instr.isVocal := List.filter_cons_of_neg (by simp [hi])
  cases h with
  | counting run counted left => exact .counting run counted (hleft.symm.trans left)
  | calling takes run called left => exact .calling takes run called (hleft.symm.trans left)
  | told done left => exact .told done (hleft.symm.trans left)

/-- The thread takes the list of callbacks, and has them all to call. -/
theorem Dispatching.take (run : Queue.execute u s₁ cs = some s)
    (counted : heard u t frame s₁ cs = [.bump (counterOf x.kind) 1]) (speaks : Speaks t frame (.dispatch x) c s)
    (hs : step u s c = some s') (left : p.filter Instr.isVocal = [.publish (.ofException x)]) :
    Dispatching u t x frame s₁ (cs ++ [c]) s' (s.shared.callbacks.map (Instr.invoke · x) ++ p) := by
  have hcalls : (s.shared.callbacks.map (Instr.invoke (ι := ι) · x)).filter Instr.isVocal =
      s.shared.callbacks.map (Instr.invoke · x) := List.filter_eq_self.2 fun j hj => by
    obtain ⟨k, -, rfl⟩ := List.mem_map.1 hj
    rfl
  have htakes : Takes u t x frame s₁ cs s c s' := ⟨run, counted, speaks, hs⟩
  refine .calling htakes execute_nil (w := s.shared.callbacks.map (Instr.invoke · x)) rfl ?_
  rw [List.filter_append, hcalls, left]

/-- The thread publishes the event, when it has published the events of all that it has raised meanwhile. -/
theorem Dispatching.publish {ca cb : List (Choice ι)} {c₀ : Choice ι} {sa sb : State ι}
    (takes : Takes u t x frame s₁ ca sa c₀ sb) (run : Queue.execute u sb cb = some s)
    (called : heard u t frame sb cb = sa.shared.callbacks.map (Instr.invoke · x)) (hr : Reachable u s₁)
    (hraise : stackAt s₁.stacks t = raise x ++ frame)
    (hst : stackAt s.stacks t = .publish (.ofException x) :: (p ++ frame))
    (speaks : Speaks t frame (.publish (.ofException x)) c s) (hs : step u s c = some s')
    (left : p.filter Instr.isVocal = []) : Dispatching u t x frame s₁ (ca ++ c₀ :: cb ++ [c]) s' p := by
  have he : Queue.execute u s₁ (ca ++ c₀ :: cb) = some s := by simp [execute_append, takes.run, takes.step, run]
  have hdue : (stackAt s₁.stacks t).filterMap Instr.reporting? = [] ++ (x :: frame.filterMap Instr.reporting?) := by
    rw [hraise, List.filterMap_append, reports_raise]
    rfl
  have hrest : (stackAt s.stacks t).filterMap Instr.reporting? = x :: frame.filterMap Instr.reporting? := by
    have hcons : Instr.reporting? (.publish (.ofException x) : Instr ι) = some x := rfl
    rw [hst, List.filterMap_cons_some hcons, List.filterMap_append, Instr.reporting_eq_nil left, List.nil_append]
  have hcs : ca ++ c₀ :: cb ++ [c] = ca ++ c₀ :: (cb ++ c :: []) := by simp
  rw [hcs]
  exact .told (.mk takes run called (hr.reported_since he hdue hrest) speaks hs rfl rfl) left

/-- The thread performs what comes next of a report. -/
theorem Dispatching.speak {e : Effect ι} (h : Dispatching u t x frame s₁ cs s (i :: p)) (hr : Reachable u s₁)
    (hraise : stackAt s₁.stacks t = raise x ++ frame) (hs : step u s c = some s') (speaks : Speaks t frame i c s)
    (hperf : Performs u t i (p ++ frame) e ⟨s, s'⟩) (hi : i.isErrand = true) :
    Dispatching u t x frame s₁ (cs ++ [c]) s' (e.push ++ p) := by
  have hheard := speaks.heard hs
  obtain ⟨held, he, -⟩ := hperf.reply
  cases hvocal : i.isVocal with
  | false =>
    have hno : ∀ y, i ≠ .dispatch y := by
      rintro y rfl
      cases hvocal
    rw [List.filter_cons_of_neg (by simp [hvocal]), List.filter_nil] at hheard
    exact ((h.drop hvocal).silent hs hheard).prepend (mute_of_perform hi hno he)
  | true =>
    have hcons : (i :: p).filter Instr.isVocal = i :: p.filter Instr.isVocal := List.filter_cons_of_pos hvocal
    rw [List.filter_cons_of_pos hvocal, List.filter_nil] at hheard
    have hmore : ∀ {s₀ cs₀ w}, Queue.execute u s₀ cs₀ = some s →
        heard u t frame s₀ (cs₀ ++ [c]) ++ w = heard u t frame s₀ cs₀ ++ i :: w := fun he => by
      rw [heard_concat he hs, hheard, List.append_assoc, List.singleton_append]
    cases h with
    | @counting _ _ _ w run counted left =>
      cases w with
      | nil =>
        obtain ⟨rfl, hleft⟩ := List.cons.inj (hcons.symm.trans left)
        rw [List.append_nil] at counted
        cases he
        exact .take run counted speaks hs hleft
      | cons b w =>
        obtain ⟨rfl, hleft⟩ := List.cons.inj (hcons.symm.trans left)
        have hb : i = .bump (counterOf x.kind) 1 := by
          have hin : i ∈ heard u t frame s₁ cs ++ i :: w := by simp
          rwa [counted, List.mem_singleton] at hin
        have hmute := mute_of_perform hi (by simp [hb]) he
        refine .counting (execute_concat.2 ⟨s, run, hs⟩) ((hmore run).trans counted) ?_
        exact (vocal_append hmute).trans hleft
    | @calling ca cb c₀ sa sb _ _ w takes run called left =>
      cases w with
      | nil =>
        obtain ⟨rfl, hleft⟩ := List.cons.inj (hcons.symm.trans left)
        rw [List.append_nil] at called
        have hpublish := Dispatching.publish takes run called hr hraise hperf.before speaks hs hleft
        exact hpublish.prepend (mute_of_perform hi (by simp) he)
      | cons k w =>
        obtain ⟨rfl, hleft⟩ := List.cons.inj (hcons.symm.trans left)
        obtain ⟨k, hk⟩ : ∃ k, i = .invoke k x := by
          have hin : i ∈ heard u t frame sb cb ++ i :: w := by simp
          rw [called] at hin
          obtain ⟨k, -, hk⟩ := List.mem_map.1 hin
          exact ⟨k, hk.symm⟩
        have hmute := mute_of_perform hi (by simp [hk]) he
        rw [List.append_assoc, List.cons_append]
        refine .calling takes (execute_concat.2 ⟨s, run, hs⟩) ((hmore run).trans called) ?_
        exact (vocal_append hmute).trans hleft
    | told done left =>
      rw [hcons] at left
      cases left

end Dispatching

/-! ## How far a report has come -/

/-- A report is under way in a run from `s₁`: the thread has `p` of it still to do, perhaps under the code of a
callback. -/
inductive Underway (u : Setup ι) (t : ThreadId) (x : QueueException) (frame : List (Instr ι)) (s₁ : State ι)
    (cs : List (Choice ι)) (s : State ι) : Prop
  | mk {q p : List (Instr ι)} (report : Dispatching u t x frame s₁ cs s p)
      (hst : stackAt s.stacks t = q ++ (p ++ frame))
      (hq : q = [] ∨ ∃ q' j, q = q' ++ [j] ∧ j.calledFor?.isSome = true) (hp : ∀ j ∈ p, j.isErrand = true)

section Underway

variable {u : Setup ι} {t : ThreadId} {x : QueueException} {frame : List (Instr ι)} {s s₁ s' : State ι}
  {c : Choice ι} {cs : List (Choice ι)}

theorem Underway.begin (hraise : stackAt s₁.stacks t = raise x ++ frame) : Underway u t x frame s₁ [] s₁ :=
  .mk (q := []) .begin hraise (.inl rfl) (by simp [raise, Instr.isErrand, Instr.isNews])

/-- A step of the thread itself: it goes on with the report, or with the code of a callback. -/
theorem Underway.turn {i : Instr ι} {rest : List (Instr ι)} {e : Effect ι} (h : Underway u t x frame s₁ cs s)
    (hr : Reachable u s₁) (hraise : stackAt s₁.stacks t = raise x ++ frame) (hs : Queue.step u s c = some s')
    (hc : c.isOf t = true) (hperf : Performs u t i rest e ⟨s, s'⟩) (hback : stackAt s.stacks t ≠ frame) :
    Underway u t x frame s₁ (cs ++ [c]) s' := by
  obtain ⟨report, hst, hq, hp⟩ := h
  rename_i q p
  have hbefore : stackAt s.stacks t = i :: rest := hperf.before
  cases q with
  | nil =>
    cases p with
    | nil => exact absurd hst hback
    | cons j p =>
      obtain ⟨rfl, rfl⟩ := List.cons.inj (hbefore.symm.trans hst)
      have herrand := hp i List.mem_cons_self
      have hrest : ∀ j ∈ p, j.isErrand = true := fun k hk => hp k (List.mem_cons_of_mem _ hk)
      have hspeak := report.speak hr hraise hs ⟨hc, p, hbefore, hp⟩ hperf herrand
      have hafter := hperf.after
      rcases (hperf.errand herrand).2.2 with ⟨-, j, hpush, hj⟩ | hpush
      · -- a callback is called
        have hmute : j.isVocal = false := by
          cases j with
          | run => rfl
          | resume => rfl
          | _ => cases hj
        rw [hpush] at hspeak hafter
        exact .mk (q := [j]) (hspeak.drop hmute) hafter (.inr ⟨[], j, rfl, hj⟩) hrest
      · refine .mk (q := []) hspeak (by rw [hafter]; simp) (.inl rfl) fun k hk => ?_
        rcases List.mem_append.1 hk with hk | hk
        · exact (hpush k hk).1
        · exact hrest k hk
  | cons j q =>
    obtain ⟨rfl, rfl⟩ := List.cons.inj (hbefore.symm.trans hst)
    have hcode := hq.resolve_left (List.cons_ne_nil _ _)
    have hquiet : heard u t frame s [c] = [] := heard_aside (by rw [hst]; exact inCallback_of_code hcode)
    have hsilent := report.silent hs hquiet
    rcases hperf.code hcode with ⟨q', hafter, hq'⟩ | ⟨k, hafter, hk⟩
    · exact .mk hsilent hafter (.inr hq') hp
    · have hmute : k.filter Instr.isVocal = [] := List.filter_eq_nil_iff.2 fun j hj => by
        obtain ⟨n, rfl⟩ := hk j hj
        exact Bool.false_ne_true
      refine .mk (q := []) (hsilent.prepend hmute) (by rw [hafter]; simp) (.inl rfl) fun j hj => ?_
      rcases List.mem_append.1 hj with hj | hj
      · obtain ⟨n, rfl⟩ := hk j hj
        rfl
      · exact hp j hj

/-- A step of the others leaves a report where it is. -/
theorem Underway.other (h : Underway u t x frame s₁ cs s) (hs : Queue.step u s c = some s') (hc : c.isOf t = false)
    (hback : stackAt s.stacks t ≠ frame) : Underway u t x frame s₁ (cs ++ [c]) s' := by
  obtain ⟨report, hst, hq, hp⟩ := h
  rename_i q p
  have hsilent := report.silent hs (heard_other hc)
  rcases hq with rfl | hcode
  · cases p with
    | nil => exact absurd hst hback
    | cons j p =>
      rcases stackAt_of_other hs hc (by simp [hst]) with heq | ⟨role, label, rest, script, heq, -⟩
      · exact .mk (q := []) hsilent (heq.trans hst) (.inl rfl) hp
      · rw [hst] at heq
        obtain ⟨rfl, -⟩ := List.cons.inj heq
        cases hp _ List.mem_cons_self
  · obtain ⟨q', hst', hq'⟩ := code_of_other hs hc hcode hst
    exact .mk hsilent hst' (.inr hq') hp

/-- One step of a run brings a report on, or leaves it where it is. -/
theorem Underway.step (h : Underway u t x frame s₁ cs s) (hr : Reachable u s₁)
    (hraise : stackAt s₁.stacks t = raise x ++ frame) (hs : Queue.step u s c = some s')
    (hback : stackAt s.stacks t ≠ frame) : Underway u t x frame s₁ (cs ++ [c]) s' := by
  by_cases hc : c.isOf t = true
  · obtain ⟨i, rest, e, hperf⟩ := performs_of_turn hs hc
    exact h.turn hr hraise hs hc hperf hback
  · exact h.other hs (by simpa using hc) hback

/-- From wherever it has come to, a report comes back, unless its thread strays. -/
theorem Underway.comes (h : Underway u t x frame s₁ cs s) (hr : Reachable u s)
    (hnested : NestedOver frame (stackAt s.stacks t)) (d : Nat) :
    Comes u t (fun s' => stackAt s'.stacks t = frame ∨ s'.Strays u t frame d) s := by
  obtain ⟨-, hst, hq, hp⟩ := h
  rename_i q p
  obtain ⟨r, hr', hall⟩ := hnested
  obtain rfl : q ++ p = r := List.append_cancel_right (by rw [List.append_assoc, ← hst, hr'])
  exact comes_of_nested hr hst hq (fun j hj => hall j (List.mem_append_left _ hj)) hp d

/-- A report that is back is done. -/
theorem Underway.dispatched (h : Underway u t x frame s₁ cs s) (hback : stackAt s.stacks t = frame) :
    Dispatched u t x frame s₁ cs s := by
  obtain ⟨report, hst, -, -⟩ := h
  rename_i q p
  rw [hback, ← List.append_assoc] at hst
  obtain ⟨-, rfl⟩ := List.append_eq_nil_iff.1 (List.append_left_eq_self.1 hst.symm)
  cases report with
  | counting _ _ left => simp at left
  | calling _ _ _ left => simp at left
  | told done => exact done

/-- The step that raises an exception leaves its whole report to do. -/
theorem raise_of_step {sleeper : Option ThreadId} (hr : Reachable u s) (hs : Queue.step u s (.run t sleeper) = some s')
    (hraise : s'.shared.raisings = s.shared.raisings ++ [(t, x)]) :
    ∃ frame, stackAt s'.stacks t = raise x ++ frame := by
  obtain ⟨i, rest, e, hperf⟩ := performs_of_step hs
  obtain ⟨held, he, -⟩ := hperf.reply
  have hproper : i.isProper = true := by
    have htop : i ∈ stackAt s.stacks t := by
      rw [show stackAt s.stacks t = i :: rest from hperf.before]
      exact List.mem_cons_self
    obtain ⟨st, hst, hi⟩ := mem_of_stackAt htop
    exact hr.proper st hst i hi
  have hvoice := voice_of_perform hproper he
  have hreports : e.push.filterMap Instr.reporting? = [x] := by
    have heq := hraise
    rw [show s'.shared = e.shared from hperf.shared, hvoice.raisings] at heq
    have hmap := congrArg (onThread t) (List.append_cancel_left heq)
    rw [onThread_self] at hmap
    simpa [onThread] using hmap
  obtain ⟨more, hmore⟩ := hvoice.raise_of_reports hreports
  exact ⟨more ++ rest, by rw [hperf.after, hmore, List.append_assoc]⟩

/-- Whatever the callbacks and the other threads do, in each run the report of an exception is either not back yet or
has come back. As long as it is not back, it has called so far the first callbacks of the list that its dispatch took,
and finitely many steps of its thread bring it back, unless the code of a callback halts or nests callbacks without
bound. When it has come back, it has called the whole list before it has published the event of the exception, once,
with those of the exceptions raised meanwhile out before it. The list is that of the callbacks registered when it was
taken: of the setup and then of all registrations up to there, in order. -/
theorem dispatch_exact {cs₀ : List (Choice ι)} {s₀ : State ι} {sleeper : Option ThreadId}
    (he₀ : execute u u.start cs₀ = some s₀) (hs : step u s₀ (.run t sleeper) = some s₁)
    (hraise : s₁.shared.raisings = s₀.shared.raisings ++ [(t, x)]) :
    ∃ frame, stackAt s₁.stacks t = raise x ++ frame ∧
      ∀ cs s, execute u s₁ cs = some s →
        s.shared.callbacks = u.callbacks ++ registered (deeds u u.start (cs₀ ++ .run t sleeper :: cs)) ∧
        (Away u t frame s₁ cs ∧ Underway u t x frame s₁ cs s ∧
          (∀ d, Comes u t (fun s' => stackAt s'.stacks t = frame ∨ s'.Strays u t frame d) s) ∨
          ∃ cs₁ c cs₂ s', cs = cs₁ ++ c :: cs₂ ∧ Away u t frame s₁ cs₁ ∧ execute u s₁ (cs₁ ++ [c]) = some s' ∧
            stackAt s'.stacks t = frame ∧ Dispatched u t x frame s₁ (cs₁ ++ [c]) s' ∧
            Reported t [x] s₁.shared s'.shared) := by
  have hr₀ := Reachable.start.execute he₀
  have hr := hr₀.step hs
  obtain ⟨frame, hst⟩ := raise_of_step hr₀ hs hraise
  refine ⟨frame, hst, fun cs s he => ⟨?_, ?_⟩⟩
  · have hall : execute u u.start (cs₀ ++ .run t sleeper :: cs) = some s := by simp [execute_append, he₀, hs, he]
    exact callbacks_of_execute hall
  have hout : stackAt s₁.stacks t ≠ frame := by
    intro heq
    cases List.append_left_eq_self.1 (hst.symm.trans heq)
  have hnested : NestedOver frame (stackAt s₁.stacks t) :=
    ⟨raise x, hst, by simp [raise, Instr.isNested, Instr.tier?]⟩
  rcases away_or_back (P := fun cs s => Underway u t x frame s₁ cs s ∧ NestedOver frame (stackAt s.stacks t))
      ⟨.begin hst, hnested⟩ hout he
      fun _ _ hs hback h => ⟨h.1.step hr hst hs hback, nestedOver_of_step hs h.2 hback⟩ with
    ⟨haway, h, hnested⟩ | ⟨cs₁, c, cs₂, s', hcs, haway, he₁, hback, h, -⟩
  · exact .inl ⟨haway, h, h.comes (hr.execute he) hnested⟩
  · refine .inr ⟨cs₁, c, cs₂, s', hcs, haway, he₁, hback, h.dispatched hback, ?_⟩
    have hdue : (stackAt s₁.stacks t).filterMap Instr.reporting? = [x] ++ frame.filterMap Instr.reporting? := by
      rw [hst, List.filterMap_append, reports_raise]
    exact hr.reported_since he₁ hdue (by rw [hback])

/-- The sample queue with two callbacks. The first one, when it is called for the first time, registers a third and then
adds an item; the second one panics. -/
def sampleListeners : Setup Nat :=
  { sample with
    callbacks := [0, 1]
    code :=
      { sample.code with
        callback := fun c n _ =>
          match c, n with
          | 0, 0 => .call (.onException 2) fun _ => .just (.add .owner 8 none)
          | 1, _ => .ret (.panicked .other)
          | _, _ => .done } }

/-- A client ends adding, and is about to have an item refused. -/
def sampleClosed : List (Choice Nat) :=
  .spawn (.call .completeAdding fun _ => .just (.add .owner 7 none)) :: runs 1 14

/-- The refusal of the client's item goes to the first callback, whose own item is refused; that goes to all three
callbacks, and is published, before the second callback is called for the client's item. -/
theorem sample_dispatch_exact :
    ∃ s₁ s frame, step sampleListeners (after sampleListeners sampleClosed) (.run 1 none) = some s₁ ∧
      execute sampleListeners s₁ (runs 1 27) = some s ∧
      s.shared.raisings = List.replicate 2 (1, ⟨.add, "sample", .queue .addingCompleted⟩) ∧
      s.shared.calls.map (fun p => p.2.1) = [0, 0, 1, 2, 1] ∧ s.shared.callbacks = [0, 1] ++ [2] ∧
      stackAt s₁.stacks 1 = raise ⟨.add, "sample", .queue .addingCompleted⟩ ++ frame ∧
      ∃ cs₁ c cs₂ s', runs 1 27 = cs₁ ++ c :: cs₂ ∧ stackAt s'.stacks 1 = frame ∧
        Dispatched sampleListeners 1 ⟨.add, "sample", .queue .addingCompleted⟩ frame s₁ (cs₁ ++ [c]) s' := by
  have he₀ : execute sampleListeners sampleListeners.start sampleClosed = some (after sampleListeners sampleClosed) :=
    rfl
  have hs : step sampleListeners (after sampleListeners sampleClosed) (.run 1 none) =
      some (after sampleListeners (sampleClosed ++ [.run 1 none])) := rfl
  have he : execute sampleListeners (after sampleListeners (sampleClosed ++ [.run 1 none])) (runs 1 27) =
      some (after sampleListeners (sampleClosed ++ .run 1 none :: runs 1 27)) := rfl
  obtain ⟨frame, hst, hall⟩ := dispatch_exact (x := ⟨.add, "sample", .queue .addingCompleted⟩) he₀ hs rfl
  refine ⟨_, _, frame, hs, he, rfl, rfl, rfl, hst, ?_⟩
  rcases (hall _ _ he).2 with ⟨haway, -⟩ | ⟨cs₁, c, cs₂, s', hcs, -, -, hback, hdone, -⟩
  · have hframe : frame = [.reply .unit, .resume .client fun r => .ret (.returned r)] :=
      List.append_cancel_left hst.symm
    exact absurd hframe.symm (haway _ _ (List.prefix_refl _) he)
  · exact ⟨cs₁, c, cs₂, s', hcs, hback, hdone⟩

end Underway

end Conveyor.Queue
