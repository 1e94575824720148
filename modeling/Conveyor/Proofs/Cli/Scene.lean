import Conveyor.Proofs.Cli.Cast

/-!
# Scenes of an undisturbed job

What the threads of a job share at each of its stages (`Scene`), and which part each thread has in each phase (`Part`), as
long as no signal arrives. Whatever a thread performs in its part is apt for the stage (`Part.apt`), and keeps the scene
and the parts of all threads.

* `Scene.perform`, `Part.perform`, `Part.frame`: what performing an instruction keeps.
-/

namespace Conveyor.Cli.Job

open Queue

/-! ## Phases -/

/-- How far the main task has come with a phase. -/
@[simp] def Phase.stage : Phase → Nat
  | .opening => 0
  | .gathering _ => 1
  | .completing => 2
  | .draining => 3
  | .decided _ => 4
  | .closing _ => 5
  | .collecting _ => 6
  | .observing .. => 7
  | .counting .. => 8
  | .leaving _ => 9
  | .ended _ => 10
  | .disposing _ | .failed _ | .killed => 11

/-- Whether an undisturbed job comes to a phase. -/
def Phase.isDue : Phase → Bool
  | .opening | .gathering _ | .completing | .draining => true
  | .decided o | .closing o | .collecting o | .observing o _ | .counting o _ | .leaving o | .ended o => o = .drained
  | .disposing _ | .failed _ | .killed => false

/-- How many of `n` producers the main task knows to have ended; `none` as long as they have not begun. -/
def Phase.gathered (n : Nat) : Phase → Option Nat
  | .opening => none
  | .gathering next => some next
  | _ => some n

/-- The statistics of an undisturbed job when it has drained. -/
def balance (j : Job) : Stats :=
  let failures := j.workload.expectedFailures.getD 0
  { enqueued := j.workload.items, processed := j.workload.items - failures, failed := failures }

/-! ## Parts -/

variable (j : Job)

/-- Where the main task stands in a phase: its stack, and the reply it holds. -/
def Leads (sh : Shared Nat) (st : List (Instr Nat)) (r : Reply Nat) : Phase → Prop
  | .opening | .gathering _ | .collecting _ | .observing .. => Plays j.setup.workers .talk false st
  | .completing => Completing j.setup.workers sh st r
  | .draining | .decided _ | .closing _ => st = [.run .client atRest]
  | .counting .. => Tallying j.balance st r
  | .leaving _ | .ended _ => Plays j.setup.workers .parting true st
  | .disposing _ | .failed _ | .killed => False

/-- Where a producer stands that waits to begin, or of which is known whether it has ended. -/
def Produces (sh : Shared Nat) (index : Nat) (st : List (Instr Nat)) (r : Reply Nat) (o : Option (Ending Nat)) :
    Option Nat → Prop
  | none => st = [.run .client atRest] ∧ onThread (j.producer index) sh.acceptances = []
  | some gathered => ∃ ids, Feeding ids st r o ∧
      onThread (j.producer index) sh.acceptances ++ ids = j.workload.stripe index ∧ (index < gathered → st = [])

/-- Where the observer of exceptions stands. -/
def Watches (stage : Nat) (st : List (Instr Nat)) : Prop :=
  if stage < 7 then st = [.run .client atRest] else Plays j.setup.workers .talk true st

/-- The part of a thread in a phase: its stack, the reply it holds, and how it ended. -/
structure Part (ph : Phase) (sh : Shared Nat) (t : ThreadId) (st : List (Instr Nat)) (r : Reply Nat)
    (o : Option (Ending Nat)) : Prop where
  worker : t < j.setup.workers → ∀ i ∈ st, Toils j.workload i
  main : t = j.mainThread → Leads j sh st r ph
  producer : ∀ index < j.workload.producers, t = j.producer index →
    Produces j sh index st r o (ph.gathered j.workload.producers)
  observer : t = j.observer → Watches j ph.stage st

/-- What the threads share at a stage. -/
structure Scene (stage : Nat) (sh : Shared Nat) : Prop where
  poisoned : sh.buffer.poisoned = false
  callbacks : sh.callbacks = []
  cancelled : sh.cancelled = []
  workers : ∀ t ∈ sh.handles, t < j.setup.workers
  handles : sh.handles.length ≤ j.setup.workers
  rejected : sh.counters.rejected = 0
  endings : ∀ p ∈ sh.endings, p.2.2.isSuccess = j.workload.succeeds p.2.1
  producers : ∀ p ∈ sh.acceptances, ∃ index < j.workload.producers, p.1 = j.producer index
  adding : stage < 2 → sh.buffer.value.addingCompleted = false
  added : 3 ≤ stage → sh.buffer.value.addingCompleted = true
  disposed : stage < 9 → sh.buffer.value.disposed = false
  owned : stage < 9 → sh.owned = true
  drained : 4 ≤ stage → sh.result = some true

variable {j}

/-! ## What the threads may perform -/

/-- What may be performed at a stage. -/
def Fits (w : Workload) (stage : Nat) : Instr Nat → Prop
  | .run (.handler id) (.ret e) => e.isSuccess = w.succeeds id
  | .bump c _ => c ≠ .rejected
  | .completeAdding => 2 ≤ stage
  | .dispose | .takeHandles | .disown => 9 ≤ stage
  | .cancel _ | .register _ | .pendingItems | .invoke .. => False
  | _ => True

variable (j) in
/-- What is known of the next instruction of a thread that holds a reply. -/
structure Apt (stage : Nat) (t : ThreadId) (i : Instr Nat) (held : Reply Nat) : Prop where
  fits : Fits j.workload stage i
  bid : i.bid?.isSome = true → ∃ index < j.workload.producers, t = j.producer index
  effort : ∀ role next w k, i = .resume role next → (next held).effort w k ≤ (next .unit).effort w k

section Apt

variable {stage : Nat} {t : ThreadId} {i : Instr Nat} {held : Reply Nat} {n : Nat} {c : Chore} {ends : Bool}
  {rest : List (Instr Nat)} {sh : Shared Nat} {b : Stats} {ids : List Nat} {o : Option (Ending Nat)} {ph : Phase}

/-- Most instructions are neither bids nor client code. -/
theorem apt_of_fits (hfits : Fits j.workload stage i) (hbid : i.bid? = none) (hcode : ∀ role next, i ≠ .resume role next) :
    Apt j stage t i held :=
  ⟨hfits, by simp [hbid], fun role next _ _ h => absurd h (hcode role next)⟩

theorem apt_of_toils (h : Toils j.workload i) : Apt j stage t i held := by
  cases i with
  | run role script =>
    obtain ⟨id, rfl, hscript⟩ := h
    refine apt_of_fits ?_ rfl (by simp)
    cases script with
    | ret e =>
      rcases hscript with hscript | ⟨hok, hscript⟩
      · unfold Workload.handler at hscript
        split at hscript <;> cases hscript <;> rename_i hfail <;>
          simp [Fits, Ending.isSuccess, Workload.succeeds, hfail]
      · cases hscript
        simp [Fits, Ending.isSuccess, hok]
    | call c next => trivial
    | pause label => trivial
  | resume role next =>
    obtain ⟨id, rfl, hok, rfl⟩ := h
    refine ⟨trivial, by simp [Instr.bid?], ?_⟩
    rintro role next w k heq
    cases heq
    rfl
  | bump c m => exact apt_of_fits (by rcases h with rfl | rfl <;> simp [Fits]) rfl (by simp)
  | _ => first | (cases h; done) | exact apt_of_fits trivial rfl (by simp)

theorem apt_of_allows (hc : c = .parting → 9 ≤ stage) (h : c.allows n i = true) : Apt j stage t i held := by
  cases i with
  | bump k m =>
    refine apt_of_fits ?_ rfl (by simp)
    cases c <;> simp [Chore.allows] at h
    rw [h]
    simp [Fits]
  | dispose => cases c <;> cases h; exact apt_of_fits (hc rfl) rfl (by simp)
  | takeHandles => cases c <;> cases h; exact apt_of_fits (hc rfl) rfl (by simp)
  | disown => cases c <;> cases h; exact apt_of_fits (hc rfl) rfl (by simp)
  | _ => first | (cases c <;> cases h; done) | exact apt_of_fits trivial rfl (by simp)

/-- Client code that goes on. -/
theorem apt_of_run {script : Script Nat} : Apt j stage t (.run .client script) held :=
  apt_of_fits trivial rfl (by simp)

theorem apt_of_resume {next : Reply Nat → Script Nat}
    (h : ∀ w k, (next held).effort w k ≤ (next .unit).effort w k) : Apt j stage t (.resume .client next) held := by
  refine ⟨trivial, by simp [Instr.bid?], ?_⟩
  rintro role next' w k heq
  cases heq
  exact h w k

theorem apt_of_plays (hc : c = .parting → 9 ≤ stage) (h : Plays n c ends (i :: rest)) : Apt j stage t i held := by
  generalize hst : i :: rest = st at h
  cases h with
  | run => cases hst; exact apt_of_run
  | @call p next hp hnext heffort =>
    cases p with
    | nil => cases hst; exact apt_of_resume fun w k => (heffort held w k).le
    | cons i' p => cases hst; exact apt_of_allows hc (hp i List.mem_cons_self)
  | ended => cases hst

theorem apt_of_completing (hstage : 2 ≤ stage) (h : Completing n sh (i :: rest) held) : Apt j stage t i held := by
  generalize hst : i :: rest = st at h
  cases h with
  | asking => cases hst; exact apt_of_run
  | asked => cases hst; exact apt_of_fits hstage rfl (by simp)
  | @heard p _ _ hp =>
    cases p with
    | nil => cases hst; exact apt_of_resume fun _ _ => Nat.le_refl _
    | cons i' p => cases hst; exact apt_of_allows (by simp) (hp i List.mem_cons_self)
  | done => cases hst; exact apt_of_run

theorem apt_of_tallying (h : Tallying b (i :: rest) held) : Apt j stage t i held := by
  generalize hst : i :: rest = st at h
  cases h with
  | asking => cases hst; exact apt_of_run
  | asked => cases hst; exact apt_of_fits trivial rfl (by simp)
  | @reading p _ hp =>
    cases p with
    | nil => cases hst; exact apt_of_resume fun _ _ => Nat.le_refl _
    | cons i' p =>
      cases hst
      obtain ⟨c, rfl⟩ := hp i List.mem_cons_self
      exact apt_of_fits trivial rfl (by simp)
  | read => cases hst; exact apt_of_run

theorem apt_of_feeding (ht : ∃ index < j.workload.producers, t = j.producer index) (h : Feeding ids (i :: rest) held o) :
    Apt j stage t i held := by
  generalize hst : i :: rest = st at h
  cases h with
  | run => cases hst; exact apt_of_run
  | asking => cases hst; exact ⟨trivial, fun _ => ht, by simp⟩
  | asked hsame => cases hst; exact apt_of_resume fun w k => hsame ▸ Nat.le_refl _
  | lifting => cases hst; exact ⟨trivial, fun _ => ht, by simp⟩
  | bidding hi =>
    cases hst
    rcases hi with rfl | rfl <;> exact ⟨trivial, fun _ => ht, by simp⟩
  | @accepted _ next _ _ p hp hr =>
    cases p with
    | nil =>
      cases hst
      rcases hr with hr | rfl
      · cases hr
      · exact apt_of_resume fun _ _ => Nat.le_refl _
    | cons i' p =>
      cases hst
      have hreceipt := hp i List.mem_cons_self
      refine ⟨?_, fun _ => ht, ?_⟩
      · cases i <;> simp_all [isReceipt, Fits]
      · rintro role next' w k rfl
        cases hreceipt
  | ended => cases hst

theorem producer_lt {index : Nat} (h : index < j.workload.producers) :
    j.producer index < j.setup.workers + 1 + j.workload.producers + 1 := by
  show (j.setup.workers + 1 + index : Nat) < j.setup.workers + 1 + j.workload.producers + 1
  omega

theorem producer_inj {index index' : Nat} (h : j.producer index = j.producer index') : index = index' :=
  Nat.add_left_cancel h

theorem producer_ne_main (index : Nat) : j.producer index ≠ j.mainThread := by
  show (j.setup.workers + 1 + index : Nat) ≠ j.setup.workers
  omega

theorem producer_ne_observer {index : Nat} (h : index < j.workload.producers) : j.producer index ≠ j.observer := by
  show (j.setup.workers + 1 + index : Nat) ≠ j.setup.workers + 1 + j.workload.producers
  omega

theorem main_ne_observer : j.mainThread ≠ j.observer := by
  show (j.setup.workers : Nat) ≠ j.setup.workers + 1 + j.workload.producers
  omega

theorem not_observer_lt : ¬ j.observer < j.setup.workers := by
  show ¬ (j.setup.workers + 1 + j.workload.producers : Nat) < j.setup.workers
  omega

theorem not_producer_lt (index : Nat) : ¬ j.producer index < j.setup.workers := by
  show ¬ (j.setup.workers + 1 + index : Nat) < j.setup.workers
  omega

/-- The threads of a job. -/
theorem thread_cases {t : Nat} (h : t < j.setup.workers + 1 + j.workload.producers + 1) :
    t < j.setup.workers ∨ t = j.mainThread ∨ (∃ index < j.workload.producers, t = j.producer index) ∨
      t = j.observer := by
  unfold mainThread producer observer
  by_cases hw : t < j.setup.workers
  · exact .inl hw
  by_cases hm : t = j.setup.workers
  · exact .inr (.inl hm)
  by_cases ho : t = j.setup.workers + 1 + j.workload.producers
  · exact .inr (.inr (.inr ho))
  · exact .inr (.inr (.inl ⟨t - (j.setup.workers + 1), by omega, by omega⟩))

/-- Whatever the part of a thread, its next instruction is apt. -/
theorem Part.apt (h : Part j ph sh t (i :: rest) held o) (ht : t < j.setup.workers + 1 + j.workload.producers + 1) :
    Apt j ph.stage t i held := by
  rcases thread_cases ht with hw | rfl | ⟨index, hindex, rfl⟩ | rfl
  · exact apt_of_toils (h.worker hw i List.mem_cons_self)
  · have hmain := h.main rfl
    cases ph with
    | completing => exact apt_of_completing (by decide) hmain
    | draining => cases hmain; exact apt_of_run
    | decided => cases hmain; exact apt_of_run
    | closing => cases hmain; exact apt_of_run
    | counting => exact apt_of_tallying hmain
    | leaving => exact apt_of_plays (fun _ => by simp) hmain
    | ended => exact apt_of_plays (fun _ => by simp) hmain
    | disposing => cases hmain
    | failed => cases hmain
    | killed => cases hmain
    | _ => exact apt_of_plays (by simp) hmain
  · have hproducer := h.producer index hindex rfl
    cases hg : ph.gathered j.workload.producers with
    | none =>
      rw [hg] at hproducer
      cases hproducer.1
      exact apt_of_run
    | some gathered =>
      rw [hg] at hproducer
      obtain ⟨ids, hfeeding, -⟩ := hproducer
      exact apt_of_feeding ⟨index, hindex, rfl⟩ hfeeding
  · have hobserver := h.observer rfl
    unfold Watches at hobserver
    split at hobserver
    · cases hobserver
      exact apt_of_run
    · exact apt_of_plays (by simp) hobserver

end Apt

/-! ## What performing keeps -/

section Perform

variable {stage : Nat} {sh : Shared Nat} {ended : ThreadId → Bool} {t : ThreadId} {i : Instr Nat} {held : Reply Nat}
  {rest : List (Instr Nat)} {e : Effect Nat} {o : Option (Ending Nat)} {ph : Phase}

/-- Circumstances that an instruction leaves as they are, or makes the end of. -/
theorem Scene.circumstances (h : Scene j stage sh) (hfits : Fits j.workload stage i)
    (he : perform j.setup sh ended t held i = some e) :
    e.shared.buffer.poisoned = false ∧ e.shared.callbacks = [] ∧ e.shared.cancelled = [] ∧
      (∀ t ∈ e.shared.handles, t < j.setup.workers) ∧ e.shared.handles.length ≤ j.setup.workers ∧
        (stage < 9 → e.shared.owned = true) := by
  by_cases hi : i.isDecree = true
  · cases i with
    | setWatch b =>
      cases he
      exact ⟨h.poisoned, h.callbacks, h.cancelled, h.workers, h.handles, h.owned⟩
    | takeHandles =>
      cases he
      exact ⟨h.poisoned, h.callbacks, h.cancelled, by simp, by simp, h.owned⟩
    | disown =>
      have hlate : ¬ stage < 9 := Nat.not_lt.2 hfits
      cases he
      dsimp only
      split <;> exact ⟨h.poisoned, h.callbacks, h.cancelled, h.workers, h.handles, fun hs => absurd hs hlate⟩
    | cancel => cases hfits
    | register => cases hfits
    | pendingItems => cases hfits
    | _ => cases hi
  · have hsteady := steady_of_perform (by simpa using hi) he
    rw [hsteady.poisoned, hsteady.callbacks, hsteady.cancelled, hsteady.handles, hsteady.owned]
    exact ⟨h.poisoned, h.callbacks, h.cancelled, h.workers, h.handles, h.owned⟩

/-- The outcome of an item is the one that the workload plans. -/
theorem Scene.endings_act (h : Scene j stage sh) (hfits : Fits j.workload stage i) (hact : Act j.setup sh t i e) :
    ∀ p ∈ e.shared.endings, p.2.2.isSuccess = j.workload.succeeds p.2.1 := by
  intro p hp
  rcases hact.item_cases with ⟨x, -, hd⟩ | ⟨x, -, hd⟩ | ⟨x, ending, rfl, hd⟩ | ⟨-, hd⟩
  · rw [hd.endings, List.map_nil, List.append_nil] at hp
    exact h.endings p hp
  · rw [hd.endings, List.map_nil, List.append_nil] at hp
    exact h.endings p hp
  · rw [hd.endings, List.map_singleton] at hp
    rcases List.mem_append.1 hp with hp | hp
    · exact h.endings p hp
    · rw [List.mem_singleton.1 hp]
      exact hfits
  · rw [hd.endings, List.map_nil, List.append_nil] at hp
    exact h.endings p hp

/-- Performing an apt instruction keeps the scene. -/
theorem Scene.perform (h : Scene j stage sh) (hapt : Apt j stage t i held) (hact : Act j.setup sh t i e)
    (he : perform j.setup sh ended t held i = some e) : Scene j stage e.shared := by
  obtain ⟨hpoisoned, hcallbacks, hcancelled, hworkers, hhandles, howned⟩ := h.circumstances hapt.fits he
  refine ⟨hpoisoned, hcallbacks, hcancelled, hworkers, hhandles, ?_, h.endings_act hapt.fits hact, ?_, fun hs => ?_,
    fun hs => ?_, fun hs => ?_, howned, fun hs => hact.result_stable (h.drained hs)⟩
  · rcases hact.counter .rejected with heq | ⟨n, rfl⟩
    · exact heq.trans h.rejected
    · exact absurd rfl hapt.fits
  · intro p hp
    rcases hact.accepts with heq | ⟨bid, hbid, heq⟩
    · exact h.producers p (heq ▸ hp)
    · rw [heq] at hp
      rcases List.mem_append.1 hp with hp | hp
      · exact h.producers p hp
      · rw [List.mem_singleton.1 hp]
        exact hapt.bid (by rw [hbid]; rfl)
  · rcases hact.addingCompleted with heq | ⟨rfl, -⟩
    · exact heq.trans (h.adding hs)
    · exact absurd hs (Nat.not_lt.2 hapt.fits)
  · rcases hact.addingCompleted with heq | ⟨-, hdone⟩
    · exact heq.trans (h.added hs)
    · exact hdone
  · rcases hact.disposed with heq | rfl
    · exact heq.trans (h.disposed hs)
    · exact absurd hs (Nat.not_lt.2 hapt.fits)

/-- The main task stays in its part. -/
theorem Leads.perform (hscene : Scene j ph.stage sh) (hstats : 4 ≤ ph.stage → sh.stats = j.balance)
    (hact : Act j.setup sh t i e) (h : Leads j sh (i :: rest) held ph)
    (he : perform j.setup sh ended t held i = some e) :
    Leads j e.shared (e.push ++ rest) (e.reply.getD held) ph := by
  have paused : i :: rest ≠ [.run .client atRest] := by
    intro hst
    cases hst
    cases he
  cases ph with
  | completing =>
    refine completing_of_perform hscene.poisoned (hscene.disposed (by decide)) hscene.workers (fun hdone => ?_) h he
    rcases hact.addingCompleted with heq | ⟨-, hdone'⟩
    · exact heq.trans hdone
    · exact hdone'
  | draining => exact absurd h paused
  | decided => exact absurd h paused
  | closing => exact absurd h paused
  | counting =>
    have hb := hstats (by simp [Phase.stage])
    unfold Leads at h ⊢
    rw [← hb] at h ⊢
    exact tallying_of_perform h he
  | disposing => cases h
  | failed => cases h
  | killed => cases h
  | _ => exact plays_of_perform hscene.workers h he

/-- A producer stays in its part. -/
theorem Produces.perform {index : Nat} (hscene : Scene j ph.stage sh) (halive : ph.stage < 9 → sh.strong ≠ 0)
    (hindex : index < j.workload.producers)
    (h : Produces j sh index (i :: rest) held o (ph.gathered j.workload.producers))
    (he : perform j.setup sh ended (j.producer index) held i = some e) :
    Produces j e.shared index (e.push ++ rest) (e.reply.getD held) (e.ending.orElse fun _ => o)
      (ph.gathered j.workload.producers) := by
  cases hg : ph.gathered j.workload.producers with
  | none =>
    rw [hg] at h
    cases h.1
    cases he
  | some gathered =>
    rw [hg] at h
    obtain ⟨ids, hfeeding, hstripe, hended⟩ := h
    have hnot : ¬ index < gathered := fun hlt => List.cons_ne_nil _ _ (hended hlt)
    have hstage : ph.stage < 2 := by
      cases ph <;> simp only [Phase.gathered, Option.some.injEq, reduceCtorEq] at hg <;> simp only [Phase.stage] <;> omega
    have hopen : sh.buffer.value.isClosed = false := by
      rw [Buffer.isClosed, hscene.adding hstage, hscene.disposed (by omega)]
      rfl
    obtain ⟨new, left, rfl, hacc, hleft⟩ :=
      feeding_of_perform hscene.poisoned hopen hscene.cancelled (halive (by omega)) hfeeding he
    refine ⟨left, hleft, ?_, fun hlt => absurd hlt hnot⟩
    rw [hacc, onThread_append, onThread_self, List.append_assoc]
    exact hstripe

/-- The observer stays in its part. -/
theorem Watches.perform (hscene : Scene j stage sh) (h : Watches j stage (i :: rest))
    (he : perform j.setup sh ended t held i = some e) : Watches j stage (e.push ++ rest) := by
  unfold Watches at h ⊢
  split at h
  · cases h
    cases he
  · rename_i hstage
    rw [if_neg hstage]
    exact plays_of_perform hscene.workers h he

/-- A thread stays in its part. -/
theorem Part.perform (hcode : j.setup.code = j.workload.code) (hscene : Scene j ph.stage sh)
    (hstats : 4 ≤ ph.stage → sh.stats = j.balance) (halive : ph.stage < 9 → sh.strong ≠ 0)
    (hact : Act j.setup sh t i e) (h : Part j ph sh t (i :: rest) held o)
    (he : perform j.setup sh ended t held i = some e) :
    Part j ph e.shared t (e.push ++ rest) (e.reply.getD held) (e.ending.orElse fun _ => o) := by
  constructor
  case worker =>
    intro hw k hk
    rcases List.mem_append.1 hk with hk | hk
    · exact toils_of_perform hcode hscene.callbacks (h.worker hw i List.mem_cons_self) he k hk
    · exact h.worker hw k (List.mem_cons_of_mem _ hk)
  case main => exact fun ht => (h.main ht).perform hscene hstats hact he
  case producer =>
    rintro index hindex rfl
    exact (h.producer index hindex rfl).perform hscene halive hindex he
  case observer => exact fun ht => (h.observer ht).perform hscene he

/-- The other threads stay in their parts. -/
theorem Part.frame {t' : ThreadId} {st : List (Instr Nat)} {r : Reply Nat} (ht : t' ≠ t) (hact : Act j.setup sh t i e)
    (h : Part j ph sh t' st r o) : Part j ph e.shared t' st r o := by
  refine ⟨h.worker, fun hmain => ?_, ?_, h.observer⟩
  · have hleads := h.main hmain
    cases ph with
    | completing =>
      have hstays : sh.buffer.value.addingCompleted = true → e.shared.buffer.value.addingCompleted = true := by
        intro hdone
        rcases hact.addingCompleted with heq | ⟨-, hdone'⟩
        · exact heq.trans hdone
        · exact hdone'
      cases hleads with
      | asking => exact .asking
      | asked => exact .asked
      | heard hdone hp hr => exact .heard (hstays hdone) hp hr
      | done hdone hr => exact .done (hstays hdone) hr
    | _ => exact hleads
  · rintro index hindex rfl
    have hproduces := h.producer index hindex rfl
    unfold Produces at hproduces ⊢
    rw [hact.acceptances_other ht]
    exact hproduces

end Perform

end Conveyor.Cli.Job
