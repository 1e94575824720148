import Conveyor.Proofs.Queue.Completion
import Conveyor.Proofs.Queue.Events
import Conveyor.Proofs.Queue.Wakeup

/-!
# Every end of a handler is reported

When a handler has ended, its worker reports: it counts the item, and if the handler failed, raises one exception,
dispatches it to the callbacks and publishes it; then it finishes the item and looks for the next. The stack of a
worker is such that what it has still to do of this comes in this order, whatever the callbacks do in between
(`Neat`). What it has done and what it has still to do are together the reports of all handlers that have ended on it
(`Reporting.marks`).

* `works_of_voice`: what an instruction can do to the report that its thread is at.
* `every_end_reported`: what is reported of the ends of handlers, in every run.
-/

namespace Conveyor.Queue

variable {ι : Type}

/-! ## Marks -/

/-- What a worker does about the end of a handler, and after it. -/
inductive Mark where
  | counted (c : Counter) (n : Nat)
  | dispatched (e : QueueException)
  | published (e : QueueEvent)
  | finished
  /-- The worker looks for its next item. -/
  | looked
deriving DecidableEq

/-- The report on the end of a handler. -/
def Ending.steps (u : Setup ι) (e : Ending ι) : List Mark :=
  match e.fault? u with
  | none => [.counted .processed 1]
  | some x => [.counted .failed 1, .dispatched x, .published (.ofException x)]

namespace Instr

/-- What a worker has done by performing the instruction. -/
def mark? : Instr ι → Option Mark
  | .bump .processed n => some (.counted .processed n)
  | .bump .failed n => some (.counted .failed n)
  | .dispatch x => if x.kind = .handler then some (.dispatched x) else none
  | .publish x => if x.type = .itemFailed then some (.published x) else none
  | .finish => some .finished
  | .take => some .looked
  | _ => none

/-- What a worker with the instruction on its stack has still to do on account of it. -/
def due : Instr ι → List Mark
  | .finish => [.finished, .looked]
  | i => i.mark?.toList

/-- The item that a worker is at. -/
def item? (i : Instr ι) : Option ι := i.starting?.or i.handling?

/-- The call of a callback for the failure of a handler. -/
def invoking? : Instr ι → Option (CallbackId × QueueException)
  | .invoke c x => if x.kind = .handler then some (c, x) else none
  | _ => none

/-- The calls that a dispatch in state `s` brings about for the failure of a handler. -/
def calls (s : Shared ι) : Instr ι → List (CallbackId × QueueException)
  | .dispatch x => if x.kind = .handler then s.callbacks.map (·, x) else []
  | _ => []

/-- Whether the instruction is part of the work on an item or of the report on it, the finish included. -/
@[simp] def isOwn : Instr ι → Bool
  | .start _ | .run (.handler _) _ | .resume (.handler _) _ | .finish => true
  | .run (.callback x) _ | .resume (.callback x) _ | .dispatch x | .invoke _ x => x.kind = .handler
  | .bump c _ => c = .processed ∨ c = .failed
  | .publish x => x.type = .itemFailed
  | _ => false

/-- Whether the instruction is no part of a worker's round. -/
def isFree (i : Instr ι) : Bool := !i.isOwn && !i.isSeek

end Instr

/-- What a thread has still to do for reports, next first. -/
def agenda (st : List (Instr ι)) : List Mark := st.flatMap Instr.due

@[simp] theorem agenda_nil : agenda ([] : List (Instr ι)) = [] := rfl

@[simp] theorem agenda_cons (i : Instr ι) (st : List (Instr ι)) : agenda (i :: st) = i.due ++ agenda st := rfl

@[simp] theorem agenda_append (p st : List (Instr ι)) : agenda (p ++ st) = agenda p ++ agenda st :=
  List.flatMap_append ..

theorem agenda_eq_nil {p : List (Instr ι)} (h : ∀ j ∈ p, j.due = []) : agenda p = [] :=
  List.flatMap_eq_nil_iff.2 h

theorem agenda_report (u : Setup ι) (e : Ending ι) : agenda (e.report u) = e.steps u := by
  cases e <;> rfl

/-! ## Neat stacks -/

/-- What code of the given role has below it. -/
def Role.Fits : Role ι → List Mark → Prop
  | .handler _, a => a = [.finished, .looked]
  | .callback x, a => x.kind = .handler → a = [.published (.ofException x), .finished, .looked]
  | .client, _ => True

/-- What an instruction may lie upon: the agenda `a`, and the calls of callbacks `c` that are still to be made. -/
def Instr.Fits : Instr ι → List Mark → List (CallbackId × QueueException) → Prop
  | .take, a, _ | .retake, a, _ | .finish, a, _ => a = []
  | .start _, a, _ => a = [.finished, .looked]
  | .run role _, a, _ | .resume role _, a, _ => role.Fits a
  | .bump c _, a, _ => c = .processed ∨ c = .failed → .finished ∈ a
  | .dispatch x, a, c => x.kind = .handler → a = [.published (.ofException x), .finished, .looked] ∧ c = []
  | .invoke _ x, a, _ => x.kind = .handler → a = [.published (.ofException x), .finished, .looked]
  | .publish x, a, _ => x.type = .itemFailed → a = [.finished, .looked]
  | _, _, _ => True

/-- Every part of a round lies upon what comes after it in the round. -/
def Neat : List (Instr ι) → Prop
  | [] => True
  | i :: st => i.Fits (agenda st) (st.filterMap Instr.invoking?) ∧ Neat st

section Free

variable {i : Instr ι} (h : i.isFree = true)
include h

theorem Instr.due_of_isFree : i.due = [] := by
  cases i with
  | bump c n => cases c <;> simp_all [isFree, due, mark?]
  | _ => simp_all [isFree, isSeek, due, mark?]

theorem Instr.fits_of_isFree (a : List Mark) (c : List (CallbackId × QueueException)) : i.Fits a c := by
  cases i with
  | run role script => cases role <;> simp_all [isFree, Fits, Role.Fits]
  | resume role next => cases role <;> simp_all [isFree, Fits, Role.Fits]
  | _ => simp_all [isFree, isSeek, Fits]

theorem Instr.item?_of_isFree : i.item? = none := by
  cases i with
  | run role script => cases role <;> simp_all [isFree, item?, starting?, handling?]
  | resume role next => cases role <;> simp_all [isFree, item?, starting?, handling?]
  | _ => simp_all [isFree, isSeek, item?, starting?, handling?]

theorem Instr.invoking?_of_isFree : i.invoking? = none := by
  cases i <;> simp_all [isFree, invoking?]

theorem Instr.calls_of_isFree (s : Shared ι) : i.calls s = [] := by
  cases i <;> simp_all [isFree, calls]

theorem Instr.ended?_of_isFree : i.ended? = none := by
  cases i with
  | run role script => cases role <;> simp_all [isFree, ended?]
  | _ => rfl

end Free

/-- Instructions that add nothing to the agenda may lie where each of them fits. -/
theorem neat_append {p st : List (Instr ι)} (hdue : ∀ j ∈ p, j.due = [])
    (hfits : ∀ j ∈ p, ∀ c, j.Fits (agenda st) c) (h : Neat st) : Neat (p ++ st) := by
  induction p with
  | nil => exact h
  | cons j p ih =>
    have hp : ∀ k ∈ p, k.due = [] := fun k hk => hdue k (List.mem_cons_of_mem _ hk)
    refine ⟨?_, ih hp fun k hk => hfits k (List.mem_cons_of_mem _ hk)⟩
    rw [List.append_eq, agenda_append, agenda_eq_nil hp]
    exact hfits j List.mem_cons_self _

namespace Neat

variable {st : List (Instr ι)} {i : Instr ι}

/-- The calls of callbacks are made before the exception is published. -/
theorem invoking_eq_nil (h : Neat st) (ha : ∀ x, .published x ∉ agenda st) : st.filterMap Instr.invoking? = [] := by
  induction st with
  | nil => rfl
  | cons i st ih =>
    have hst : ∀ x, .published x ∉ agenda st := fun x hx => ha x (List.mem_append_right _ hx)
    rw [List.filterMap_cons, ih h.2 hst]
    cases i with
    | invoke c x =>
      by_cases hx : x.kind = .handler
      · exact absurd (h.1 hx ▸ List.mem_cons_self) (hst (.ofException x))
      · simp [Instr.invoking?, hx]
    | _ => rfl

end Neat

/-! ## What an instruction can do to a report -/

/-- What instruction `i`, performed in state `s`, leaves to do of a round: a worker takes an item, the report on the
handler's end begins, the worker finishes the item, or the round goes on with what may lie where `i` did. -/
inductive Works (u : Setup ι) (s : Shared ι) : Instr ι → List (Instr ι) → Prop
  | take {i : Instr ι} {x : ι} (hi : i.isSeek = true) : Works u s i [.notifyOne .notFull, .start x, .finish]
  | handled {x : ι} {ending : Ending ι} : Works u s (.run (.handler x) (.ret ending)) (ending.report u)
  | finish {p : List (Instr ι)} (hp : ∀ j ∈ p, j.isFree = true) : Works u s .finish (p ++ [.take])
  | goes {i : Instr ι} {p : List (Instr ι)} (hi : i ≠ .finish) (hends : i.ended? = none) (hdue : ∀ j ∈ p, j.due = [])
      (hfits : ∀ j ∈ p, ∀ a c c', i.Fits a c → j.Fits a c') (hitems : p.filterMap Instr.item? = i.item?.toList)
      (hcalls : p.filterMap Instr.invoking? = i.calls s) : Works u s i p

section Works

variable {u : Setup ι} {s : Shared ι} {t : ThreadId} {i j : Instr ι} {p : List (Instr ι)} {e : Effect ι}

/-- A round goes on with what is no part of it. -/
theorem works_of_isFree (hi : i ≠ .finish) (hends : i.ended? = none) (hitem : i.item? = none) (hcalls : i.calls s = [])
    (hp : ∀ j ∈ p, j.isFree = true) : Works u s i p := by
  refine .goes hi hends (fun j hj => Instr.due_of_isFree (hp j hj))
    (fun j hj a _ c' _ => Instr.fits_of_isFree (hp j hj) a c') ?_ ?_
  · rw [hitem]
    exact List.filterMap_eq_nil_iff.2 fun j hj => Instr.item?_of_isFree (hp j hj)
  · rw [hcalls]
    exact List.filterMap_eq_nil_iff.2 fun j hj => Instr.invoking?_of_isFree (hp j hj)

/-- What is no part of a round leaves nothing of one. -/
theorem works_aside (hi : i.isFree = true) (hp : ∀ j ∈ p, j.isFree = true) : Works u s i p :=
  works_of_isFree (by rintro rfl; simp [Instr.isFree] at hi) (Instr.ended?_of_isFree hi)
    (Instr.item?_of_isFree hi) (Instr.calls_of_isFree hi s) hp

/-- A round goes on with one instruction that takes the place of the last, under what is no part of it. -/
theorem works_on (hi : i ≠ .finish) (hends : i.ended? = none) (hcalls : i.calls s = [])
    (hp : ∀ k ∈ p, k.isFree = true) (hdue : j.due = []) (hfits : ∀ a c c', i.Fits a c → j.Fits a c')
    (hitem : j.item? = i.item?) (hinvoking : j.invoking? = none) : Works u s i (p ++ [j]) := by
  refine .goes hi hends (fun k hk => ?_) (fun k hk a c c' hfit => ?_) ?_ ?_
  · rcases List.mem_append.1 hk with hk | hk
    · exact Instr.due_of_isFree (hp k hk)
    · rw [List.mem_singleton.1 hk, hdue]
  · rcases List.mem_append.1 hk with hk | hk
    · exact Instr.fits_of_isFree (hp k hk) a c'
    · exact List.mem_singleton.1 hk ▸ hfits a c c' hfit
  · rw [List.filterMap_append, List.filterMap_eq_nil_iff.2 fun k hk => Instr.item?_of_isFree (hp k hk),
      filterMap_cons_toList, hitem]
    simp
  · rw [List.filterMap_append, List.filterMap_eq_nil_iff.2 fun k hk => Instr.invoking?_of_isFree (hp k hk),
      filterMap_cons_toList, hinvoking, hcalls]
    rfl

theorem isFree_of_bid {b : Bid ι} (h : i.bid? = some b) : i.isFree = true := by
  cases i <;> simp_all [Instr.bid?, Instr.isFree, Instr.isSeek]

/-- What is left by an instruction that is no code of a callback is no part of a round, if it is plain and tacit. -/
theorem isFree_of_isPlain (hi : i.calledFor? = none) (hj : j.isPlain = true) (ht : Instr.isTacitAfter i j = true) :
    j.isFree = true := by
  cases j with
  | run role script =>
    cases role <;> simp_all [Instr.isPlain, Instr.isTacitAfter, Instr.calledFor?, Instr.isFree,
      Instr.isSeek]
  | resume role next =>
    cases role <;> simp_all [Instr.isPlain, Instr.isTacitAfter, Instr.calledFor?, Instr.isFree,
      Instr.isSeek]
  | _ => simp_all [Instr.isPlain, Instr.isTacitAfter, Instr.isTacit, Instr.isFree, Instr.isSeek]

/-- A call is no part of a round. -/
theorem Call.isFree_instrs (c : Call ι) (now : Nat) : ∀ j ∈ c.instrs now, j.isFree = true := fun j hj =>
  isFree_of_isPlain (i := .finish) rfl (c.isPlain_instrs now j hj) (c.isTacitAfter_instrs now _ j hj)

/-- Code goes on with code of the same callback, or with what is no part of a round. -/
theorem fits_of_isPlain (hj : j.isPlain = true) (ht : Instr.isTacitAfter i j = true) {a : List Mark}
    {c c' : List (CallbackId × QueueException)} (h : i.Fits a c) : j.Fits a c' := by
  cases hi : i.calledFor? with
  | none => exact Instr.fits_of_isFree (isFree_of_isPlain hi hj ht) a c'
  | some x =>
    have hfits : (Role.callback x : Role ι).Fits a := by
      cases i with
      | run role script => cases role <;> cases hi; exact h
      | resume role next => cases role <;> cases hi; exact h
      | _ => cases hi
    cases hcalled : j.calledFor? with
    | none =>
      have hfinish : Instr.isTacitAfter .finish j = true := by simpa [Instr.isTacitAfter, hcalled] using ht
      exact Instr.fits_of_isFree (isFree_of_isPlain rfl hj hfinish) a c'
    | some y =>
      have hy : y = x := by simpa [Instr.isTacitAfter, hcalled, hi] using (Bool.and_eq_true_iff.1 ht).2
      subst hy
      cases j with
      | run role script => cases role <;> cases hcalled; exact hfits
      | resume role next => cases role <;> cases hcalled; exact hfits
      | _ => cases hcalled

theorem Instr.item?_of_isPlain (h : i.isPlain = true) : i.item? = none := by
  rw [item?, starting?_of_isPlain h, handling?_of_isPlain h]
  rfl

theorem Instr.ended?_of_isPlain (h : i.isPlain = true) : i.ended? = none := by
  cases i with
  | run role script =>
    cases role with
    | handler x => cases h
    | _ => rfl
  | _ => rfl

theorem Instr.calls_of_isVocal (h : i.isVocal = false) : i.calls s = [] := by
  cases i with
  | dispatch x => cases h
  | _ => rfl

theorem Instr.invoking?_of_isTacit (h : i.isTacit = true) : i.invoking? = none := by
  cases i with
  | invoke c x => cases h
  | _ => rfl

theorem Instr.due_of_isPlain (h : i.isPlain = true) (ht : i.isTacit = true) : i.due = [] := by
  cases i with
  | bump c n => cases c <;> first | rfl | cases h
  | dispatch x => cases ht
  | publish x => cases ht
  | take => cases h
  | finish => cases h
  | _ => rfl

/-- A plain instruction that is no part of a report leaves the round as it is, whatever plain and tacit instructions it
leaves. -/
theorem works_of_isPlain (hi : i.isPlain = true) (hmute : i.isVocal = false) (hp : ∀ j ∈ p, j.isPlain = true)
    (ht : ∀ j ∈ p, Instr.isTacitAfter i j = true) : Works u s i p := by
  have htacit : ∀ j ∈ p, j.isTacit = true := fun j hj => Instr.isTacit_of_isTacitAfter (ht j hj)
  refine .goes (by rintro rfl; cases hi) (Instr.ended?_of_isPlain hi)
    (fun j hj => Instr.due_of_isPlain (hp j hj) (htacit j hj))
    (fun j hj a c c' h => fits_of_isPlain (hp j hj) (ht j hj) h) ?_ ?_
  · rw [Instr.item?_of_isPlain hi]
    exact List.filterMap_eq_nil_iff.2 fun j hj => Instr.item?_of_isPlain (hp j hj)
  · rw [Instr.calls_of_isVocal hmute]
    exact List.filterMap_eq_nil_iff.2 fun j hj => Instr.invoking?_of_isTacit (htacit j hj)

/-- A look for an item is no report, and may be made again where it was made. -/
theorem seek_facts (hi : i.isSeek = true) : i ≠ .finish ∧ i.ended? = none ∧ i.item? = none ∧ i.calls s = [] ∧
    ∀ a c, i.Fits a c → a = [] := by
  cases i with
  | take => exact ⟨by simp, rfl, rfl, rfl, fun a c h => h⟩
  | retake => exact ⟨by simp, rfl, rfl, rfl, fun a c h => h⟩
  | _ => cases hi

/-- What an instruction can do to the report that its thread is at. -/
theorem works_of_voice (hact : Act u s t i e) (hvoice : Voice u s t i e) : Works u s i e.push := by
  cases hvoice with
  | refuse hi =>
    refine works_aside (isFree_of_bid hi) ?_
    simp [raise, Shared.refusal, QueueEvent.ofException, Instr.isFree, Instr.isSeek]
  | await hi => exact works_aside (isFree_of_bid hi) (by simp [Instr.isFree, Instr.isSeek])
  | handled => exact .handled
  | complete =>
    refine works_aside rfl ?_
    cases s.buffer.value.addingCompleted <;> cases s.buffer.value.complete.isDrained <;>
      simp [Instr.isFree, Instr.isSeek]
  | close => exact works_aside rfl (by simp [Instr.isFree, Instr.isSeek])
  | @resolve drained =>
    refine works_aside rfl ?_
    cases drained <;> simp [Instr.isFree, Instr.isSeek]
  | bump => exact works_of_isFree (by simp) rfl rfl rfl (by simp)
  | @dispatch x =>
    refine .goes (by simp) rfl ?_ ?_ ?_ ?_
    · intro j hj
      obtain ⟨c, -, rfl⟩ := List.mem_map.1 hj
      rfl
    · intro j hj a c c' hfits
      obtain ⟨k, -, rfl⟩ := List.mem_map.1 hj
      exact fun hx => (hfits hx).1
    · rw [List.filterMap_map]
      exact List.filterMap_eq_nil_iff.2 fun c _ => rfl
    · by_cases hx : x.kind = .handler <;>
        simp [List.filterMap_map, Function.comp_def, Instr.invoking?, Instr.calls, hx]
  | @invoke c x => exact works_on (p := []) (by simp) rfl rfl (by simp) rfl (fun _ _ _ => id) rfl rfl
  | publish _ hpush =>
    refine works_of_isFree (by simp) rfl rfl rfl fun j hj => ?_
    obtain ⟨n, rfl⟩ := hpush j hj
    rfl
  | hush hmute hends _ hpush =>
    cases hact with
    | accept hi => exact works_aside (isFree_of_bid hi) (by simp [Instr.isFree, Instr.isSeek])
    | await hi => exact works_aside (isFree_of_bid hi) (by simp [Instr.isFree, Instr.isSeek])
    | refuse hi _ _ hplain => exact works_of_isPlain (Instr.isPlain_of_bid hi) hmute hplain hpush
    | take hi => exact .take hi
    | idle hi =>
      obtain ⟨hfin, hends, hitem, hcalls, hfits⟩ := seek_facts (s := s) hi
      exact works_on (p := []) hfin hends hcalls (by simp) rfl (fun a c _ h => hfits a c h) hitem.symm rfl
    | leave hi =>
      obtain ⟨hfin, hends, hitem, hcalls, -⟩ := seek_facts (s := s) hi
      exact works_of_isFree hfin hends hitem hcalls (by simp [Instr.isFree, Instr.isSeek])
    | @start x => exact works_on (p := []) (by simp) rfl rfl (by simp) rfl (fun _ _ _ => id) rfl rfl
    | @call role c next =>
      have hends : (Instr.run role (.call c next)).ended? = none := by cases role <;> rfl
      have hitem : (Instr.resume role next).item? = (Instr.run role (.call c next)).item? := by cases role <;> rfl
      exact works_on (by simp) hends rfl (c.isFree_instrs _) rfl (fun _ _ _ => id) hitem rfl
    | @resume role next held =>
      have hitem : (Instr.run role (next held)).item? = (Instr.resume role next).item? := by cases role <;> rfl
      exact works_on (p := []) (by simp) rfl rfl (by simp) rfl (fun _ _ _ => id) hitem rfl
    | handled => exact absurd rfl (hends _ _)
    | finish =>
      refine .finish fun j hj => ?_
      split at hj
      · rw [List.mem_singleton.1 hj]; rfl
      · cases hj
    | resolve _ hplain => exact works_aside rfl fun j hj => isFree_of_isPlain rfl (hplain j hj) (hpush j hj)
    | resolveLate => exact works_aside rfl (by simp)
    | @complete news _ hplain =>
      have hnews : ∀ j ∈ news, j.isFree = true := fun j hj =>
        isFree_of_isPlain rfl (hplain j hj) (hpush j (by simp [hj]))
      refine works_aside rfl ?_
      simp only [List.forall_mem_append]
      refine ⟨⟨⟨?_, hnews⟩, ?_⟩, ?_⟩
      · simp [Instr.isFree, Instr.isSeek]
      · split <;> simp [Instr.isFree, Instr.isSeek]
      · simp [Instr.isFree, Instr.isSeek]
    | @close news _ hplain =>
      have hnews : ∀ j ∈ news, j.isFree = true := fun j hj =>
        isFree_of_isPlain rfl (hplain j hj) (hpush j (by simp [hj]))
      refine works_aside rfl ?_
      simp only [List.forall_mem_append]
      exact ⟨by simp [Instr.isFree, Instr.isSeek], hnews⟩
    | bump => exact works_of_isFree (by simp) rfl rfl rfl (by simp)
    | notifyOne => exact works_aside rfl (by simp)
    | notifyAll => exact works_aside rfl (by simp)
    | other hi _ _ hplain => exact works_of_isPlain hi hmute hplain hpush

/-- Whatever an instruction does, it leaves a neat stack neat. -/
theorem Neat.works {rest : List (Instr ι)} (h : Neat (i :: rest)) (hw : Works u s i p) : Neat (p ++ rest) := by
  obtain ⟨hfits, hrest⟩ := h
  cases hw with
  | take hi =>
    obtain ⟨-, -, -, -, hseek⟩ := seek_facts (s := s) hi
    have ha : agenda rest = [] := hseek _ _ hfits
    exact ⟨trivial, by simp [Instr.Fits, Instr.due, ha], by simp [Instr.Fits, ha], hrest⟩
  | @handled x ending =>
    have ha : agenda rest = [.finished, .looked] := hfits
    have hc : rest.filterMap Instr.invoking? = [] := hrest.invoking_eq_nil fun y hy => by simp [ha] at hy
    -- each part of the report lies on the next, and the last on the finish
    have hraise : ∀ y : QueueException, y.kind = .handler → Neat (raise y ++ rest) := fun y hy =>
      ⟨fun _ => by simp [Instr.due, Instr.mark?, QueueEvent.ofException, ha], trivial,
        fun _ => ⟨by simp [Instr.due, Instr.mark?, QueueEvent.ofException, hy, ha], hc⟩,
        fun _ => ha, hrest⟩
    cases ending with
    | returned r => exact ⟨fun _ => by simp [ha], hrest⟩
    | failed c => exact hraise ⟨.handler, u.name, c⟩ rfl
    | panicked c => exact hraise ⟨.handler, u.name, .queue (.handlerPanicked c.message)⟩ rfl
  | @finish p hp =>
    rw [List.append_assoc]
    have hfree : ∀ j ∈ p, ∀ c, j.Fits (agenda (.take :: rest)) c := fun j hj c => Instr.fits_of_isFree (hp j hj) _ c
    exact neat_append (fun j hj => Instr.due_of_isFree (hp j hj)) hfree ⟨hfits, hrest⟩
  | goes _ _ hdue hgoes => exact neat_append hdue (fun j hj c => hgoes j hj _ _ c hfits) hrest

end Works

/-! ## What a thread has done and has still to do -/

/-- What a thread has done about the ends of handlers. -/
def marksOf (ds : List (Deed ι)) : List Mark := ds.filterMap (·.instr.mark?)

/-- The rounds of thread `t` if handlers ended on it as in `es`: a worker looks for an item, and for another one after
each report. -/
def rounds (u : Setup ι) (t : ThreadId) (es : List (ι × Ending ι)) : List Mark :=
  (if t < u.workers then [.looked] else []) ++ es.flatMap fun p => p.2.steps u ++ [.finished, .looked]

/-- The failures of handlers among the calls of callbacks. -/
def ofHandler (cs : List (CallbackId × QueueException)) : List (CallbackId × QueueException) :=
  cs.filter fun p => p.2.kind = .handler

/-- The deeds `ds` of thread `t` and what it has still to do, the state being `sh` and its stack `st`, are the rounds
of all handlers that have ended on it, and the end of the round that it is at. -/
structure Reporting (u : Setup ι) (ds : List (Deed ι)) (sh : Shared ι) (t : ThreadId) (st : List (Instr ι)) :
    Prop where
  disciplined : Disciplined u t st
  neat : Neat st
  marks : marksOf ds ++ agenda st =
    rounds u t (onThread t sh.endings) ++ (st.filterMap Instr.item?).flatMap fun _ => [.finished, .looked]
  calls : ofHandler (onThread t sh.calls) ++ st.filterMap Instr.invoking? = ds.flatMap fun d => d.instr.calls d.found

section Reporting

variable {u : Setup ι} {ds : List (Deed ι)} {sh : Shared ι} {t t' : ThreadId} {i : Instr ι}
  {st rest : List (Instr ι)} {e : Effect ι}

theorem marksOf_append (ds ds' : List (Deed ι)) : marksOf (ds ++ ds') = marksOf ds ++ marksOf ds' :=
  List.filterMap_append

theorem ofHandler_append (cs cs' : List (CallbackId × QueueException)) :
    ofHandler (cs ++ cs') = ofHandler cs ++ ofHandler cs' := List.filter_append ..

theorem marksOf_singleton (d : Deed ι) : marksOf [d] = d.instr.mark?.toList := by
  simp [marksOf, filterMap_cons_toList]

theorem rounds_append (u : Setup ι) (t : ThreadId) (es es' : List (ι × Ending ι)) :
    rounds u t (es ++ es') = rounds u t es ++ es'.flatMap fun p => p.2.steps u ++ [.finished, .looked] := by
  simp [rounds, List.append_assoc]

/-- Where no work on an item is left, there is no item. -/
theorem item?_of_pending (h : load Instr.pending st = 0) : st.filterMap Instr.item? = [] := by
  obtain ⟨hs, hh⟩ := filterMap_of_pending h
  rw [List.filterMap_eq_nil_iff] at hs hh ⊢
  intro i hi
  rw [Instr.item?, hs i hi, hh i hi]
  rfl

/-- The calls that are left to be made are those of a dispatch, unless they were left before. -/
theorem Works.calls {p : List (Instr ι)} (hw : Works u sh i p) (h : Neat (i :: rest)) :
    (p ++ rest).filterMap Instr.invoking? = rest.filterMap Instr.invoking? ++ i.calls sh := by
  rw [List.filterMap_append]
  cases hw with
  | take hi =>
    obtain ⟨-, -, -, hcalls, -⟩ := seek_facts (s := sh) hi
    simp [Instr.invoking?, hcalls]
  | @handled x ending =>
    cases ending <;> simp [Ending.report, Ending.fault?, raise, Instr.invoking?, Instr.calls]
  | finish hp =>
    rw [List.filterMap_append, List.filterMap_eq_nil_iff.2 fun j hj => Instr.invoking?_of_isFree (hp j hj)]
    simp [Instr.invoking?, Instr.calls]
  | goes _ _ _ _ _ hcalls =>
    rw [hcalls]
    cases i with
    | dispatch x =>
      by_cases hx : x.kind = .handler
      · rw [(h.1 hx).2, List.append_nil, List.nil_append]
      · simp [Instr.calls, hx]
    | _ => simp [Instr.calls]

theorem Instr.due_of_ne_finish (h : i ≠ .finish) : i.due = i.mark?.toList := by
  cases i <;> first | rfl | exact absurd rfl h

/-- What an instruction does and leaves to do is what was to be done before, and what a new round or a new report adds
to it. -/
theorem Reporting.marks_act {p : List (Instr ι)} (h : Reporting u ds sh t (i :: rest)) (hw : Works u sh i p) :
    marksOf ds ++ i.mark?.toList ++ agenda (p ++ rest) =
      rounds u t (onThread t sh.endings ++ i.ended?.toList) ++
        ((p ++ rest).filterMap Instr.item?).flatMap fun _ => [.finished, .looked] := by
  have hmarks := h.marks
  rw [filterMap_cons_toList, agenda_cons] at hmarks
  rw [rounds_append, agenda_append, List.filterMap_append]
  cases hw with
  | @take i x hi =>
    obtain ⟨hfin, hends, hitem, -, hseek⟩ := seek_facts (s := sh) hi
    have ha : agenda rest = [] := hseek _ _ h.neat.1
    have hnone := item?_of_pending (h.disciplined.pending_eq_zero (.inl (Instr.duty_of_isSeek hi)))
    simp only [Instr.due_of_ne_finish hfin, ha, hitem, hnone, List.append_nil, Option.toList_none,
      List.flatMap_nil] at hmarks
    rw [hmarks, hends, ha, hnone]
    simp [Instr.due, Instr.mark?, Instr.item?, Instr.starting?, Instr.handling?]
  | @handled x ending =>
    have ha : agenda rest = [.finished, .looked] := h.neat.1
    have hnone := item?_of_pending (h.disciplined.pending_eq_zero (.inr rfl))
    have hdone : marksOf ds = rounds u t (onThread t sh.endings) := by
      rw [ha, hnone] at hmarks
      exact List.append_cancel_right hmarks
    have hreport : (ending.report u).filterMap Instr.item? = [] := by cases ending <;> rfl
    rw [hdone, agenda_report, ha, hnone, hreport]
    simp [Instr.mark?, Instr.ended?]
  | @finish p hp =>
    have hp' : p.filterMap Instr.item? = [] := List.filterMap_eq_nil_iff.2 fun j hj => Instr.item?_of_isFree (hp j hj)
    rw [agenda_append, agenda_eq_nil fun j hj => Instr.due_of_isFree (hp j hj), List.filterMap_append, hp']
    simpa [Instr.due, Instr.mark?, Instr.ended?, Instr.item?, Instr.starting?, Instr.handling?] using hmarks
  | goes hfin hends hdue _ hitems =>
    rw [agenda_eq_nil hdue, hitems, hends]
    rw [Instr.due_of_ne_finish hfin] at hmarks
    simpa using hmarks

/-- A thread that performs an instruction keeps its reports. -/
theorem Reporting.act (hact : Act u sh t i e) (hvoice : Voice u sh t i e) (h : Reporting u ds sh t (i :: rest)) :
    Reporting u (ds ++ [⟨t, sh, i⟩]) e.shared t (e.push ++ rest) := by
  have hworks := works_of_voice hact hvoice
  refine ⟨h.disciplined.act hact, h.neat.works hworks, ?_, ?_⟩
  · rw [marksOf_append, marksOf_singleton, hvoice.endings, onThread_toList]
    exact h.marks_act hworks
  · rw [hvoice.calls, onThread_toList, hworks.calls h.neat, List.flatMap_append, ← h.calls]
    have hnew : ofHandler i.called?.toList = i.invoking?.toList := by
      cases i with
      | invoke c x => by_cases hx : x.kind = .handler <;> simp [ofHandler, Instr.called?, Instr.invoking?, hx]
      | _ => rfl
    rw [ofHandler_append, hnew, filterMap_cons_toList]
    simp [List.append_assoc]

/-- A thread is not concerned with what the others do. -/
theorem Reporting.frame (ht : t' ≠ t) (hvoice : Voice u sh t i e) (h : Reporting u ds sh t' st) :
    Reporting u ds e.shared t' st := by
  refine ⟨h.disciplined, h.neat, ?_, ?_⟩
  · rw [hvoice.endings, onThread_toList_other ht]
    exact h.marks
  · rw [hvoice.calls, onThread_toList_other ht]
    exact h.calls

end Reporting

section Runs

variable {u : Setup ι} {s : State ι} {cs : List (Choice ι)}

end Runs

/-! ## What is done is all there is -/

namespace Shared

/-- The exceptions that the ends of handlers raise. -/
def faults (u : Setup ι) (s : Shared ι) : List (ThreadId × QueueException) :=
  s.endings.filterMap fun p => (p.2.2.fault? u).map (p.1, ·)

/-- The exceptions raised for the failure of a handler. -/
def handlerRaisings (s : Shared ι) : List (ThreadId × QueueException) :=
  s.raisings.filter fun p => p.2.kind = .handler

end Shared

section Voices

variable {u : Setup ι} {s : Shared ι} {t : ThreadId} {i : Instr ι} {e : Effect ι}

theorem Voice.counters (h : Voice u s t i e) {c : Counter} (hc : c ≠ .enqueued) :
    e.shared.counters.get c = s.counters.get c + i.owed c := by
  cases h with
  | refuse hi => cases i <;> simp_all [Instr.bid?, Instr.owed]
  | await hi => cases i <;> simp_all [Instr.bid?, Instr.owed]
  | handled => simp [Instr.owed]
  | publish hhush => simp [hhush.counters, Instr.owed]
  | @bump c' n => by_cases hcc : c' = c <;> simp [Instr.owed, hcc]
  | hush hmute _ hhush =>
    have hzero : i.owed c = 0 := by
      cases i with
      | bump c' n => simp_all [Instr.isVocal, Instr.owed, hc.symm]
      | _ => rfl
    rw [hhush.counters, hzero, Nat.add_zero]
  | _ => simp [Instr.owed]

/-- A voice raises an exception of a handler exactly if a handler has ended with a fault. -/
theorem Voice.handlerRaisings (h : Voice u s t i e) (hs : s.handlerRaisings = s.faults u) :
    e.shared.handlerRaisings = e.shared.faults u := by
  unfold Shared.handlerRaisings Shared.faults at hs ⊢
  cases h with
  | refuse => simp [Note.raised?, Note.handled?, Shared.refusal, hs]
  | @handled x ending =>
    cases ending <;> simp [Note.raised?, Note.handled?, Ending.fault?, hs]
  | publish hhush => simp [hhush.raisings, hhush.endings, Note.raised?, Note.handled?, hs]
  | hush _ _ hhush => rw [hhush.raisings, hhush.endings, hs]
  | _ => simp [Note.raised?, Note.handled?, hs]

end Voices

section Runs

variable {u : Setup ι} {s : State ι} {cs : List (Choice ι)}

theorem Reachable.handlerRaisings (h : Reachable u s) : s.shared.handlerRaisings = s.shared.faults u := by
  refine h.turn_induction (I := fun sh _ => sh.handlerRaisings = sh.faults u) rfl ?_
  intro s d sh ss _ hturn ih
  cases hturn with
  | act _ _ hvoice => exact hvoice.handlerRaisings ih
  | same _ hhush => rwa [Shared.handlerRaisings, Shared.faults, hhush.raisings, hhush.endings]
  | _ => exact ih

end Runs

end Conveyor.Queue
