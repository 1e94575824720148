import Conveyor.Proofs.Queue.Move

/-!
# The rounds of workers

A worker goes round: it takes an item, hands it to the handler, records the outcome and finishes the item. What is left
of a round is on the worker's stack, and nowhere else.

* `Disciplined`: a worker has at most one look for an item or finish before it and a client none, and whatever is left
  of the work on an item lies above the finish that ends it.
* `Deals`, `Act.item_cases`: an act takes one item, starts one, ends one, or deals with none.
* `InRound`, `Reachable.inRound`: every stack is disciplined, and on each thread, the items taken are the items started
  and the one about to be, and the items started are those that the handler is done with and the one that it is at.
-/

namespace Conveyor.Queue

variable {ι : Type}

/-! ## What is left of a round -/

namespace Instr

/-- The looks for an item and the finishes. -/
def duty : Instr ι → Nat
  | .take => 1
  | .retake => 1
  | .finish => 1
  | _ => 0

/-- The finishes. -/
def closing : Instr ι → Nat
  | .finish => 1
  | _ => 0

/-- The items whose outcome is not recorded yet. -/
def pending : Instr ι → Nat
  | .start _ => 1
  | .run (.handler _) _ => 1
  | .resume (.handler _) _ => 1
  | .bump .processed n => n
  | .bump .failed n => n
  | _ => 0

/-- The item about to be handed to the handler. -/
def starting? : Instr ι → Option ι
  | .start x => some x
  | _ => none

/-- The item that the handler is at. -/
def handling? : Instr ι → Option ι
  | .run (.handler x) _ => some x
  | .resume (.handler x) _ => some x
  | _ => none

variable {i : Instr ι}

theorem duty_of_isPlain (h : i.isPlain = true) : i.duty = 0 := by
  cases i <;> simp_all [isPlain, duty]

theorem pending_of_isPlain (h : i.isPlain = true) : i.pending = 0 := by
  cases i with
  | run role script => cases role <;> simp_all [isPlain, pending]
  | resume role next => cases role <;> simp_all [isPlain, pending]
  | bump c n => cases c <;> simp_all [isPlain, pending]
  | _ => simp_all [isPlain, pending]

theorem starting?_of_isPlain (h : i.isPlain = true) : i.starting? = none := by
  cases i <;> simp_all [isPlain, starting?]

theorem handling?_of_isPlain (h : i.isPlain = true) : i.handling? = none := by
  cases i with
  | run role script => cases role <;> simp_all [isPlain, handling?]
  | resume role next => cases role <;> simp_all [isPlain, handling?]
  | _ => rfl

theorem duty_of_isSeek (h : i.isSeek = true) : i.duty = 1 := by
  cases i <;> simp_all [isSeek, duty]

theorem pending_of_isSeek (h : i.isSeek = true) : i.pending = 0 := by
  cases i <;> simp_all [isSeek, pending]

theorem closing_of_isSeek (h : i.isSeek = true) : i.closing = 0 := by
  cases i <;> simp_all [isSeek, closing]

theorem starting?_of_isSeek (h : i.isSeek = true) : i.starting? = none := by
  cases i <;> simp_all [isSeek, starting?]

theorem handling?_of_isSeek (h : i.isSeek = true) : i.handling? = none := by
  cases i <;> simp_all [isSeek, handling?]

theorem closing_le_duty (i : Instr ι) : i.closing ≤ i.duty := by
  cases i <;> simp [closing, duty]

theorem pending_resume (role : Role ι) (next : Reply ι → Script ι) (script : Script ι) :
    (Instr.resume role next).pending = (Instr.run role script).pending := by cases role <;> rfl

theorem closing_of_isPlain (h : i.isPlain = true) : i.closing = 0 :=
  Nat.le_zero.1 (duty_of_isPlain h ▸ i.closing_le_duty)

theorem pending_run (role : Role ι) (script script' : Script ι) :
    (Instr.run role script).pending = (Instr.run role script').pending := by cases role <;> rfl

end Instr

/-! ## Discipline -/

/-- Whatever is left of the work on an item lies above the finish that ends it. -/
def Covered : List (Instr ι) → Prop
  | [] => True
  | i :: st => load Instr.pending (i :: st) ≤ load Instr.closing (i :: st) ∧ Covered st

theorem Covered.le {st : List (Instr ι)} (h : Covered st) : load Instr.pending st ≤ load Instr.closing st := by
  cases st with
  | nil => exact Nat.le_refl 0
  | cons i st => exact h.1

/-- Instructions that are no part of the work on an item may lie anywhere. -/
theorem covered_append {p st : List (Instr ι)} (hp : ∀ i ∈ p, i.pending = 0) (h : Covered st) : Covered (p ++ st) := by
  induction p with
  | nil => exact h
  | cons i p ih =>
    have hc := ih fun j hj => hp j (List.mem_cons_of_mem _ hj)
    refine ⟨?_, hc⟩
    have hle := hc.le
    have hi := hp i List.mem_cons_self
    rw [List.append_eq, load_cons, load_cons, hi]
    omega

/-- A worker has at most one look for an item or finish before it, a client none; and the finish comes last. -/
def Disciplined (u : Setup ι) (t : ThreadId) (st : List (Instr ι)) : Prop :=
  load Instr.duty st ≤ (if t < u.workers then 1 else 0) ∧ Covered st

section Acts

variable {u : Setup ι} {sh : Shared ι} {t : ThreadId} {i : Instr ι} {e : Effect ι}

/-- No act leaves more looks and finishes than there were. -/
theorem Act.duty_le (h : Act u sh t i e) : load Instr.duty e.push ≤ i.duty := by
  have plain : ∀ {p : List (Instr ι)}, (∀ j ∈ p, j.isPlain = true) → load Instr.duty p = 0 :=
    load_plain fun _ h => Instr.duty_of_isPlain h
  cases h with
  | refuse _ _ _ hpush => exact (plain hpush).trans_le (Nat.zero_le _)
  | other _ _ _ hpush => exact (plain hpush).trans_le (Nat.zero_le _)
  | resolve _ hnews => exact (plain hnews).trans_le (Nat.zero_le _)
  | take hi => rw [Instr.duty_of_isSeek hi]; simp [Instr.duty]
  | idle hi => rw [Instr.duty_of_isSeek hi]; simp [Instr.duty]
  | @call role c next => simp [plain (c.isPlain_instrs sh.now), Instr.duty]
  | @handled x ending => cases ending <;> simp [Ending.report, Ending.fault?, raise, Instr.duty]
  | finish => simp only [load_append]; split <;> simp [Instr.duty]
  | complete _ hnews => simp only [load_append, plain hnews]; split <;> simp [Instr.duty]
  | close _ hnews => simp [plain hnews, Instr.duty]
  | _ => simp [Instr.duty]

/-- Every act keeps what is left of the work on an item above its finish. -/
theorem Act.covered {rest : List (Instr ι)} (h : Act u sh t i e) (hc : Covered (i :: rest)) :
    Covered (e.push ++ rest) := by
  have plain : ∀ {p : List (Instr ι)}, (∀ j ∈ p, j.isPlain = true) → ∀ j ∈ p, j.pending = 0 :=
    fun hp j hj => Instr.pending_of_isPlain (hp j hj)
  have hrest : Covered rest := hc.2
  have hle := hc.1
  rw [load_cons, load_cons] at hle
  cases h with
  | refuse _ _ _ hpush => exact covered_append (plain hpush) hrest
  | other _ _ _ hpush => exact covered_append (plain hpush) hrest
  | resolve _ hnews => exact covered_append (plain hnews) hrest
  | take hi =>
    refine covered_append (p := [.notifyOne .notFull]) (by simp [Instr.pending]) ?_
    have hr := hrest.le
    refine ⟨?_, ?_, hrest⟩ <;> simp only [List.append_eq, List.cons_append, List.nil_append, load_cons, Instr.pending,
      Instr.closing] <;> omega
  | start => exact ⟨by simpa [Instr.pending, Instr.closing] using hle, hrest⟩
  | @call role c next =>
    rw [List.append_assoc]
    refine covered_append (plain (c.isPlain_instrs sh.now)) ⟨?_, hrest⟩
    simp only [List.append_eq, List.nil_append, load_cons, Instr.pending_resume role next (.call c next)]
    simpa [Instr.closing] using hle
  | @resume role next held =>
    refine ⟨?_, hrest⟩
    rw [Instr.pending_resume role next (next held)] at hle
    simpa [Instr.closing] using hle
  | @handled x ending =>
    have hone : 1 + load Instr.pending rest ≤ load Instr.closing rest := by
      simpa [Instr.pending, Instr.closing] using hle
    cases ending with
    | returned r => exact ⟨by simpa [Instr.pending, Instr.closing] using hone, hrest⟩
    | failed c =>
      refine ⟨?_, covered_append (p := (raise _).tail) (by simp [raise, Instr.pending]) hrest⟩
      simpa [Instr.pending, Instr.closing] using hone
    | panicked p =>
      refine ⟨?_, covered_append (p := (raise _).tail) (by simp [raise, Instr.pending]) hrest⟩
      simpa [Instr.pending, Instr.closing] using hone
  | finish =>
    refine covered_append (fun j hj => ?_) hrest
    rcases List.mem_append.1 hj with hj | hj
    · split at hj
      · rw [List.mem_singleton.1 hj]; rfl
      · cases hj
    · rw [List.mem_singleton.1 hj]; rfl
  | complete _ hnews =>
    refine covered_append (fun j hj => ?_) hrest
    simp only [List.mem_append] at hj
    rcases hj with ((hj | hj) | hj) | hj
    · simp only [List.mem_cons, List.not_mem_nil, or_false] at hj
      rcases hj with rfl | rfl <;> rfl
    · exact plain hnews j hj
    · split at hj
      · rw [List.mem_singleton.1 hj]; rfl
      · cases hj
    · rw [List.mem_singleton.1 hj]; rfl
  | close _ hnews =>
    rw [List.append_assoc]
    exact covered_append (by simp [Instr.pending]) (covered_append (plain hnews) hrest)
  | _ => exact covered_append (by simp [Instr.pending]) hrest

end Acts

theorem disciplined_start (u : Setup ι) (t : ThreadId) : Disciplined u t (stackAt u.start.stacks t) := by
  rw [stackAt_start]
  by_cases ht : t < u.workers
  · rw [if_pos ht]
    exact ⟨by simp [ht, Instr.duty], by simp [Covered, Instr.pending]⟩
  · rw [if_neg ht]
    exact ⟨Nat.zero_le _, trivial⟩

theorem load_closing_le (st : List (Instr ι)) : load Instr.closing st ≤ load Instr.duty st :=
  load_le_load fun i _ => i.closing_le_duty

namespace Disciplined

variable {u : Setup ι} {t : ThreadId}

/-- An act keeps its thread's discipline. -/
theorem act {sh : Shared ι} {i : Instr ι} {rest : List (Instr ι)} {e : Effect ι} (h : Disciplined u t (i :: rest))
    (hact : Act u sh t i e) : Disciplined u t (e.push ++ rest) := by
  obtain ⟨hd, hc⟩ := h
  have := hact.duty_le
  refine ⟨?_, hact.covered hc⟩
  rw [load_cons] at hd
  rw [load_append]
  omega

/-- It does not matter how client code goes on. -/
theorem answer {role : Role ι} {sc : Script ι} {rest : List (Instr ι)} (h : Disciplined u t (.run role sc :: rest))
    (script : Script ι) : Disciplined u t (.run role script :: rest) := by
  obtain ⟨hd, hle, hc⟩ := h
  have hp := Instr.pending_run role script sc
  refine ⟨by simpa [Instr.duty] using hd, ?_, hc⟩
  simpa [hp, Instr.closing] using hle

theorem closing_le {st : List (Instr ι)} (h : Disciplined u t st) :
    load Instr.closing st ≤ if t < u.workers then 1 else 0 := (load_closing_le st).trans h.1

theorem closing_le_one {st : List (Instr ι)} (h : Disciplined u t st) : load Instr.closing st ≤ 1 := by
  have := h.closing_le
  split at this <;> omega

/-- Only workers look for items and finish them. -/
theorem lt_workers {st : List (Instr ι)} (h : Disciplined u t st) {i : Instr ι} (hi : i ∈ st) (hd : i.duty = 1) :
    t < u.workers := by
  by_contra ht
  have hle := weight_le_load (w := Instr.duty) hi
  have hz := h.1
  rw [if_neg ht] at hz
  omega

/-- Below a look for an item, or below what is left of the work on one, no other work on an item is left. -/
theorem pending_eq_zero {i : Instr ι} {rest : List (Instr ι)} (h : Disciplined u t (i :: rest))
    (hi : i.duty = 1 ∨ i.pending = 1) : load Instr.pending rest = 0 := by
  have hone : load Instr.duty (i :: rest) ≤ 1 := by
    have := h.1
    split at this <;> omega
  have hcl := h.closing_le_one
  have hle := h.2.le
  have hrest := h.2.2.le
  have hc := load_closing_le rest
  simp only [load_cons] at hone hle hcl
  rcases hi with hi | hi <;> omega

end Disciplined

/-! ## What each thread took, started and handled -/

/-- Effect `e` on thread `t` notes the takes `xs`, the starts `ys` and the endings `zs`, and leaves the items `p` to be
started and `q` with the handler. -/
structure Deals (sh : Shared ι) (t : ThreadId) (e : Effect ι) (xs ys : List ι) (zs : List (ι × Ending ι))
    (p q : List ι) : Prop where
  takes : e.shared.takes = sh.takes ++ xs.map (t, ·)
  starts : e.shared.starts = sh.starts ++ ys.map (t, ·)
  endings : e.shared.endings = sh.endings ++ zs.map (t, ·)
  starting : e.push.filterMap Instr.starting? = p
  handling : e.push.filterMap Instr.handling? = q

/-- An effect that notes none of the three. -/
theorem deals_nothing {sh : Shared ι} {t : ThreadId} {e : Effect ι} {p q : List ι} (htakes : e.shared.takes = sh.takes)
    (hstarts : e.shared.starts = sh.starts) (hendings : e.shared.endings = sh.endings)
    (hp : e.push.filterMap Instr.starting? = p) (hq : e.push.filterMap Instr.handling? = q) :
    Deals sh t e [] [] [] p q :=
  ⟨by simpa using htakes, by simpa using hstarts, by simpa using hendings, hp, hq⟩

namespace Deals

variable {sh : Shared ι} {t : ThreadId} {e : Effect ι} {xs ys : List ι} {zs : List (ι × Ending ι)} {p q : List ι}

/-- What the thread itself took, started and ended goes on with what is new. -/
theorem self (h : Deals sh t e xs ys zs p q) :
    onThread t e.shared.takes = onThread t sh.takes ++ xs ∧ onThread t e.shared.starts = onThread t sh.starts ++ ys ∧
      onThread t e.shared.endings = onThread t sh.endings ++ zs := by
  rw [h.takes, h.starts, h.endings]
  simp only [onThread_append, onThread_self, and_self]

/-- What another thread took, started and ended stays as it is. -/
theorem other (h : Deals sh t e xs ys zs p q) {t' : ThreadId} (ht : t' ≠ t) :
    onThread t' e.shared.takes = onThread t' sh.takes ∧ onThread t' e.shared.starts = onThread t' sh.starts ∧
      onThread t' e.shared.endings = onThread t' sh.endings := by
  rw [h.takes, h.starts, h.endings]
  simp only [onThread_append, onThread_other (Ne.symm ht), List.append_nil, and_self]

end Deals

theorem starting?_of_plain {p : List (Instr ι)} (h : ∀ j ∈ p, j.isPlain = true) :
    p.filterMap Instr.starting? = [] :=
  List.filterMap_eq_nil_iff.2 fun j hj => Instr.starting?_of_isPlain (h j hj)

theorem handling?_of_plain {p : List (Instr ι)} (h : ∀ j ∈ p, j.isPlain = true) :
    p.filterMap Instr.handling? = [] :=
  List.filterMap_eq_nil_iff.2 fun j hj => Instr.handling?_of_isPlain (h j hj)

/-- How an act goes on with the work on an item: it takes the item, starts the handler, ends it, or leaves it as it
is. -/
theorem Act.item_cases {u : Setup ι} {sh : Shared ι} {t : ThreadId} {i : Instr ι} {e : Effect ι}
    (h : Act u sh t i e) :
    (∃ x, i.isSeek = true ∧ Deals sh t e [x] [] [] [x] []) ∨
    (∃ x, i = .start x ∧ Deals sh t e [] [x] [] [] [x]) ∨
    (∃ x ending, i = .run (.handler x) (.ret ending) ∧ Deals sh t e [] [] [(x, ending)] [] []) ∨
    (i.starting? = none ∧ Deals sh t e [] [] [] [] i.handling?.toList) := by
  cases h with
  | @take i x rest hi =>
    refine .inl ⟨x, hi, ?_, ?_, ?_, rfl, rfl⟩ <;> simp [Note.taken?, Note.started?, Note.handled?]
  | @start x =>
    refine .inr (.inl ⟨x, rfl, ?_, ?_, ?_, rfl, rfl⟩) <;> simp [Note.taken?, Note.started?, Note.handled?]
  | @handled x ending =>
    refine .inr (.inr (.inl ⟨x, ending, rfl, ?_, ?_, ?_, ?_, ?_⟩))
    · simp [Note.taken?]
    · simp [Note.started?]
    · simp [Note.handled?]
    · cases ending <;> rfl
    · cases ending <;> rfl
  | accept hi =>
    have hp := Instr.isPlain_of_bid hi
    rw [Instr.handling?_of_isPlain hp]
    refine .inr (.inr (.inr ⟨Instr.starting?_of_isPlain hp, deals_nothing ?_ ?_ ?_ rfl rfl⟩)) <;>
      simp [Note.taken?, Note.started?, Note.handled?]
  | await hi =>
    have hp := Instr.isPlain_of_bid hi
    rw [Instr.handling?_of_isPlain hp]
    exact .inr (.inr (.inr ⟨Instr.starting?_of_isPlain hp, deals_nothing rfl rfl rfl rfl rfl⟩))
  | refuse hi _ hsame hpush =>
    have hp := Instr.isPlain_of_bid hi
    rw [Instr.handling?_of_isPlain hp]
    exact .inr (.inr (.inr ⟨Instr.starting?_of_isPlain hp,
      deals_nothing hsame.takes hsame.starts hsame.endings (starting?_of_plain hpush) (handling?_of_plain hpush)⟩))
  | other hp _ hsame hpush =>
    rw [Instr.handling?_of_isPlain hp]
    exact .inr (.inr (.inr ⟨Instr.starting?_of_isPlain hp,
      deals_nothing hsame.takes hsame.starts hsame.endings (starting?_of_plain hpush) (handling?_of_plain hpush)⟩))
  | idle hi =>
    rw [Instr.handling?_of_isSeek hi]
    exact .inr (.inr (.inr ⟨Instr.starting?_of_isSeek hi, deals_nothing rfl rfl rfl rfl rfl⟩))
  | leave hi =>
    rw [Instr.handling?_of_isSeek hi]
    exact .inr (.inr (.inr ⟨Instr.starting?_of_isSeek hi, deals_nothing rfl rfl rfl rfl rfl⟩))
  | @call role c next =>
    refine .inr (.inr (.inr ⟨rfl, deals_nothing rfl rfl rfl ?_ ?_⟩))
    · rw [List.filterMap_append, starting?_of_plain (c.isPlain_instrs sh.now)]
      rfl
    · rw [List.filterMap_append, handling?_of_plain (c.isPlain_instrs sh.now)]
      cases role <;> rfl
  | @resume role next held =>
    refine .inr (.inr (.inr ⟨rfl, deals_nothing rfl rfl rfl rfl ?_⟩))
    cases role <;> rfl
  | finish =>
    refine .inr (.inr (.inr ⟨rfl, deals_nothing rfl rfl rfl ?_ ?_⟩)) <;> dsimp only <;> split <;> rfl
  | resolve _ hnews =>
    refine .inr (.inr (.inr ⟨rfl,
      deals_nothing ?_ ?_ ?_ (starting?_of_plain hnews) (handling?_of_plain hnews)⟩)) <;>
      simp [Note.taken?, Note.started?, Note.handled?]
  | complete _ hnews =>
    refine .inr (.inr (.inr ⟨rfl, deals_nothing rfl rfl rfl ?_ ?_⟩)) <;>
      simp only [List.filterMap_append, starting?_of_plain hnews, handling?_of_plain hnews] <;> split <;> rfl
  | close _ hnews =>
    refine .inr (.inr (.inr ⟨rfl, deals_nothing ?_ ?_ ?_ ?_ ?_⟩))
    · simp [Note.taken?]
    · simp [Note.started?]
    · simp [Note.handled?]
    · rw [List.filterMap_append, starting?_of_plain hnews]
      rfl
    · rw [List.filterMap_append, handling?_of_plain hnews]
      rfl
  | _ => exact .inr (.inr (.inr ⟨rfl, deals_nothing rfl rfl rfl rfl rfl⟩))

/-- Whatever an act does, it adds takes, starts and endings on its own thread only. -/
theorem Act.deals {u : Setup ι} {sh : Shared ι} {t : ThreadId} {i : Instr ι} {e : Effect ι} (h : Act u sh t i e) :
    ∃ xs ys zs p q, Deals sh t e xs ys zs p q := by
  rcases h.item_cases with ⟨x, -, hd⟩ | ⟨x, -, hd⟩ | ⟨x, ending, -, hd⟩ | ⟨-, hd⟩
  all_goals exact ⟨_, _, _, _, _, hd⟩

theorem filterMap_cons_toList {α β : Type} (f : α → Option β) (a : α) (l : List α) :
    (a :: l).filterMap f = (f a).toList ++ l.filterMap f := by
  cases h : f a <;> simp [h]

/-- Where no work on an item is left, no item is about to be started and none is at the handler. -/
theorem filterMap_of_pending {st : List (Instr ι)} (h : load Instr.pending st = 0) :
    st.filterMap Instr.starting? = [] ∧ st.filterMap Instr.handling? = [] := by
  have hz : ∀ i ∈ st, i.pending = 0 := fun i hi => Nat.le_zero.1 (h ▸ weight_le_load hi)
  constructor
  · refine List.filterMap_eq_nil_iff.2 fun i hi => ?_
    have := hz i hi
    cases i <;> simp_all [Instr.pending, Instr.starting?]
  · refine List.filterMap_eq_nil_iff.2 fun i hi => ?_
    have := hz i hi
    cases i with
    | run role script => cases role <;> simp_all [Instr.pending, Instr.handling?]
    | resume role next => cases role <;> simp_all [Instr.pending, Instr.handling?]
    | _ => rfl

/-- On thread `t`, what was taken was started or is about to be, and what was started was handled or is being
handled; only workers take. -/
structure InRound (u : Setup ι) (sh : Shared ι) (t : ThreadId) (st : List (Instr ι)) : Prop where
  disciplined : Disciplined u t st
  takes : onThread t sh.takes = onThread t sh.starts ++ st.filterMap Instr.starting?
  starts : onThread t sh.starts = (onThread t sh.endings).map Prod.fst ++ st.filterMap Instr.handling?
  client : u.workers ≤ t → onThread t sh.takes = []

/-- An act keeps the thread's own round. -/
theorem InRound.act {u : Setup ι} {sh : Shared ι} {t : ThreadId} {i : Instr ι} {rest : List (Instr ι)} {e : Effect ι}
    (hact : Act u sh t i e) (h : InRound u sh t (i :: rest)) : InRound u e.shared t (e.push ++ rest) := by
  have hd : Disciplined u t (e.push ++ rest) := h.disciplined.act hact
  obtain ⟨hdisc, htakes, hstarts, hclient⟩ := h
  rw [filterMap_cons_toList] at htakes hstarts
  rcases hact.item_cases with ⟨x, hi, hdeals⟩ | ⟨x, rfl, hdeals⟩ | ⟨x, ending, rfl, hdeals⟩ | ⟨hi, hdeals⟩
  · -- a take: the thread has no other item
    have hduty := Instr.duty_of_isSeek hi
    obtain ⟨hs, hh⟩ := filterMap_of_pending (hdisc.pending_eq_zero (.inl hduty))
    obtain ⟨h₁, h₂, h₃⟩ := hdeals.self
    rw [Instr.starting?_of_isSeek hi, hs] at htakes
    rw [Instr.handling?_of_isSeek hi, hh] at hstarts
    refine ⟨hd, ?_, ?_, fun hle => ?_⟩
    · simp [h₁, h₂, hdeals.starting, hs, htakes]
    · simp [h₂, h₃, hdeals.handling, hh, hstarts]
    · exact absurd (hdisc.lt_workers List.mem_cons_self hduty) (Nat.not_lt.2 hle)
  · -- a start: the handler is at no other item
    obtain ⟨hs, hh⟩ := filterMap_of_pending (hdisc.pending_eq_zero (.inr rfl))
    obtain ⟨h₁, h₂, h₃⟩ := hdeals.self
    refine ⟨hd, ?_, ?_, fun hle => by simpa [h₁] using hclient hle⟩
    · simp [h₁, h₂, hdeals.starting, htakes, Instr.starting?]
    · simp [h₂, h₃, hdeals.handling, hstarts, hh, Instr.handling?]
  · -- the end of a handler
    obtain ⟨h₁, h₂, h₃⟩ := hdeals.self
    refine ⟨hd, ?_, ?_, fun hle => by simpa [h₁] using hclient hle⟩
    · simp [h₁, h₂, hdeals.starting, htakes, Instr.starting?]
    · simp [h₂, h₃, hdeals.handling, hstarts, Instr.handling?]
  · obtain ⟨h₁, h₂, h₃⟩ := hdeals.self
    refine ⟨hd, ?_, ?_, fun hle => by simpa [h₁] using hclient hle⟩
    · simp [h₁, h₂, hdeals.starting, htakes, hi]
    · simp [h₂, h₃, hdeals.handling, hstarts]

/-- An act leaves the rounds of the other threads alone. -/
theorem InRound.frame {u : Setup ι} {sh : Shared ι} {t t' : ThreadId} {i : Instr ι} {st : List (Instr ι)}
    {e : Effect ι} (ht : t' ≠ t) (hact : Act u sh t i e) (h : InRound u sh t' st) : InRound u e.shared t' st := by
  obtain ⟨xs, ys, zs, p, q, hdeals⟩ := hact.deals
  obtain ⟨htakes, hstarts, hendings⟩ := hdeals.other ht
  refine ⟨h.disciplined, ?_, ?_, ?_⟩
  · rw [htakes, hstarts]
    exact h.takes
  · rw [hstarts, hendings]
    exact h.starts
  · rw [htakes]
    exact h.client

theorem Reachable.inRound {u : Setup ι} {s : State ι} (h : Reachable u s) (t : ThreadId) :
    InRound u s.shared t (stackAt s.stacks t) := by
  refine h.stack_induction ?_ ?_ ?_ ?_ InRound.act InRound.frame t
  · intro t
    refine ⟨disciplined_start u t, ?_, ?_, fun _ => rfl⟩ <;> rw [stackAt_start] <;> split <;> rfl
  · rintro sh sh' t st hs ⟨hd, ht, hst, hc⟩
    exact ⟨hd, by rw [hs.takes, hs.starts]; exact ht, by rw [hs.starts, hs.endings]; exact hst,
      by rw [hs.takes]; exact hc⟩
  · rintro sh t role label script rest ⟨hd, ht, hst, hc⟩
    refine ⟨hd.answer script, ht, ?_, hc⟩
    cases role <;> exact hst
  · rintro sh t script hle ⟨hd, ht, hst, hc⟩
    exact ⟨⟨by simp [Instr.duty], by simp [Covered, Instr.pending]⟩, ht, hst, hc⟩

end Conveyor.Queue
