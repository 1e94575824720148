import Conveyor.Proofs.Queue.Fifo
import Conveyor.Proofs.Queue.Ledger
import Mathlib.Data.List.Induction

/-!
# Completion is exact

Three sections under the state lock may find a queue drained, and the completion result is set only after the lock is
let go. The verdict (`Shared.verdict`) is what the result is to be as things stand: the flag of the disposal if there
was one, else `true` once the queue is drained. It never changes once it is there, whoever brings it about has to set
the result to it, and nobody sets it to anything else (`Act.rules`, `Reachable.decided`).

* `completion_exact`: what a result of `true`, of `false` and of none says about the run.
-/

namespace Conveyor.Queue

variable {ι : Type}

/-! ## The verdict -/

/-- What the completion result is to be, as things stand. -/
def Shared.verdict (s : Shared ι) : Option Bool :=
  match s.disposals with
  | (_, _, drained) :: _ => some drained
  | [] => if s.buffer.value.isDrained then some true else none

namespace Shared

variable {u : Setup ι} {s s' : Shared ι}

theorem verdict_congr (hdisp : s'.disposals = s.disposals) (hbuf : s'.buffer.value = s.buffer.value) :
    s'.verdict = s.verdict := by
  unfold verdict
  rw [hdisp, hbuf]

theorem verdict_of_nil (h : s.disposals = []) : s.verdict = if s.buffer.value.isDrained then some true else none := by
  unfold verdict
  rw [h]

theorem Same.verdict (h : s.Same s') : s'.verdict = s.verdict := verdict_congr h.disposals h.buffer

end Shared

/-- A drained queue is not disposed, its adding has ended, and there is nothing left of its items. -/
theorem Buffer.isDrained_iff {b : Buffer ι} :
    b.isDrained = true ↔ b.disposed = false ∧ b.addingCompleted = true ∧ b.items = [] ∧ b.busy = 0 := by
  simp [Buffer.isDrained, and_assoc]

/-- Once the queue is drained, and not disposed since, the verdict is `true`. -/
theorem Fifo.verdict_of_drained {u : Setup ι} {s : Shared ι} (hf : Fifo u s) (h : s.buffer.value.isDrained = true) :
    s.verdict = some true := by
  rw [Shared.verdict_of_nil (hf.undisposed (Buffer.isDrained_iff.1 h).1), if_pos h]

/-- Plain instructions set no result. -/
theorem resolve_notMem {p : List (Instr ι)} (h : ∀ j ∈ p, j.isPlain = true) (b : Bool) : .resolve b ∉ p := fun hb =>
  Bool.false_ne_true (h _ hb)

section Acts

variable {u : Setup ι} {sh : Shared ι} {t : ThreadId} {i : Instr ι} {e : Effect ι}

/-- The state `sh'` has the verdict of `sh`, or one that is new there and that the instructions `p` bring into force. -/
def Rules (sh sh' : Shared ι) (p : List (Instr ι)) : Prop :=
  (sh'.verdict = sh.verdict ∧ ∀ b, .resolve b ∉ p) ∨
  ∃ b, sh'.verdict = some b ∧ (∀ b', .resolve b' ∈ p ↔ b' = b) ∧ (sh.verdict = none ∨ sh.verdict = some b) ∧
    (b = true → sh.verdict = some true ∨ sh'.buffer.value.isDrained = true)

/-- A section that looks whether it has just drained the queue. -/
theorem Fifo.rules (hf : Fifo u sh) {b : Buffer ι} {p : List (Instr ι)}
    (hmono : sh.buffer.value.isDrained = true → b.isDrained = true) (hflag : b.disposed = sh.buffer.value.disposed)
    (hp : ∀ d, .resolve d ∈ p ↔ d = true ∧ b.isDrained = true) : Rules sh (sh.setBuffer b) p := by
  by_cases hb : b.isDrained = true
  · have hnil := hf.undisposed (hflag.symm.trans (Buffer.isDrained_iff.1 hb).1)
    have hv : (sh.setBuffer b).verdict = some true := by
      rw [Shared.verdict_of_nil (by simpa using hnil), Shared.setBuffer_value, if_pos hb]
    refine .inr ⟨true, hv, fun d => by simp [hp, hb], ?_, fun _ => .inr hb⟩
    rw [Shared.verdict_of_nil hnil]
    split <;> simp
  · refine .inl ⟨?_, fun d hd => hb ((hp d).1 hd).2⟩
    have hb' : sh.buffer.value.isDrained = false := Bool.eq_false_iff.2 fun h => hb (hmono h)
    have hset : (sh.setBuffer b).disposals = sh.disposals := rfl
    simp only [Shared.verdict, hset, Shared.setBuffer_value, Bool.eq_false_iff.2 hb, hb']

/-- An act leaves the verdict as it is, or brings it about and then has the result set to it. -/
theorem Act.rules (hact : Act u sh t i e) (hf : Fifo u sh) : Rules sh e.shared e.push := by
  cases hact with
  | accept _ hopen =>
    simp only [Buffer.isClosed, Bool.or_eq_false_iff] at hopen
    refine .inl ⟨?_, by simp⟩
    have hnil := hf.undisposed hopen.1
    rw [Shared.verdict_of_nil hnil, Shared.verdict_of_nil (by simpa [Note.abandoned?] using hnil)]
    simp [Buffer.isDrained, hopen.2]
  | take _ hopen hitems =>
    refine .inl ⟨?_, by simp⟩
    have hnil := hf.undisposed hopen
    rw [Shared.verdict_of_nil hnil, Shared.verdict_of_nil (by simpa [Note.abandoned?] using hnil)]
    simp [Buffer.isDrained, hitems]
  | finish =>
    refine hf.rules (fun h => ?_) rfl fun d => ?_
    · obtain ⟨h₁, h₂, h₃, h₄⟩ := Buffer.isDrained_iff.1 h
      exact Buffer.isDrained_iff.2 ⟨h₁, h₂, h₃, by rw [Buffer.free_busy, h₄]⟩
    · split <;> simp_all
  | complete _ hnews =>
    refine hf.rules (fun h => ?_) rfl fun d => ?_
    · obtain ⟨h₁, h₂, h₃, h₄⟩ := Buffer.isDrained_iff.1 h
      exact Buffer.isDrained_iff.2 ⟨h₁, rfl, h₃, h₄⟩
    · have := resolve_notMem hnews d
      split <;> simp_all
  | close hopen hnews =>
    have hnil := hf.undisposed hopen
    refine .inr ⟨sh.buffer.value.isDrained, ?_, fun d => ?_, ?_, fun h => .inl (hf.verdict_of_drained h)⟩
    · simp [Shared.verdict, Note.abandoned?, hnil]
    · have := resolve_notMem hnews d
      simp [this]
    · rw [Shared.verdict_of_nil hnil]
      split <;> simp_all
  | refuse _ _ hsame hpush => exact .inl ⟨hsame.verdict, resolve_notMem hpush⟩
  | other _ _ hsame hpush => exact .inl ⟨hsame.verdict, resolve_notMem hpush⟩
  | resolve _ hnews =>
    exact .inl ⟨Shared.verdict_congr (by simp [Note.abandoned?]) rfl, resolve_notMem hnews⟩
  | start => exact .inl ⟨Shared.verdict_congr (by simp [Note.abandoned?]) rfl, by simp⟩
  | @handled x ending =>
    refine .inl ⟨Shared.verdict_congr (by simp [Note.abandoned?]) (by simp), fun b => ?_⟩
    cases ending <;> simp [Ending.report, Ending.fault?, raise]
  | @call role c next =>
    refine .inl ⟨rfl, fun b hb => ?_⟩
    rcases List.mem_append.1 hb with hb | hb
    · exact resolve_notMem (c.isPlain_instrs sh.now) b hb
    · simp at hb
  | _ => exact .inl ⟨rfl, by simp⟩

/-- A verdict is final. -/
theorem Rules.stable {sh' : Shared ι} {p : List (Instr ι)} (h : Rules sh sh' p) {b : Bool}
    (hv : sh.verdict = some b) : sh'.verdict = some b := by
  rcases h with ⟨heq, -⟩ | ⟨b', hv', -, hnone | hsome, -⟩
  · rw [heq, hv]
  · rw [hnone] at hv
    cases hv
  · rw [hv', ← hsome, hv]

/-- Only `resolve` sets the result, and only where there is none. -/
theorem Act.result_cases (hact : Act u sh t i e) :
    e.shared.result = sh.result ∧ (∀ b, i = .resolve b → sh.result.isSome = true) ∨
    ∃ b, i = .resolve b ∧ sh.result = none ∧ e.shared.result = some b := by
  cases hact with
  | @resolve drained _ hresult => exact .inr ⟨drained, rfl, hresult, rfl⟩
  | resolveLate hresult => exact .inl ⟨rfl, fun _ _ => hresult⟩
  | refuse hi _ hsame => exact .inl ⟨hsame.result, fun b hb => by rw [hb] at hi; cases hi⟩
  | other hi _ hsame => exact .inl ⟨hsame.result, fun b hb => by rw [hb] at hi; cases hi⟩
  | accept hi => exact .inl ⟨rfl, fun b hb => by rw [hb] at hi; cases hi⟩
  | await hi => exact .inl ⟨rfl, fun b hb => by rw [hb] at hi; cases hi⟩
  | take hi => exact .inl ⟨rfl, fun b hb => by rw [hb] at hi; cases hi⟩
  | idle hi => exact .inl ⟨rfl, fun b hb => by rw [hb] at hi; cases hi⟩
  | leave hi => exact .inl ⟨rfl, fun b hb => by rw [hb] at hi; cases hi⟩
  | handled => exact .inl ⟨by simp, fun b hb => nomatch hb⟩
  | _ => exact .inl ⟨rfl, fun b hb => nomatch hb⟩

theorem Act.result_stable (hact : Act u sh t i e) {b : Bool} (h : sh.result = some b) :
    e.shared.result = some b := by
  rcases hact.result_cases with ⟨heq, -⟩ | ⟨b', -, hnone, -⟩
  · rw [heq, h]
  · rw [hnone] at h
    cases h

end Acts

/-! ## When all is over -/

/-- Adding has ended, no item is left, no worker is busy, and no item was abandoned. -/
structure Over (sh : Shared ι) : Prop where
  addingCompleted : sh.buffer.value.addingCompleted = true
  items : sh.buffer.value.items = []
  busy : sh.buffer.value.busy = 0
  abandoned : sh.abandoned = []

section Acts

variable {u : Setup ι} {sh : Shared ι} {t : ThreadId} {i : Instr ι} {e : Effect ι}

theorem Fifo.over (hf : Fifo u sh) (h : sh.buffer.value.isDrained = true) : Over sh := by
  obtain ⟨hopen, hadd, hitems, hbusy⟩ := Buffer.isDrained_iff.1 h
  exact ⟨hadd, hitems, hbusy, by rw [Shared.abandoned, hf.undisposed hopen]; rfl⟩

theorem Over.congr {sh' : Shared ι} (h : Over sh) (hdisp : sh'.disposals = sh.disposals)
    (hbuf : sh'.buffer.value = sh.buffer.value) : Over sh' := by
  obtain ⟨hadd, hitems, hbusy, haband⟩ := h
  exact ⟨by rw [hbuf, hadd], by rw [hbuf, hitems], by rw [hbuf, hbusy], by rw [Shared.abandoned, hdisp]; exact haband⟩

/-- When all is over it stays so, and no item is accepted. -/
theorem Act.over (hact : Act u sh t i e) (h : Over sh) : Over e.shared ∧ e.shared.acceptances = sh.acceptances := by
  cases hact with
  | accept _ hopen => simp [Buffer.isClosed, h.addingCompleted] at hopen
  | take _ _ hitems => simp [h.items] at hitems
  | finish => exact ⟨⟨h.addingCompleted, h.items, by simp [h.busy], h.abandoned⟩, rfl⟩
  | complete => exact ⟨⟨rfl, h.items, h.busy, h.abandoned⟩, rfl⟩
  | close =>
    refine ⟨⟨h.addingCompleted, rfl, h.busy, ?_⟩, by simp [Note.accepted?]⟩
    simp [Note.abandoned?, h.items, h.abandoned]
  | refuse _ _ hsame => exact ⟨h.congr hsame.disposals hsame.buffer, hsame.acceptances⟩
  | other _ _ hsame => exact ⟨h.congr hsame.disposals hsame.buffer, hsame.acceptances⟩
  | start => exact ⟨h.congr (by simp [Note.abandoned?]) rfl, by simp [Note.accepted?]⟩
  | resolve => exact ⟨h.congr (by simp [Note.abandoned?]) rfl, by simp [Note.accepted?]⟩
  | handled => exact ⟨h.congr (by simp [Note.abandoned?]) (by simp), by simp [Note.accepted?]⟩
  | _ => exact ⟨h.congr rfl rfl, rfl⟩

end Acts

/-! ## The result follows the verdict -/

/-- The result is the verdict, or a thread has still to set it; and a verdict of `true` is well founded. -/
structure Decided (sh : Shared ι) (ss : List (List (Instr ι))) : Prop where
  result : ∀ {b}, sh.result = some b → sh.verdict = some b
  owed : ∀ {t b}, .resolve b ∈ stackAt ss t → sh.verdict = some b
  settled : ∀ {b}, sh.verdict = some b → sh.result = some b ∨ ∃ t, .resolve b ∈ stackAt ss t
  isOver : sh.verdict = some true → Over sh

section Shifts

variable {u : Setup ι} {sh sh' : Shared ι} {ss ss' : List (List (Instr ι))}

section Act

variable {t : ThreadId} {i : Instr ι} {rest : List (Instr ι)} {e : Effect ι}

/-- After an act, whoever has a result to set has the verdict to set. -/
theorem Decided.owed_act (h : Decided sh ss) (hf : Fifo u sh) (ht : ss[t]? = some (i :: rest)) (hact : Act u sh t i e)
    {t' : ThreadId} {b : Bool} (hb : .resolve b ∈ stackAt (ss.set t (e.push ++ rest)) t') :
    e.shared.verdict = some b := by
  have hrules := hact.rules hf
  rw [stackAt_set ht] at hb
  split at hb
  · rcases List.mem_append.1 hb with hb | hb
    · rcases hrules with ⟨-, hnot⟩ | ⟨b', hv', hmem, -⟩
      · exact absurd hb (hnot b)
      · rw [hv', (hmem b).1 hb]
    · refine hrules.stable (h.owed (t := t) ?_)
      rw [stackAt_of_getElem? ht]
      exact List.mem_cons_of_mem _ hb
  · exact hrules.stable (h.owed hb)

/-- A thread that acts on a verdict it owed has set the result. -/
theorem Decided.result_act (h : Decided sh ss) (hact : Act u sh t i e) {b : Bool} (hi : i = .resolve b)
    (hv : sh.verdict = some b) : e.shared.result = some b := by
  rcases hact.result_cases with ⟨hsame, hsome⟩ | ⟨b', hi', -, hb'⟩
  · obtain ⟨b', hb'⟩ := Option.isSome_iff_exists.1 (hsome b hi)
    have hbb : some b' = some b := (h.result hb').symm.trans hv
    rw [hsame, hb', hbb]
  · rw [hi'] at hi
    cases hi
    exact hb'

/-- After an act, a verdict is the result, or a thread has still to set it. -/
theorem Decided.settled_act (h : Decided sh ss) (hf : Fifo u sh) (ht : ss[t]? = some (i :: rest))
    (hact : Act u sh t i e) {b : Bool} (hv : e.shared.verdict = some b) :
    e.shared.result = some b ∨ ∃ t', .resolve b ∈ stackAt (ss.set t (e.push ++ rest)) t' := by
  rcases hact.rules hf with ⟨heq, -⟩ | ⟨b', hv', hmem, -⟩
  · rcases h.settled (heq ▸ hv) with hres | ⟨t', hb⟩
    · exact .inl (hact.result_stable hres)
    · by_cases htt : t' = t
      · subst htt
        rw [stackAt_of_getElem? ht] at hb
        rcases List.mem_cons.1 hb with hi | hb
        · exact .inl (h.result_act hact hi.symm (heq ▸ hv))
        · exact .inr ⟨t', by rw [stackAt_set ht, if_pos rfl]; exact List.mem_append_right _ hb⟩
      · exact .inr ⟨t', by rw [stackAt_set ht, if_neg htt]; exact hb⟩
  · rw [hv'] at hv
    cases hv
    exact .inr ⟨t, by rw [stackAt_set ht, if_pos rfl]; exact List.mem_append_left _ ((hmem _).2 rfl)⟩

/-- After an act, a verdict of `true` is well founded. -/
theorem Decided.isOver_act (h : Decided sh ss) (hf : Fifo u sh) (hact : Act u sh t i e)
    (hv : e.shared.verdict = some true) : Over e.shared := by
  rcases hact.rules hf with ⟨heq, -⟩ | ⟨b', hv', -, -, hwhy⟩
  · exact (hact.over (h.isOver (heq ▸ hv))).1
  · rw [hv'] at hv
    cases hv
    rcases hwhy rfl with hold | hnew
    · exact (hact.over (h.isOver hold)).1
    · exact (hact.fifo hf).over hnew

/-- An act keeps the result in line with the verdict. -/
theorem Decided.act (h : Decided sh ss) (hf : Fifo u sh) (ht : ss[t]? = some (i :: rest)) (hact : Act u sh t i e) :
    Decided e.shared (ss.set t (e.push ++ rest)) := by
  refine ⟨fun {b} hb => ?_, h.owed_act hf ht hact, h.settled_act hf ht hact, h.isOver_act hf hact⟩
  rcases hact.result_cases with ⟨heq, -⟩ | ⟨b', rfl, -, hb'⟩
  · exact (hact.rules hf).stable (h.result (heq ▸ hb))
  · rw [hb'] at hb
    cases hb
    refine (hact.rules hf).stable (h.owed (t := t) ?_)
    rw [stackAt_of_getElem? ht]
    exact List.mem_cons_self

end Act

/-- What moves no result and changes nothing that a thread owes keeps the result in line with the verdict. -/
theorem Decided.congr (h : Decided sh ss) (hsame : sh.Same sh')
    (howed : ∀ t b, .resolve b ∈ stackAt ss' t ↔ .resolve b ∈ stackAt ss t) : Decided sh' ss' where
  result hb := by rw [hsame.verdict]; exact h.result (hsame.result ▸ hb)
  owed hb := by rw [hsame.verdict]; exact h.owed ((howed _ _).1 hb)
  settled hv := by
    rw [hsame.verdict] at hv
    rcases h.settled hv with hres | ⟨t, hb⟩
    · exact .inl (hsame.result ▸ hres)
    · exact .inr ⟨t, (howed t _).2 hb⟩
  isOver hv := (h.isOver (hsame.verdict ▸ hv)).congr hsame.disposals hsame.buffer

theorem Shift.decided (hsh : Shift u sh ss sh' ss') (hf : Fifo u sh) (h : Decided sh ss) : Decided sh' ss' := by
  cases hsh with
  | act ht hact => exact h.act hf ht hact
  | @answer t role label rest script ht =>
    refine h.congr (.refl sh) fun t' b => ?_
    rw [stackAt_set ht]
    split
    · rename_i htt
      rw [htt, stackAt_of_getElem? ht]
      simp
    · rfl
  | spawn script =>
    refine h.congr (.refl sh) fun t' b => ?_
    rw [stackAt_append]
    split
    · rename_i htt
      rw [htt]
      simp [stackAt]
    · rfl
  | same hsame => exact h.congr hsame fun _ _ => Iff.rfl

/-- Where nobody has a result to set, the result is the verdict. -/
theorem Decided.result_eq (h : Decided sh ss) (howed : ∀ t b, .resolve b ∉ stackAt ss t) : sh.result = sh.verdict := by
  cases hv : sh.verdict with
  | none =>
    refine Option.eq_none_iff_forall_ne_some.2 fun b hb => ?_
    rw [h.result hb] at hv
    cases hv
  | some b =>
    rcases h.settled hv with hb | ⟨t, hb⟩
    · exact hb
    · exact absurd hb (howed t b)

end Shifts

theorem decided_start (u : Setup ι) : Decided u.start.shared u.start.stacks where
  result hb := nomatch hb
  owed {t b} hb := by
    rw [stackAt_start] at hb
    split at hb <;> simp at hb
  settled hv := nomatch hv
  isOver hv := nomatch hv

theorem Reachable.decided {u : Setup ι} {s : State ι} (h : Reachable u s) : Decided s.shared s.stacks :=
  h.shift_induction (I := Decided) (decided_start u) fun hr hsh => hsh.decided hr.fifo

/-! ## Runs and the verdict -/

section Shifts

variable {u : Setup ι} {sh sh' : Shared ι} {ss ss' : List (List (Instr ι))}

theorem Shift.result_stable (hsh : Shift u sh ss sh' ss') {b : Bool} (h : sh.result = some b) :
    sh'.result = some b := by
  cases hsh with
  | act _ hact => exact hact.result_stable h
  | same hsame => rw [hsame.result, h]
  | _ => exact h

theorem Shift.verdict_stable (hsh : Shift u sh ss sh' ss') (hf : Fifo u sh) {b : Bool} (h : sh.verdict = some b) :
    sh'.verdict = some b := by
  cases hsh with
  | act _ hact => exact (hact.rules hf).stable h
  | same hsame => rw [hsame.verdict, h]
  | _ => exact h

/-- A verdict of `true` comes from the step that drains the queue. -/
theorem Shift.verdict_true (hsh : Shift u sh ss sh' ss') (hf : Fifo u sh) (h : sh'.verdict = some true) :
    sh.verdict = some true ∨ sh'.buffer.value.isDrained = true := by
  cases hsh with
  | act _ hact =>
    rcases hact.rules hf with ⟨heq, -⟩ | ⟨b, hb, -, -, hwhy⟩
    · exact .inl (heq ▸ h)
    · rw [hb] at h
      cases h
      exact hwhy rfl
  | same hsame => exact .inl (hsame.verdict ▸ h)
  | _ => exact .inl h

theorem Shift.over (hsh : Shift u sh ss sh' ss') (h : Over sh) :
    Over sh' ∧ sh'.acceptances = sh.acceptances := by
  cases hsh with
  | act _ hact => exact hact.over h
  | same hsame => exact ⟨h.congr hsame.disposals hsame.buffer, hsame.acceptances⟩
  | _ => exact ⟨h, rfl⟩

end Shifts

section Runs

variable {u : Setup ι} {s s' : State ι} {cs : List (Choice ι)}

/-- Once there is a result, it never changes. -/
theorem Reachable.result_stable (h : Reachable u s) {b : Bool} (hb : s.shared.result = some b)
    (he : Queue.execute u s cs = some s') : s'.shared.result = some b :=
  h.execute_induction (P := fun s => s.shared.result = some b) (fun hr hs => (hr.shift hs).result_stable) he hb

theorem Reachable.verdict_stable (h : Reachable u s) {b : Bool} (hb : s.shared.verdict = some b)
    (he : Queue.execute u s cs = some s') : s'.shared.verdict = some b :=
  h.execute_induction (P := fun s => s.shared.verdict = some b)
    (fun hr hs => (hr.shift hs).verdict_stable hr.fifo) he hb

/-- When all is over, it stays so, and no item is accepted any more. -/
theorem Reachable.over_stable (h : Reachable u s) (ho : Over s.shared) (he : Queue.execute u s cs = some s') :
    Over s'.shared ∧ s'.shared.acceptances = s.shared.acceptances := by
  refine h.execute_induction (P := fun s₁ => Over s₁.shared ∧ s₁.shared.acceptances = s.shared.acceptances)
    (fun hr hs hP => ?_) he ⟨ho, rfl⟩
  obtain ⟨ho', hacc⟩ := (hr.shift hs).over hP.1
  exact ⟨ho', hacc.trans hP.2⟩

/-- At some moment of the run from the start, the queue was drained (and not disposed). -/
def WasDrained (u : Setup ι) (cs : List (Choice ι)) : Prop :=
  ∃ cs₀ s₀, cs₀ <+: cs ∧ execute u u.start cs₀ = some s₀ ∧ s₀.shared.buffer.value.isDrained = true

/-- At some moment of the run from the start, the queue was disposed without being drained. -/
def WasCutShort (u : Setup ι) (cs : List (Choice ι)) : Prop :=
  ∃ cs₀ c cs₁ s₀ s₁, cs = cs₀ ++ c :: cs₁ ∧ execute u u.start cs₀ = some s₀ ∧ step u s₀ c = some s₁ ∧
    s₀.shared.buffer.value.disposed = false ∧ s₁.shared.buffer.value.disposed = true ∧
    (s₀.shared.buffer.value.addingCompleted = false ∨ s₀.shared.buffer.value.items ≠ [] ∨
      s₀.shared.buffer.value.busy ≠ 0)

theorem wasDrained_of_verdict (he : execute u u.start cs = some s) (hv : s.shared.verdict = some true) :
    WasDrained u cs := by
  induction cs using List.reverseRecOn generalizing s with
  | nil =>
    cases he
    cases hv
  | append_singleton cs c ih =>
    obtain ⟨s₁, he₁, hs⟩ := execute_concat.1 he
    have hr := Reachable.start.execute he₁
    rcases (hr.shift hs).verdict_true hr.fifo hv with hv₁ | hd
    · obtain ⟨cs₀, s₀, hpre, h₀⟩ := ih he₁ hv₁
      exact ⟨cs₀, s₀, hpre.trans (List.prefix_append ..), h₀⟩
    · exact ⟨cs ++ [c], s, List.prefix_rfl, he, hd⟩

/-- The verdict is `true` exactly if the queue was drained at some moment. -/
theorem verdict_true_iff (he : execute u u.start cs = some s) : s.shared.verdict = some true ↔ WasDrained u cs := by
  refine ⟨wasDrained_of_verdict he, ?_⟩
  rintro ⟨cs₀, s₀, ⟨cs₁, rfl⟩, he₀, hd⟩
  rw [execute_append, he₀, Option.bind_some] at he
  have hr := Reachable.start.execute he₀
  exact hr.verdict_stable (hr.fifo.verdict_of_drained hd) he

/-- A queue without a verdict is not disposed. -/
theorem Fifo.undisposed_of_verdict {sh : Shared ι} (hf : Fifo u sh) (h : sh.verdict = none) :
    sh.buffer.value.disposed = false := by
  by_contra hd
  obtain ⟨-, t, xs, drained, hxs⟩ := hf.disposed (by simpa using hd)
  rw [Shared.verdict, hxs] at h
  cases h

/-- The verdict `false` is that of a disposal. -/
theorem Fifo.disposed_of_verdict {sh : Shared ι} (hf : Fifo u sh) (h : sh.verdict = some false) :
    sh.buffer.value.disposed = true := by
  by_contra hd
  rw [Shared.verdict_of_nil (hf.undisposed (Bool.eq_false_iff.2 hd))] at h
  split at h <;> cases h

/-- A verdict of `false` comes from a disposal that cut the queue short. -/
theorem wasCutShort_of_verdict (he : execute u u.start cs = some s) (hv : s.shared.verdict = some false) :
    WasCutShort u cs := by
  induction cs using List.reverseRecOn generalizing s with
  | nil =>
    cases he
    cases hv
  | append_singleton cs c ih =>
    obtain ⟨s₁, he₁, hs⟩ := execute_concat.1 he
    have hr := Reachable.start.execute he₁
    cases hv₁ : s₁.shared.verdict with
    | some b =>
      have hb := (hr.shift hs).verdict_stable hr.fifo hv₁
      rw [hv] at hb
      cases hb
      obtain ⟨cs₀, c₀, cs₁, s₀, s₁', rfl, h₀⟩ := ih he₁ hv₁
      exact ⟨cs₀, c₀, cs₁ ++ [c], s₀, s₁', by simp, h₀⟩
    | none =>
      -- the last step is the disposal
      have hopen := hr.fifo.undisposed_of_verdict hv₁
      have hshort : s₁.shared.buffer.value.isDrained = false := by
        by_contra hd
        have hb := hr.fifo.verdict_of_drained (by simpa using hd)
        rw [hv₁] at hb
        cases hb
      refine ⟨cs, c, [], s₁, s, rfl, he₁, hs, hopen, (hr.step hs).fifo.disposed_of_verdict hv, ?_⟩
      by_contra hall
      simp only [ne_eq, not_or, not_not, Bool.not_eq_false] at hall
      rw [Buffer.isDrained_iff.2 ⟨hopen, hall⟩] at hshort
      cases hshort

/-! ## What is left when all is over -/

/-- With no worker busy, no work on an item is left. -/
theorem Reachable.pending_zero (h : Reachable u s) (hbusy : s.shared.buffer.value.busy = 0) :
    total Instr.pending s.stacks = 0 := by
  have hle : total Instr.pending s.stacks ≤ total Instr.closing s.stacks :=
    total_le_total fun t => (h.inRound t).disciplined.2.le
  rw [← h.busy_eq, hbusy] at hle
  exact Nat.le_zero.1 hle

theorem owed_le_pending {c : Counter} (hc : c = .processed ∨ c = .failed) (i : Instr ι) : i.owed c ≤ i.pending := by
  cases i with
  | bump c' n => rcases hc with rfl | rfl <;> cases c' <;> simp [Instr.owed, Instr.pending]
  | _ => exact Nat.zero_le _

/-- With no worker busy, the outcomes are all recorded. -/
theorem Reachable.recorded_outcome (h : Reachable u s) (hbusy : s.shared.buffer.value.busy = 0) {c : Counter}
    (hc : c = .processed ∨ c = .failed) : s.shared.recorded c = s.shared.counters.get c := by
  have hle : total (Instr.owed c) s.stacks ≤ total Instr.pending s.stacks :=
    total_le_total fun t => load_le_load fun i _ => owed_le_pending hc i
  rw [h.pending_zero hbusy] at hle
  have := h.recorded_eq (c := c) (by rcases hc with rfl | rfl <;> decide)
  omega

theorem onThread_map {β γ : Type} (t : ThreadId) (f : β → γ) (l : List (ThreadId × β)) :
    onThread t (l.map fun p => (p.1, f p.2)) = (onThread t l).map f := by
  induction l with
  | nil => rfl
  | cons p l ih => by_cases hp : p.1 = t <;> simp_all [onThread]

/-- With no worker busy, the handler is done with exactly the taken items. -/
theorem Reachable.handled_perm_taken (h : Reachable u s) (hbusy : s.shared.buffer.value.busy = 0) :
    s.shared.handled.Perm s.shared.taken := by
  have hthread : ∀ t, onThread t s.shared.takes = onThread t (s.shared.endings.map fun p => (p.1, p.2.1)) := by
    intro t
    have hzero : load Instr.pending (stackAt s.stacks t) = 0 :=
      Nat.le_zero.1 (h.pending_zero hbusy ▸ load_stackAt_le_total _ _ t)
    obtain ⟨hs, hh⟩ := filterMap_of_pending hzero
    have hr := h.inRound t
    rw [hr.takes, hr.starts, hs, hh, onThread_map, List.append_nil, List.append_nil]
  have := ((perm_of_onThread hthread).map Prod.snd).symm
  rwa [List.map_map] at this

/-- When all is over, the handler is done with exactly the accepted items. -/
theorem Reachable.handled_perm (h : Reachable u s) (ho : Over s.shared) :
    s.shared.handled.Perm s.shared.accepted := by
  have hacc : s.shared.accepted = s.shared.taken := by
    rw [h.fifo.order, ho.abandoned, ho.items, List.append_nil, List.append_nil]
  exact hacc ▸ h.handled_perm_taken ho.busy

/-! ## Completion -/

/-- Where nobody has still to set the result, it is `true` if the queue was ever drained, else `false` if the queue is
disposed, else not there. -/
theorem result_of_unowed (he : execute u u.start cs = some s) (howed : ∀ th ∈ s.threads, ∀ b, .resolve b ∉ th.stack) :
    (s.shared.result = some true ↔ WasDrained u cs) ∧
    (s.shared.result = some false ↔ s.shared.buffer.value.disposed = true ∧ ¬ WasDrained u cs) ∧
    (s.shared.result = none ↔ s.shared.buffer.value.disposed = false ∧ ¬ WasDrained u cs) := by
  have hr : Reachable u s := Reachable.start.execute he
  have heq : s.shared.result = s.shared.verdict := by
    refine hr.decided.result_eq fun t b hb => ?_
    obtain ⟨st, hst, hi⟩ := mem_of_stackAt hb
    obtain ⟨th, hth, rfl⟩ := List.mem_map.1 hst
    exact howed th hth b hi
  rw [heq, ← verdict_true_iff he]
  cases hv : s.shared.verdict with
  | none =>
    have hopen := hr.fifo.undisposed_of_verdict hv
    simp [hopen]
  | some b =>
    cases b with
    | true => simp
    | false => simp [hr.fifo.disposed_of_verdict hv]

/-- In every state that a run leads to: if the result is `true`, adding has ended, exactly the accepted items were
handled and counted, and whatever comes, none is abandoned and none more accepted; if it is `false`, the queue was
disposed at a moment at which it was not drained; a result never changes; and where nobody has still to set it, it is
`true` if the queue was ever drained, else `false` if the queue is disposed, else not there. -/
theorem completion_exact (he : execute u u.start cs = some s) :
    (s.shared.result = some true →
      s.shared.buffer.value.addingCompleted = true ∧ s.shared.handled.Perm s.shared.accepted ∧
      s.shared.counters.processed = s.shared.successes ∧ s.shared.counters.failed = s.shared.failures ∧
      s.shared.counters.processed + s.shared.counters.failed = s.shared.accepted.length ∧
      ∀ cs' s', execute u s cs' = some s' → s'.shared.abandoned = [] ∧ s'.shared.accepted = s.shared.accepted) ∧
    (s.shared.result = some false → WasCutShort u cs) ∧
    (∀ b, s.shared.result = some b → ∀ cs' s', execute u s cs' = some s' → s'.shared.result = some b) ∧
    ((∀ th ∈ s.threads, ∀ b, .resolve b ∉ th.stack) →
      (s.shared.result = some true ↔ WasDrained u cs) ∧
      (s.shared.result = some false ↔ s.shared.buffer.value.disposed = true ∧ ¬ WasDrained u cs) ∧
      (s.shared.result = none ↔ s.shared.buffer.value.disposed = false ∧ ¬ WasDrained u cs)) := by
  have hr : Reachable u s := Reachable.start.execute he
  have hd := hr.decided
  refine ⟨fun htrue => ?_, fun hfalse => wasCutShort_of_verdict he (hd.result hfalse),
    fun b hb cs' s' he' => hr.result_stable hb he', result_of_unowed he⟩
  have ho := hd.isOver (hd.result htrue)
  have hproc := hr.recorded_outcome ho.busy (.inl rfl)
  have hfail := hr.recorded_outcome ho.busy (.inr rfl)
  refine ⟨ho.addingCompleted, hr.handled_perm ho, hproc.symm, hfail.symm, ?_, fun cs' s' he' => ?_⟩
  · rw [hr.accepted_eq, ho.items, hr.pending_zero ho.busy, ho.abandoned]
    simp
  · obtain ⟨ho', hacc⟩ := hr.over_stable ho he'
    exact ⟨ho'.abandoned, by rw [Shared.accepted, hacc]; rfl⟩

/-- A client adds an item and completes adding; the worker handles the item and finds the queue drained. -/
def sampleDrain : List (Choice Nat) :=
  .spawn (.call (.add .owner 7 none) fun _ => .just .completeAdding) :: runs 1 15 ++ runs 0 4 ++ [.answer 0 .done] ++
    runs 0 4

theorem sample_completion_exact :
    execute sample sample.start sampleDrain = some (after sample sampleDrain) ∧
      (after sample sampleDrain).shared.result = some true ∧
      (after sample sampleDrain).shared.handled.Perm (after sample sampleDrain).shared.accepted ∧
      (after sample sampleDrain).shared.accepted = [7] ∧
      (after sample sampleDrain).shared.counters.processed = (after sample sampleDrain).shared.successes := by
  have he : execute sample sample.start sampleDrain = some (after sample sampleDrain) := execute_after rfl
  have hresult : (after sample sampleDrain).shared.result = some true := rfl
  obtain ⟨-, hperm, hproc, -⟩ := (completion_exact he).1 hresult
  exact ⟨he, hresult, hperm, rfl, hproc⟩

end Runs

end Conveyor.Queue
