import Conveyor.Proofs.Queue.Outcome

/-!
# Statistics that are read while others move

A call for the statistics reads the counters one after the other, and in between the others may move. An addition is
counted only after the lock is released, so a worker may be done with an item that is not counted yet: statistics can
have more outcomes than inputs (`stats_overdrawn`). They have more only by additions that were on their way when the
call began, or came while it read (`stats_bounded`).
-/

namespace Conveyor.Queue

variable {ι : Type}

section Counters

variable {u : Setup ι} {s s' : State ι} {c : Choice ι} {cs : List (Choice ι)} {k : Counter}

theorem Act.counters_le {sh : Shared ι} {t : ThreadId} {i : Instr ι} {e : Effect ι} (hact : Act u sh t i e)
    (k : Counter) : sh.counters.get k ≤ e.shared.counters.get k := by
  cases hact with
  | @bump c n =>
    rw [Shared.count_counters, Counters.get_add]
    split <;> omega
  | refuse _ _ hsame => rw [hsame.counters]
  | other _ _ hsame => rw [hsame.counters]
  | handled => rw [Shared.noteEnding_counters]
  | _ => exact Nat.le_refl _

theorem Turn.counters_le {sh sh' : Shared ι} {ss ss' : List (List (Instr ι))} {d : Option (Deed ι)}
    (h : Turn u sh ss d sh' ss') (k : Counter) : sh.counters.get k ≤ sh'.counters.get k := by
  cases h with
  | act _ hact => exact hact.counters_le k
  | same hsame => rw [hsame.counters]
  | _ => exact Nat.le_refl _

/-- Counters only grow. -/
theorem Reachable.counters_le (h : Reachable u s) (hs : Queue.step u s c = some s') (k : Counter) :
    s.shared.counters.get k ≤ s'.shared.counters.get k := (h.turn hs).counters_le k

/-- At any time, at most as many outcomes are counted as items were accepted. -/
theorem Reachable.outcomes_le (h : Reachable u s) :
    s.shared.counters.processed + s.shared.counters.failed + s.shared.counters.abandoned ≤
      s.shared.accepted.length := by
  have hacc := h.accepted_eq
  have habandoned : s.shared.abandoned.length = s.shared.counters.abandoned + total (Instr.owed .abandoned) s.stacks :=
    h.recorded_eq (c := .abandoned) (by decide)
  omega

/-- The accepted items are those counted and those whose count is on its way. -/
theorem Reachable.enqueued_eq (h : Reachable u s) :
    s.shared.accepted.length = s.shared.counters.enqueued + total (Instr.owed .enqueued) s.stacks :=
  h.recorded_eq (c := .enqueued) (by decide)

end Counters

/-! ## How far a call for the statistics has come -/

/-- Thread `t` has still to read the counters `l` above `rest`. What it has read lies between what the counter was when
the call began, and what it is now. -/
inductive Reading (t : ThreadId) (rest : List (Instr ι)) (sh : Shared ι) (s : State ι) : Prop
  | mk {l : List Counter} {k : Stats} (hst : stackAt s.stacks t = l.map .load ++ rest)
      (hreply : s.reply? t = some (.stats k))
      (since : ∀ c, sh.counters.get c ≤ s.shared.counters.get c)
      (read : ∀ c ∉ l, sh.counters.get c ≤ k.get c ∧ k.get c ≤ s.shared.counters.get c)

section Reading

variable {u : Setup ι} {s s' : State ι} {c : Choice ι} {t : ThreadId} {rest : List (Instr ι)} {sh : Shared ι}

/-- One step of a run: the thread reads a counter, or the others move. -/
theorem Reading.step (h : Reading t rest sh s) (hr : Reachable u s) (hs : Queue.step u s c = some s')
    (hback : stackAt s.stacks t ≠ rest) : Reading t rest sh s' := by
  obtain ⟨hst, hreply, since, read⟩ := h
  rename_i l k
  have hgrow := hr.counters_le hs
  have since' : ∀ c, sh.counters.get c ≤ s'.shared.counters.get c := fun c => (since c).trans (hgrow c)
  cases l with
  | nil => exact absurd hst hback
  | cons j l =>
    by_cases hc : c.isOf t = true
    · obtain ⟨i, below, e, hp⟩ := performs_of_turn hs hc
      obtain ⟨rfl, rfl⟩ := List.cons.inj (hp.before.symm.trans hst)
      obtain ⟨held, he, hheld, hreply'⟩ := hp.reply
      obtain rfl : held = .stats k := Option.some.inj (hheld.symm.trans hreply)
      have hafter := hp.after
      cases he
      refine .mk (k := { k with toCounters := k.toCounters.set (s.shared.counters.get j) j }) hafter hreply' since' ?_
      intro c hc
      have hgrow := hgrow c
      rw [Counters.get_set]
      split
      · rename_i hj
        subst hj
        exact ⟨since j, hgrow⟩
      · rename_i hj
        obtain ⟨hlow, hhigh⟩ := read c (by simp [hc, Ne.symm hj])
        exact ⟨hlow, hhigh.trans hgrow⟩
    · have hc : c.isOf t = false := by simpa using hc
      have hne : stackAt s.stacks t ≠ [] := by simp [hst]
      rcases stackAt_of_other hs hc hne with heq | ⟨role, label, below, script, heq, -⟩
      · refine .mk (heq.trans hst) ((reply?_of_other hs hc hne).trans hreply) since' fun c hc => ?_
        exact ⟨(read c hc).1, (read c hc).2.trans (hgrow c)⟩
      · rw [hst] at heq
        cases heq

/-- Whenever a call for the statistics is back, each counter has the value that it had at some moment of the call. So
the outcomes that it reports exceed the inputs at most by the additions that were on their way when the call began, and
by those accepted since. -/
theorem stats_bounded {s₀ s₁ : State ι} {sleeper : Option ThreadId} {cs : List (Choice ι)} (h : Reachable u s₀)
    (hst : stackAt s₀.stacks t = .stats :: rest) (hs : step u s₀ (.run t sleeper) = some s₁)
    (he : execute u s₁ cs = some s) :
    Away u t rest s₁ cs ∨
      ∃ cs₁ c cs₂ s' k, cs = cs₁ ++ c :: cs₂ ∧ execute u s₁ (cs₁ ++ [c]) = some s' ∧ stackAt s'.stacks t = rest ∧
        s'.reply? t = some (.stats k) ∧
        (∀ c, s₀.shared.counters.get c ≤ k.get c ∧ k.get c ≤ s'.shared.counters.get c) ∧
        k.processed + k.failed + k.abandoned + s₀.shared.accepted.length ≤
          k.enqueued + total (Instr.owed .enqueued) s₀.stacks + s'.shared.accepted.length := by
  obtain ⟨i, below, e, hp⟩ := performs_of_step hs
  obtain ⟨rfl, rfl⟩ := List.cons.inj (hp.before.symm.trans hst)
  obtain ⟨held, he₀, -, hreply⟩ := hp.reply
  have hafter := hp.after
  cases he₀
  have hr := h.step hs
  have hbegin : Reading t below s₀.shared s₁ :=
    .mk (l := [.enqueued, .processed, .failed, .rejected, .abandoned]) hafter hreply (h.counters_le hs)
      (fun c hc => absurd (by cases c <;> simp) hc)
  have hout : stackAt s₁.stacks t ≠ below := by
    intro heq
    cases List.append_left_eq_self.1 (hafter.symm.trans heq)
  rcases away_or_back (P := fun _ => Reading t below s₀.shared) hbegin hout he
    (fun _ he hs hback h => h.step (hr.execute he) hs hback) with
    ⟨haway, -⟩ | ⟨cs₁, c, cs₂, s', hcs, -, he₁, hback, hread⟩
  · exact .inl haway
  · obtain ⟨hst', hreply', -, read⟩ := hread
    rename_i l k
    obtain rfl : l = [] := by
      have hnil := List.append_left_eq_self.1 (hst'.symm.trans hback)
      exact List.map_eq_nil_iff.1 hnil
    have hread : ∀ c, s₀.shared.counters.get c ≤ k.get c ∧ k.get c ≤ s'.shared.counters.get c := fun c =>
      read c (by simp)
    refine .inr ⟨cs₁, c, cs₂, s', k, hcs, he₁, hback, hreply', hread, ?_⟩
    have henqueued : s₀.shared.counters.enqueued ≤ k.enqueued := (hread .enqueued).1
    have hprocessed : k.processed ≤ s'.shared.counters.processed := (hread .processed).2
    have hfailed : k.failed ≤ s'.shared.counters.failed := (hread .failed).2
    have habandoned : k.abandoned ≤ s'.shared.counters.abandoned := (hread .abandoned).2
    have hinputs := h.enqueued_eq
    have houtcomes := (hr.execute he₁).outcomes_le
    omega

end Reading

/-- A client's item is accepted and not yet counted when the worker is done with it; then another client asks for the
statistics. -/
def sampleOverdrawn : List (Choice Nat) :=
  .spawn (.just (.add .owner 7 none)) :: runs 1 2 ++ runs 0 4 ++ .answer 0 .done :: runs 0 2 ++
    .spawn (.just .stats) :: runs 2 7

theorem stats_overdrawn :
    ∃ s k, execute sample sample.start sampleOverdrawn = some s ∧ s.reply? 2 = some (.stats k) ∧ k.enqueued = 0 ∧
      k.processed = 1 :=
  ⟨_, _, rfl, rfl, rfl, rfl⟩

end Conveyor.Queue
