import Conveyor.Proofs.Queue.Events

/-!
# The order of the lifecycle events

The steps of a queue's life come in order: adding ends before the work does, and neither happens once the queue is
disposed. An event is published only after the section under the lock that it announces, and between the two another
thread may publish what comes later. So the events can be out of order (`lifecycle_out_of_order`), but only by being
overtaken in this way: when a later event is out, the thread with the earlier one has already left its section
(`lifecycle_order`).
-/

namespace Conveyor.Queue

variable {ι : Type}

/-! ## The order of a life -/

/-- Whether an event of type `a` may be published before one of type `b`, in the order of a queue's life. -/
def mayPrecede : EventType → EventType → Bool
  | .completed, .addingCompleted => false
  | .disposed, .addingCompleted => false
  | .disposed, .completed => false
  | _, _ => true

/-- The end of adding comes before the end of the work, and neither after the disposal. -/
def InOrder (types : List EventType) : Prop := types.Pairwise fun a b => mayPrecede a b = true

instance (types : List EventType) : Decidable (InOrder types) :=
  inferInstanceAs (Decidable (types.Pairwise fun a b => mayPrecede a b = true))

/-! ## A disposal is announced after the result is there -/

/-- Before a disposal is announced, the result is there, or the thread sets it. -/
def Settles (sh : Shared ι) : List (Instr ι) → Prop
  | [] => True
  | .resolve _ :: _ => True
  | .publish x :: st => (x.type = .disposed → sh.result.isSome = true) ∧ Settles sh st
  | _ :: st => Settles sh st

theorem settles_of_result {sh : Shared ι} (h : sh.result.isSome = true) (st : List (Instr ι)) : Settles sh st := by
  induction st with
  | nil => trivial
  | cons i st ih =>
    cases i with
    | publish x => exact ⟨fun _ => h, ih⟩
    | resolve d => trivial
    | _ => exact ih

/-- Below an instruction that is not the setting of the result, what settles still does. -/
theorem Settles.tail {sh : Shared ι} {i : Instr ι} {st : List (Instr ι)} (h : Settles sh (i :: st))
    (hi : ∀ d, i ≠ .resolve d) : Settles sh st := by
  cases i with
  | publish x => exact h.2
  | resolve d => exact absurd rfl (hi d)
  | _ => exact h

/-- Instructions that announce no disposal may lie anywhere. -/
theorem settles_append {sh : Shared ι} {p st : List (Instr ι)}
    (hp : ∀ x, .publish x ∈ p → x.type ≠ .disposed) (h : Settles sh st) : Settles sh (p ++ st) := by
  induction p with
  | nil => exact h
  | cons i p ih =>
    have hrest := ih fun x hx => hp x (List.mem_cons_of_mem _ hx)
    cases i with
    | publish x => exact ⟨fun hx => absurd hx (hp x List.mem_cons_self), hrest⟩
    | resolve d => trivial
    | _ => exact hrest

/-- A result that is there to stay settles all the more. -/
theorem Settles.mono {sh sh' : Shared ι} (hres : sh.result.isSome = true → sh'.result.isSome = true)
    {st : List (Instr ι)} (h : Settles sh st) : Settles sh' st := by
  induction st with
  | nil => trivial
  | cons i st ih =>
    cases i with
    | publish x => exact ⟨fun hx => hres (h.1 hx), ih h.2⟩
    | resolve d => trivial
    | _ => exact ih h

section Acts

variable {u : Setup ι} {sh : Shared ι} {t : ThreadId} {i : Instr ι} {rest : List (Instr ι)} {e : Effect ι}

theorem Act.result_isSome (hact : Act u sh t i e) (h : sh.result.isSome = true) : e.shared.result.isSome = true := by
  obtain ⟨b, hb⟩ := Option.isSome_iff_exists.1 h
  rw [hact.result_stable hb]
  rfl

/-- A voice that leaves a disposal to be announced is the disposal. -/
theorem Voice.disposed_of_publish (hvoice : Voice u sh t i e) {x : QueueEvent} (hx : .publish x ∈ e.push)
    (htype : x.type = .disposed) : sh.buffer.value.disposed = false ∧ e.shared.buffer.value.disposed = true := by
  cases hvoice.fresh hx with
  | exception =>
    have := type_ofException (Prod.snd ‹ThreadId × QueueException›)
    rw [htype] at this
    cases this
  | addingCompleted => cases htype
  | completed => cases htype
  | disposed hbefore hset => exact ⟨hbefore, hset⟩

/-- What a voice leaves to do settles, on top of what did. -/
theorem Settles.act (h : Settles sh (i :: rest)) (hact : Act u sh t i e) (hvoice : Voice u sh t i e) :
    Settles e.shared (e.push ++ rest) := by
  by_cases hi : ∃ d, i = .resolve d
  · -- whoever sets the result leaves it set
    obtain ⟨d, rfl⟩ := hi
    refine settles_of_result ?_ _
    rcases hact.result_cases with ⟨heq, hsome⟩ | ⟨b, -, -, hb⟩
    · rw [heq]
      exact hsome d rfl
    · rw [hb]
      rfl
  have hrest : Settles e.shared rest := (h.tail fun d hd => hi ⟨d, hd⟩).mono hact.result_isSome
  by_cases hclose : ∃ x, .publish x ∈ e.push ∧ x.type = .disposed
  · -- a disposal has the result set before it is announced
    obtain ⟨x, hx, htype⟩ := hclose
    obtain ⟨hopen, hd⟩ := hvoice.disposed_of_publish hx htype
    cases hvoice with
    | close => trivial
    | handled => simp [hopen] at hd
    | publish hhush => rw [hhush.disposed, Shared.note_buffer, hopen] at hd; cases hd
    | hush _ _ hhush => rw [hhush.disposed, hopen] at hd; cases hd
    | _ => exact absurd (hopen.symm.trans hd) Bool.false_ne_true
  · exact settles_append (fun x hx htype => hclose ⟨x, hx, htype⟩) hrest

end Acts

section Runs

variable {u : Setup ι} {s s' : State ι} {cs : List (Choice ι)}

/-- Once a disposal is announced, the result is there. -/
theorem Reachable.result_of_disposed (h : Reachable u s) (hd : s.shared.announcements .disposed ≠ []) :
    s.shared.result.isSome = true := by
  have hinv := h.turn_induction (I := fun sh ss =>
    (∀ st ∈ ss, Settles sh st) ∧ ((∃ x ∈ sh.events, x.type = .disposed) → sh.result.isSome = true)) ?_ ?_
  · obtain ⟨x, hx⟩ := List.exists_mem_of_ne_nil _ hd
    exact hinv.2 ⟨x, mem_announcements.1 hx⟩
  · refine ⟨fun st hst => ?_, fun ⟨x, hx, _⟩ => (nomatch hx)⟩
    rw [start_stacks] at hst
    obtain ⟨k, -, rfl⟩ := List.mem_map.1 hst
    trivial
  · intro s d sh ss _ hturn ih
    cases hturn with
    | @act t i rest e ht hact hvoice =>
      refine ⟨fun st hst => ?_, fun ⟨x, hx, htype⟩ => ?_⟩
      · rcases List.mem_or_eq_of_mem_set hst with hst | rfl
        · exact (ih.1 st hst).mono hact.result_isSome
        · exact (ih.1 _ (List.mem_of_getElem? ht)).act hact hvoice
      · rw [Shared.events, hvoice.publications, List.map_append, List.mem_append] at hx
        rcases hx with hx | hx
        · exact hact.result_isSome (ih.2 ⟨x, hx, htype⟩)
        · cases i <;> simp [Instr.publishing?] at hx
          subst hx
          exact hact.result_isSome ((ih.1 _ (List.mem_of_getElem? ht)).1 htype)
    | @answer t role label rest script ht =>
      refine ⟨fun st hst => ?_, ih.2⟩
      rcases List.mem_or_eq_of_mem_set hst with hst | rfl
      · exact ih.1 st hst
      · exact (ih.1 _ (List.mem_of_getElem? ht)).tail (by simp)
    | spawn script =>
      refine ⟨fun st hst => ?_, ih.2⟩
      rcases List.mem_append.1 hst with hst | hst
      · exact ih.1 st hst
      · rw [List.mem_singleton.1 hst]
        trivial
    | same _ hhush =>
      refine ⟨fun st hst => (ih.1 st hst).mono (by rw [hhush.result]; exact id), ?_⟩
      rw [hhush.events, hhush.result]
      exact ih.2

/-! ## Overtaking -/

/-- The events published so far stay, and others come after them. -/
theorem Reachable.events_grow (h : Reachable u s) (he : Queue.execute u s cs = some s') :
    s.shared.events <+: s'.shared.events :=
  h.execute_induction (P := fun s₁ => s.shared.events <+: s₁.shared.events)
    (fun hr hs hP => hP.trans ((hr.turn hs).publications_grow.map Prod.snd)) he List.prefix_rfl

/-- Once an event is out, what should have been announced before it has happened or never will. -/
theorem Reachable.caused_const (h : Reachable u s) (he : Queue.execute u s cs = some s') {a b : EventType}
    (ha : s.shared.announcements a ≠ []) (hab : mayPrecede a b = false) : s'.shared.caused b = s.shared.caused b := by
  have hcause : 0 < s.shared.caused a := by
    have := h.caused_eq a
    have := List.length_pos_iff.2 ha
    omega
  have hdisposed : a = .disposed → s.shared.buffer.value.disposed = true := by
    rintro rfl
    exact Bool.toNat_eq_one.1 (Nat.le_antisymm (Bool.toNat_le _) hcause)
  cases b with
  | itemFailed => cases a <;> cases hab
  | addFailed => cases a <;> cases hab
  | disposed => cases a <;> cases hab
  | addingCompleted =>
    cases a with
    | completed =>
      have htrue : s.shared.result = some true :=
        eq_of_beq (Bool.toNat_eq_one.1 (Nat.le_antisymm (Bool.toNat_le _) hcause))
      have ho := h.decided.isOver (h.decided.result htrue)
      simp only [Shared.caused, ho.addingCompleted, (h.over_stable ho he).1.addingCompleted]
    | disposed => rw [Shared.caused, (h.frozen (hdisposed rfl) he).addingCompleted]; rfl
    | _ => cases hab
  | completed =>
    cases a with
    | disposed =>
      obtain ⟨d, hd⟩ := Option.isSome_iff_exists.1 (h.result_of_disposed ha)
      rw [Shared.caused, h.result_stable hd he, ← hd]
      rfl
    | _ => cases hab

/-- The events of a run come in the order of the queue's life, but for those that are overtaken: whenever an event is
published after another that it should precede, a thread had it still to publish, past the section under the lock that
it announces, when the other was out. -/
theorem lifecycle_order (h : Reachable u s) (he : execute u s cs = some s') :
    ∃ later, s'.shared.events = s.shared.events ++ later ∧
      ∀ a ∈ s.shared.events, ∀ b ∈ later, mayPrecede a.type b.type = false →
        ∃ th ∈ s.threads, ∃ x, .publish x ∈ th.stack ∧ x.type = b.type := by
  obtain ⟨later, hlater⟩ := h.events_grow he
  refine ⟨later, hlater.symm, fun a ha b hb hab => ?_⟩
  by_contra hnone
  have hzero : total (Instr.announces b.type) s.stacks = 0 := total_eq_zero fun th hth i hi => by
    cases i with
    | publish x =>
      rw [Instr.announces, if_neg]
      exact fun htype => hnone ⟨th, hth, x, hi, htype⟩
    | _ => rfl
  have ha' : s.shared.announcements a.type ≠ [] := List.ne_nil_of_mem (mem_announcements.2 ⟨ha, rfl⟩)
  have hcaused := h.caused_const he ha' hab
  have hbefore := h.caused_eq b.type
  have hafter := (h.execute he).caused_eq b.type
  -- then there is one more event of the type than there is cause for
  have hmore : (s.shared.announcements b.type).length < (s'.shared.announcements b.type).length := by
    rw [Shared.announcements, Shared.announcements, ← hlater, List.filter_append, List.length_append]
    have : 0 < (later.filter fun x => x.type = b.type).length :=
      List.length_pos_of_mem (List.mem_filter.2 ⟨hb, by simp⟩)
    omega
  omega

/-- A client that listens to the queue's life ends adding, and is past the section under the lock with nothing
announced. -/
def sampleEnding : List (Choice Nat) :=
  .spawn (.call (.subscribe "log" .lifecycleOnly) fun _ => .just .completeAdding) :: runs 1 5

/-- Another client disposes the queue before the first one announces anything. -/
def sampleOvertaking : List (Choice Nat) := sampleEnding ++ .spawn (.just .dispose) :: runs 2 12

/-- Another client disposes the queue when the first one has set the completion result and not announced it. -/
def sampleOvertakingLater : List (Choice Nat) := sampleEnding ++ runs 1 5 ++ .spawn (.just .dispose) :: runs 2 8

theorem sample_lifecycle_order :
    ∃ s, execute sample (after sample sampleOvertaking) (runs 1 3) = some s ∧
      s.shared.events.map (·.type) = [.completed, .disposed, .addingCompleted] ∧
      ∃ th ∈ (after sample sampleOvertaking).threads, ∃ x, .publish x ∈ th.stack ∧ x.type = .addingCompleted := by
  refine ⟨_, rfl, rfl, ?_⟩
  obtain ⟨later, hlater, hover⟩ := lifecycle_order (reachable_after sample sampleOvertaking)
    (rfl : execute sample _ (runs 1 3) = some (after sample (sampleOvertaking ++ runs 1 3)))
  have hevents : (after sample sampleOvertaking).shared.events ++ [sample.milestone .addingCompleted (some 0)] =
      (after sample sampleOvertaking).shared.events ++ later := hlater
  have hb : sample.milestone .addingCompleted (some 0) ∈ later := by
    rw [← List.append_cancel_left hevents]
    exact List.mem_singleton_self _
  exact hover (sample.milestone .disposed (some 0)) (.tail _ (.head _)) _ hb rfl

/-- What is published last may be what happened first: the end of adding, or the end of the work. A subscriber receives
the events in the order in which they are published. -/
theorem lifecycle_out_of_order :
    (∃ s, execute sample sample.start (sampleOvertaking ++ runs 1 3) = some s ∧
      s.shared.events.map (·.type) = [.completed, .disposed, .addingCompleted] ∧
      s.shared.hub.channels.map (·.pending) = [s.shared.events] ∧ ¬ InOrder (s.shared.events.map (·.type))) ∧
    ∃ s, execute sample sample.start (sampleOvertakingLater ++ runs 1 6) = some s ∧
      s.shared.events.map (·.type) = [.addingCompleted, .disposed, .completed] ∧
      s.shared.hub.channels.map (·.pending) = [s.shared.events] ∧ ¬ InOrder (s.shared.events.map (·.type)) :=
  ⟨⟨_, rfl, rfl, rfl, by decide⟩, _, rfl, rfl, rfl, by decide⟩

end Runs

end Conveyor.Queue
