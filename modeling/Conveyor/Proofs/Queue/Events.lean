import Conveyor.Proofs.Queue.Completion
import Conveyor.Proofs.Queue.Disposal

/-!
# The published events are the queue's history

Each type of events has something to announce: exceptions of a kind, a flag of the buffer, or a completion result of
`true` (`Shared.caused`). What was announced is behind it by what the threads have still to publish
(`Reachable.caused_eq`), as a counter of exceptions is behind the exceptions (`Reachable.raised_eq`). What an event says
was so at the step that brought it about (`Founded`, `founded_of_execute`).

* `events_account`: what events a queue has published, during a run and once no report is under way.
-/

namespace Conveyor.Queue

variable {ι : Type}

/-! ## Causes and announcements -/

/-- The counter of the exceptions of a kind. -/
def counterOf : ExceptionKind → Counter
  | .handler => .failed
  | .add => .rejected

/-- Whether an instruction is the publication of an event of the given type. -/
def Instr.announces (type : EventType) : Instr ι → Nat
  | .publish x => if x.type = type then 1 else 0
  | _ => 0

namespace Shared

/-- The number of exceptions of a kind. -/
def raised (s : Shared ι) (kind : ExceptionKind) : Nat := s.raisings.countP fun p => p.2.kind = kind

/-- The events of a type, in the order in which they were published. -/
def announcements (s : Shared ι) (type : EventType) : List QueueEvent := s.events.filter fun x => x.type = type

/-- How often that happened which events of a type announce. -/
def caused (s : Shared ι) : EventType → Nat
  | .itemFailed => s.raised .handler
  | .addFailed => s.raised .add
  | .addingCompleted => s.buffer.value.addingCompleted.toNat
  | .completed => (s.result == some true).toNat
  | .disposed => s.buffer.value.disposed.toNat

variable (s : Shared ι) (t : ThreadId) (kind : ExceptionKind) (type : EventType)

@[simp] theorem raised_note (n : Note ι) :
    (s.note t n).raised kind = s.raised kind + n.raised?.toList.countP fun e => e.kind = kind := by
  cases h : n.raised? <;> simp [raised, h]

@[simp] theorem raised_setBuffer (b : Buffer ι) : (s.setBuffer b).raised kind = s.raised kind := rfl

@[simp] theorem raised_count (c : Counter) (k : Nat) : (s.count c k).raised kind = s.raised kind := rfl

@[simp] theorem raised_settled (d : Bool) : (s.settled d).raised kind = s.raised kind := rfl

@[simp] theorem announcements_note (n : Note ι) :
    (s.note t n).announcements type =
      s.announcements type ++ n.published?.toList.filter fun x => x.type = type := by
  cases h : n.published? <;> simp [announcements, events, h]

@[simp] theorem announcements_setBuffer (b : Buffer ι) :
    (s.setBuffer b).announcements type = s.announcements type := rfl

@[simp] theorem announcements_count (c : Counter) (k : Nat) :
    (s.count c k).announcements type = s.announcements type := rfl

@[simp] theorem announcements_settled (d : Bool) : (s.settled d).announcements type = s.announcements type := rfl

end Shared

/-- Every type of events is announced as often as it has cause, but for what the threads have still to publish. -/
theorem tally_announcements (u : Setup ι) (type : EventType) :
    Tally u (fun s => (s.caused type : Int) - (s.announcements type).length) (Instr.announces type) where
  mute i hi := by cases i <;> simp_all [Instr.isVocal, Instr.announces]
  dispatch _ := rfl
  invoke _ _ := rfl
  start := by cases type <;> rfl
  hush h := by
    have hevents := h.events
    have hraised := h.raisings
    cases type <;> simp only [Shared.caused, Shared.raised, Shared.announcements, hevents, hraised, h.result,
      h.addingCompleted, h.disposed]
  refused s t x hx := by
    cases type <;> simp [Shared.caused, Note.raised?, Note.published?, Instr.announces, QueueEvent.ofException, hx]
    omega
  handled s t x e := by
    cases e <;> cases type <;> simp [Shared.caused, Shared.noteEnding, Ending.fault?, Ending.report, raise,
      Note.raised?, Note.published?, Instr.announces, QueueEvent.ofException] <;> omega
  complete s _ := by
    cases type <;> cases hadd : s.buffer.value.addingCompleted <;>
      simp [Shared.caused, Instr.announces, hadd]
    omega
  close s t d hopen := by
    cases type <;> simp [Shared.caused, Note.raised?, Note.published?, Instr.announces, hopen]
    omega
  settled s t d hresult := by
    cases type <;> cases d <;> simp [Shared.caused, Note.raised?, Note.published?, Instr.announces, hresult]
    omega
  bump s c n := by cases type <;> simp [Shared.caused, Instr.announces]
  called s t c x := by cases type <;> simp [Shared.caused, Note.raised?, Note.published?]
  published s t x := by
    cases type <;> simp [Shared.caused, Note.raised?, Note.published?, Instr.announces, List.filter_cons] <;>
      split <;> simp <;> omega

/-- Every exception is counted, but for what the threads have still to count. -/
theorem tally_raised (u : Setup ι) (kind : ExceptionKind) :
    Tally u (fun s => (s.raised kind : Int) - s.counters.get (counterOf kind)) (Instr.owed (counterOf kind)) where
  mute i hi := by
    cases i with
    | bump c n => cases kind <;> cases c <;> simp_all [Instr.isVocal, Instr.owed, counterOf]
    | _ => rfl
  dispatch _ := rfl
  invoke _ _ := rfl
  start := by cases kind <;> rfl
  hush h := by
    have hraised := h.raisings
    simp only [Shared.raised, hraised, h.counters]
  refused s t x hx := by
    cases kind <;> simp [Note.raised?, Instr.owed, counterOf, hx]
    omega
  handled s t x e := by
    cases e <;> cases kind <;> simp [Shared.noteEnding, Ending.fault?, Ending.report, raise, Note.raised?,
      Instr.owed, counterOf] <;> omega
  complete s _ := by simp [Instr.owed]
  close s t d _ := by cases kind <;> simp [Note.raised?, Instr.owed, counterOf]
  settled s t d _ := by simp [Note.raised?, Instr.owed]
  bump s c n := by
    by_cases h : c = counterOf kind <;> simp [Instr.owed, h]
    omega
  called s t c x := by simp [Note.raised?]
  published s t x := by simp [Note.raised?, Instr.owed]

section Reachable

variable {u : Setup ι} {s : State ι}

theorem Reachable.caused_eq (h : Reachable u s) (type : EventType) :
    s.shared.caused type = (s.shared.announcements type).length + total (Instr.announces type) s.stacks := by
  have := h.tally (tally_announcements u type)
  omega

theorem Reachable.raised_eq (h : Reachable u s) (kind : ExceptionKind) :
    s.shared.raised kind = s.shared.counters.get (counterOf kind) + total (Instr.owed (counterOf kind)) s.stacks := by
  have := h.tally (tally_raised u kind)
  omega

end Reachable

/-! ## When a flag was set -/

/-- In the run `cs` from the start, a flag of the buffer was set by a step before which `n` items were pending. -/
def WasSet (u : Setup ι) (cs : List (Choice ι)) (flag : Buffer ι → Bool) (n : Nat) : Prop :=
  ∃ cs₀ c cs₁ s₀ s₁, cs = cs₀ ++ c :: cs₁ ∧ execute u u.start cs₀ = some s₀ ∧ step u s₀ c = some s₁ ∧
    flag s₀.shared.buffer.value = false ∧ flag s₁.shared.buffer.value = true ∧ s₀.shared.buffer.value.items.length = n

/-- A flag that no step takes back. -/
def Lasts (u : Setup ι) (flag : Buffer ι → Bool) : Prop :=
  ∀ {s s' : State ι} {c : Choice ι}, Reachable u s → step u s c = some s' → flag s.shared.buffer.value = true →
    flag s'.shared.buffer.value = true

section Flags

variable {u : Setup ι} {s : State ι} {cs : List (Choice ι)} {flag : Buffer ι → Bool} {n n' : Nat}

theorem WasSet.concat (h : WasSet u cs flag n) (c : Choice ι) : WasSet u (cs ++ [c]) flag n := by
  obtain ⟨cs₀, c₀, cs₁, s₀, s₁, rfl, h₀⟩ := h
  exact ⟨cs₀, c₀, cs₁ ++ [c], s₀, s₁, by simp, h₀⟩

theorem Lasts.execute (hl : Lasts u flag) {s' : State ι} (hr : Reachable u s)
    (he : Queue.execute u s cs = some s') (h : flag s.shared.buffer.value = true) :
    flag s'.shared.buffer.value = true :=
  hr.execute_induction (P := fun s => flag s.shared.buffer.value = true) hl he h

/-- Once set, a flag that lasts is set. -/
theorem Lasts.of_set (hl : Lasts u flag) {cs₀ cs₁ : List (Choice ι)} {c : Choice ι} {s₀ s₁ : State ι}
    (he₀ : Queue.execute u u.start cs₀ = some s₀) (hs : step u s₀ c = some s₁)
    (hset : flag s₁.shared.buffer.value = true) (he : Queue.execute u u.start (cs₀ ++ c :: cs₁) = some s) :
    flag s.shared.buffer.value = true := by
  simp only [execute_append, he₀, Option.bind_some, execute_cons, hs] at he
  exact hl.execute ((Reachable.start.execute he₀).step hs) he hset

theorem WasSet.isSet (hl : Lasts u flag) (h : WasSet u cs flag n) (he : Queue.execute u u.start cs = some s) :
    flag s.shared.buffer.value = true := by
  obtain ⟨cs₀, c, cs₁, s₀, s₁, rfl, he₀, hs, -, hset, -⟩ := h
  exact hl.of_set he₀ hs hset he

/-- A flag that lasts is set only once. -/
theorem WasSet.unique (hl : Lasts u flag) (h : WasSet u cs flag n) (h' : WasSet u cs flag n') : n = n' := by
  obtain ⟨cs₀, c, cs₁, s₀, s₁, rfl, he₀, hs, hbefore, hset, rfl⟩ := h
  obtain ⟨cs₀', c', cs₁', s₀', s₁', hcs, he₀', hs', hbefore', hset', rfl⟩ := h'
  -- the run up to the later of the two steps has the earlier one in it, unless they are the same
  rcases List.append_eq_append_iff.1 hcs with ⟨more, rfl, hmore⟩ | ⟨more, rfl, hmore⟩
  · cases more with
    | nil =>
      rw [List.append_nil, he₀] at he₀'
      cases he₀'
      rfl
    | cons c₁ more =>
      cases hmore
      exact absurd (hbefore'.symm.trans (hl.of_set he₀ hs hset he₀')) Bool.false_ne_true
  · cases more with
    | nil =>
      rw [List.append_nil, he₀'] at he₀
      cases he₀
      rfl
    | cons c₁ more =>
      cases hmore
      exact absurd (hbefore.symm.trans (hl.of_set he₀' hs' hset' he₀)) Bool.false_ne_true

theorem Voice.addingCompleted {sh : Shared ι} {t : ThreadId} {i : Instr ι} {e : Effect ι} (h : Voice u sh t i e)
    (hadd : sh.buffer.value.addingCompleted = true) : e.shared.buffer.value.addingCompleted = true := by
  cases h with
  | complete => rfl
  | handled => simpa using hadd
  | publish hhush => rw [hhush.addingCompleted]; exact hadd
  | hush _ _ hhush => rw [hhush.addingCompleted]; exact hadd
  | _ => exact hadd

theorem Turn.addingCompleted {sh sh' : Shared ι} {ss ss' : List (List (Instr ι))} {d : Option (Deed ι)}
    (h : Turn u sh ss d sh' ss') (hadd : sh.buffer.value.addingCompleted = true) :
    sh'.buffer.value.addingCompleted = true := by
  cases h with
  | act _ _ hvoice => exact hvoice.addingCompleted hadd
  | same _ hhush => rw [hhush.addingCompleted]; exact hadd
  | _ => exact hadd

theorem lasts_addingCompleted : Lasts u Buffer.addingCompleted := fun hr hs h => (hr.turn hs).addingCompleted h

theorem lasts_disposed : Lasts u Buffer.disposed := fun hr hs h =>
  ((hr.turn hs).frozen h (hr.fifo.disposed h).1).disposed

/-- What a disposal abandoned was in the buffer at that step. -/
theorem WasSet.abandoned (h : WasSet u cs Buffer.disposed n) (he : execute u u.start cs = some s) :
    s.shared.abandoned.length = n := by
  obtain ⟨cs₀, c, cs₁, s₀, s₁, rfl, he₀, hs, hopen, hd, rfl⟩ := h
  simp only [execute_append, he₀, Option.bind_some, execute_cons, hs] at he
  have hr := Reachable.start.execute he₀
  rw [((hr.step hs).frozen hd he).abandoned, (hr.turn hs).abandoned_of_disposed hr.fifo hopen hd]

end Flags

/-! ## Every event is founded -/

/-- What an event says was so when a step from `sh` to `sh'` brought it about. -/
inductive Fresh (u : Setup ι) (sh sh' : Shared ι) : QueueEvent → Prop
  | exception {p : ThreadId × QueueException} (h : p ∈ sh'.raisings) : Fresh u sh sh' (.ofException p.2)
  | addingCompleted (hbefore : sh.buffer.value.addingCompleted = false)
      (hset : sh'.buffer.value.addingCompleted = true) :
      Fresh u sh sh' (u.milestone .addingCompleted (some sh.buffer.value.items.length))
  | completed (h : sh'.result = some true) : Fresh u sh sh' (u.milestone .completed none)
  | disposed (hbefore : sh.buffer.value.disposed = false) (hset : sh'.buffer.value.disposed = true) :
      Fresh u sh sh' (u.milestone .disposed (some sh.buffer.value.items.length))

/-- What an event says is so in the run `cs` from the start, which has led to `sh`. -/
inductive Founded (u : Setup ι) (cs : List (Choice ι)) (sh : Shared ι) : QueueEvent → Prop
  | exception {p : ThreadId × QueueException} (h : p ∈ sh.raisings) : Founded u cs sh (.ofException p.2)
  | addingCompleted {n : Nat} (h : WasSet u cs Buffer.addingCompleted n) :
      Founded u cs sh (u.milestone .addingCompleted (some n))
  | completed (h : sh.result = some true) : Founded u cs sh (u.milestone .completed none)
  | disposed {n : Nat} (h : WasSet u cs Buffer.disposed n) : Founded u cs sh (u.milestone .disposed (some n))

section Voices

variable {u : Setup ι} {sh : Shared ι} {t : ThreadId} {i : Instr ι} {e : Effect ι} {x : QueueEvent}

/-- An event that a voice leaves to be published is fresh. -/
theorem Voice.fresh (hvoice : Voice u sh t i e) (hx : .publish x ∈ e.push) : Fresh u sh e.shared x := by
  cases hvoice with
  | refuse =>
    have hx : x = .ofException (sh.refusal u) := by simpa [raise] using hx
    subst hx
    exact .exception (p := (t, sh.refusal u)) (by simp [Note.raised?])
  | @handled y ending =>
    cases hf : ending.fault? u with
    | none => simp [Ending.report, hf] at hx
    | some ex =>
      have hx : x = .ofException ex := by simpa [Ending.report, hf, raise] using hx
      subst hx
      exact .exception (p := (t, ex)) (by simp [Note.raised?, hf])
  | complete =>
    cases hadd : sh.buffer.value.addingCompleted with
    | true => cases hdr : sh.buffer.value.complete.isDrained <;> simp [hadd, hdr] at hx
    | false =>
      have hx : x = u.milestone .addingCompleted (some sh.buffer.value.items.length) := by
        cases hdr : sh.buffer.value.complete.isDrained <;> simpa [hadd, hdr] using hx
      subst hx
      exact .addingCompleted hadd rfl
  | close hopen =>
    have hx : x = u.milestone .disposed (some sh.buffer.value.items.length) := by simpa using hx
    subst hx
    exact .disposed hopen rfl
  | @resolve drained =>
    cases drained with
    | false => simp at hx
    | true =>
      have hx : x = u.milestone .completed none := by simpa using hx
      subst hx
      exact .completed rfl
  | publish _ hpush => obtain ⟨n, hn⟩ := hpush _ hx; cases hn
  | hush _ _ _ hpush => cases hpush _ hx
  | _ => simp at hx

end Voices

section Runs

variable {u : Setup ι} {s s' : State ι} {c : Choice ι} {cs : List (Choice ι)} {x : QueueEvent}

/-- The exceptions raised so far stay, and others come after them. -/
theorem Turn.raisings_grow {sh sh' : Shared ι} {ss ss' : List (List (Instr ι))} {d : Option (Deed ι)}
    (h : Turn u sh ss d sh' ss') : sh.raisings <+: sh'.raisings := by
  cases h with
  | act _ _ hvoice => rw [hvoice.raisings]; exact List.prefix_append ..
  | same _ hhush => exact ⟨[], by rw [hhush.raisings, List.append_nil]⟩
  | _ => exact List.prefix_rfl

/-- The events published so far stay, and others come after them. -/
theorem Turn.publications_grow {sh sh' : Shared ι} {ss ss' : List (List (Instr ι))} {d : Option (Deed ι)}
    (h : Turn u sh ss d sh' ss') : sh.publications <+: sh'.publications := by
  cases h with
  | act _ _ hvoice => rw [hvoice.publications]; exact List.prefix_append ..
  | same _ hhush => exact ⟨[], by rw [hhush.publications, List.append_nil]⟩
  | _ => exact List.prefix_rfl

/-- An event that is published after a turn was published before, or it was to be published. -/
theorem Turn.events_origin {sh sh' : Shared ι} {ss ss' : List (List (Instr ι))} {d : Option (Deed ι)}
    (h : Turn u sh ss d sh' ss') (hx : x ∈ sh'.events) : x ∈ sh.events ∨ ∃ st ∈ ss, .publish x ∈ st := by
  cases h with
  | @act t i rest e ht _ hvoice =>
    rw [Shared.events, hvoice.publications, List.map_append, List.mem_append] at hx
    rcases hx with hx | hx
    · exact .inl hx
    · cases i <;> simp [Instr.publishing?] at hx
      subst hx
      exact .inr ⟨_, List.mem_of_getElem? ht, List.mem_cons_self⟩
  | same _ hhush => exact .inl (hhush.events ▸ hx)
  | _ => exact .inl hx

/-- What is founded stays so. -/
theorem Founded.step (h : Founded u cs s.shared x) (hr : Reachable u s) (hs : Queue.step u s c = some s') :
    Founded u (cs ++ [c]) s'.shared x := by
  cases h with
  | exception h => exact .exception ((hr.turn hs).raisings_grow.subset h)
  | addingCompleted h => exact .addingCompleted (h.concat c)
  | completed h => exact .completed ((hr.shift hs).result_stable h)
  | disposed h => exact .disposed (h.concat c)

/-- What is fresh at the last step of a run is founded. -/
theorem Fresh.founded (h : Fresh u s.shared s'.shared x) (he : execute u u.start cs = some s)
    (hs : Queue.step u s c = some s') : Founded u (cs ++ [c]) s'.shared x := by
  cases h with
  | exception h => exact .exception h
  | addingCompleted hbefore hset => exact .addingCompleted ⟨cs, c, [], s, s', rfl, he, hs, hbefore, hset, rfl⟩
  | completed h => exact .completed h
  | disposed hbefore hset => exact .disposed ⟨cs, c, [], s, s', rfl, he, hs, hbefore, hset, rfl⟩

/-- Every event that is published or to be published is founded. -/
theorem founded_of_execute (he : execute u u.start cs = some s) :
    (∀ x ∈ s.shared.events, Founded u cs s.shared x) ∧
      ∀ st ∈ s.stacks, ∀ x, .publish x ∈ st → Founded u cs s.shared x := by
  induction cs using List.reverseRecOn generalizing s with
  | nil =>
    cases he
    refine ⟨fun x hx => (nomatch hx), fun st hst x hx => ?_⟩
    rw [start_stacks] at hst
    obtain ⟨k, -, rfl⟩ := List.mem_map.1 hst
    simp at hx
  | append_singleton cs c ih =>
    obtain ⟨s₁, he₁, hs⟩ := execute_concat.1 he
    have hr := Reachable.start.execute he₁
    have hturn := hr.turn hs
    obtain ⟨hevents, howed⟩ := ih he₁
    refine ⟨fun x hx => ?_, fun st hst x hx => ?_⟩
    · rcases hturn.events_origin hx with hx | ⟨st, hst, hx⟩
      · exact (hevents x hx).step hr hs
      · exact (howed st hst x hx).step hr hs
    · rcases hturn.origin ⟨st, hst, hx⟩ with
        ⟨st, hst, hx⟩ | ⟨role, script, hrun⟩ | ⟨t, i, rest, e, -, -, hvoice, hsh, hx⟩
      · exact (howed st hst x hx).step hr hs
      · cases hrun
      · exact (hsh ▸ hvoice.fresh hx).founded he₁ hs

end Runs

/-! ## The account of the events -/

/-- No thread has a part of a report to do. -/
def Quiet (s : State ι) : Prop := ∀ th ∈ s.threads, ∀ i ∈ th.stack, i.isVocal = false

instance (s : State ι) : Decidable (Quiet s) :=
  inferInstanceAs (Decidable (∀ th ∈ s.threads, ∀ i ∈ th.stack, i.isVocal = false))

/-- How the setting of a flag is announced by events of a type. -/
structure Announced (u : Setup ι) (cs : List (Choice ι)) (s : State ι) (type : EventType) (flag : Buffer ι → Bool) :
    Prop where
  /-- While the flag is not set, there is no event. -/
  unset : flag s.shared.buffer.value = false → s.shared.announcements type = []
  /-- Once it is set there is one event, with the number of the items that were then pending. -/
  set : flag s.shared.buffer.value = true →
    ∃ n, WasSet u cs flag n ∧ s.shared.announcements type = [u.milestone type (some n)]
  /-- There is no other number that the event could have. -/
  size : ∀ n, WasSet u cs flag n → s.shared.announcements type = [u.milestone type (some n)]

theorem type_ofException (e : QueueException) : (QueueEvent.ofException e).type.isException = true := by
  obtain ⟨kind, name, cause⟩ := e
  cases kind <;> rfl

section Runs

variable {u : Setup ι} {s : State ι} {cs : List (Choice ι)} {x : QueueEvent} {type : EventType}

theorem Quiet.announced_eq (hq : Quiet s) (h : Reachable u s) (type : EventType) :
    (s.shared.announcements type).length = s.shared.caused type := by
  have hzero : total (Instr.announces type) s.stacks = 0 := total_eq_zero fun th hth i hi => by
    have := hq th hth i hi
    cases i <;> simp_all [Instr.isVocal, Instr.announces]
  have := h.caused_eq type
  omega

theorem Quiet.counted_eq (hq : Quiet s) (h : Reachable u s) (kind : ExceptionKind) :
    s.shared.counters.get (counterOf kind) = s.shared.raised kind := by
  have hzero : total (Instr.owed (counterOf kind)) s.stacks = 0 := total_eq_zero fun th hth i hi => by
    have := hq th hth i hi
    cases i with
    | bump c n => cases kind <;> cases c <;> simp_all [Instr.isVocal, Instr.owed, counterOf]
    | _ => rfl
  have := h.raised_eq kind
  omega

/-- What a founded event of the queue's life says. -/
theorem Founded.of_type {sh : Shared ι} (h : Founded u cs sh x) (hx : x.type = type) :
    match type with
    | .addingCompleted => ∃ n, x = u.milestone .addingCompleted (some n) ∧ WasSet u cs Buffer.addingCompleted n
    | .completed => x = u.milestone .completed none ∧ sh.result = some true
    | .disposed => ∃ n, x = u.milestone .disposed (some n) ∧ WasSet u cs Buffer.disposed n
    | .itemFailed | .addFailed => True := by
  subst hx
  cases h with
  | @exception p =>
    obtain ⟨t, kind, name, cause⟩ := p
    cases kind <;> trivial
  | addingCompleted h => exact ⟨_, rfl, h⟩
  | completed h => exact ⟨rfl, h⟩
  | disposed h => exact ⟨_, rfl, h⟩

theorem mem_announcements {sh : Shared ι} : x ∈ sh.announcements type ↔ x ∈ sh.events ∧ x.type = type := by
  simp [Shared.announcements]

/-- A flag whose events are founded and as many as they should be is announced. -/
theorem announced_of_founded {flag : Buffer ι → Bool} (hl : Lasts u flag) (he : execute u u.start cs = some s)
    (hlen : (s.shared.announcements type).length = (flag s.shared.buffer.value).toNat)
    (hfounded : ∀ x ∈ s.shared.announcements type, ∃ n, x = u.milestone type (some n) ∧ WasSet u cs flag n) :
    Announced u cs s type flag := by
  have hset : flag s.shared.buffer.value = true →
      ∃ n, WasSet u cs flag n ∧ s.shared.announcements type = [u.milestone type (some n)] := by
    intro hflag
    rw [hflag] at hlen
    obtain ⟨x, hx⟩ := List.length_eq_one_iff.1 hlen
    obtain ⟨n, rfl, hw⟩ := hfounded x (by rw [hx]; exact List.mem_cons_self)
    exact ⟨n, hw, hx⟩
  refine ⟨fun hflag => ?_, hset, fun n hn => ?_⟩
  · rw [hflag] at hlen
    exact List.length_eq_zero_iff.1 hlen
  · obtain ⟨n', hn', hx⟩ := hset (hn.isSet hl he)
    rw [hx, hn'.unique hl hn]

/-- A step of the queue's life is announced at most once. -/
theorem Reachable.announced_once (h : Reachable u s) (htype : type.isException = false) :
    (s.shared.announcements type).length ≤ 1 := by
  have hle : s.shared.caused type ≤ 1 := by
    cases type with
    | itemFailed => cases htype
    | addFailed => cases htype
    | _ => exact Bool.toNat_le _
  have := h.caused_eq type
  omega

/-- The end of the work is announced only after the completion resolved to `true`. -/
theorem mem_completed (he : execute u u.start cs = some s) (hx : x ∈ s.shared.announcements .completed) :
    x = u.milestone .completed none ∧ s.shared.result = some true := by
  obtain ⟨hx, htype⟩ := mem_announcements.1 hx
  exact ((founded_of_execute he).1 x hx).of_type htype

/-- Once no report is under way, the end of the work is announced if the completion is `true`. -/
theorem Quiet.completed_eq (hq : Quiet s) (he : execute u u.start cs = some s) :
    s.shared.announcements .completed =
      if s.shared.result = some true then [u.milestone .completed none] else [] := by
  have hlen := hq.announced_eq (Reachable.start.execute he) .completed
  split
  · rename_i htrue
    rw [Shared.caused, htrue] at hlen
    obtain ⟨x, hx⟩ := List.length_eq_one_iff.1 hlen
    have hmem : x ∈ s.shared.announcements .completed := by
      rw [hx]
      exact List.mem_cons_self
    rw [hx, (mem_completed he hmem).1]
  · rename_i hne
    by_contra h
    obtain ⟨x, hx⟩ := List.exists_mem_of_ne_nil _ h
    exact hne (mem_completed he hx).2

/-- Once no report is under way, what a disposal abandoned is counted. -/
theorem Quiet.abandoned_eq (hq : Quiet s) (he : execute u u.start cs = some s) {n : Nat}
    (hn : WasSet u cs Buffer.disposed n) : s.shared.stats.abandoned = n := by
  rw [← hn.abandoned he]
  refine (Reachable.start.execute he).abandoned_counted.2 fun th hth k hk => ?_
  have := hq th hth _ hk
  simp [Instr.isVocal] at this

/-- At the end of every run: what each event says was so; every step of the queue's life is announced at most once, and
the end of its work only after the completion resolved to `true`. Once no report is under way, the events are as many
as their causes: the end of adding and the disposal are announced exactly if they happened, with what was then pending,
which for the disposal is what was abandoned; the end of the work exactly if the completion is `true`; and failed
items and refused ones as often as the statistics say. -/
theorem events_account (he : execute u u.start cs = some s) :
    (∀ x ∈ s.shared.events, Founded u cs s.shared x) ∧
    (∀ type, type.isException = false → (s.shared.announcements type).length ≤ 1) ∧
    (s.shared.announcements .completed ≠ [] → s.shared.result = some true) ∧
    (Quiet s →
      Announced u cs s .addingCompleted Buffer.addingCompleted ∧
      s.shared.announcements .completed =
        (if s.shared.result = some true then [u.milestone .completed none] else []) ∧
      Announced u cs s .disposed Buffer.disposed ∧
      (∀ n, WasSet u cs Buffer.disposed n → s.shared.stats.abandoned = n) ∧
      (s.shared.announcements .itemFailed).length = s.shared.stats.failed ∧
      (s.shared.announcements .addFailed).length = s.shared.stats.rejected) := by
  have hr : Reachable u s := Reachable.start.execute he
  have hfounded := (founded_of_execute he).1
  refine ⟨hfounded, fun type htype => hr.announced_once htype, fun hne => ?_, fun hq => ?_⟩
  · obtain ⟨x, hx⟩ := List.exists_mem_of_ne_nil _ hne
    exact (mem_completed he hx).2
  refine ⟨?_, hq.completed_eq he, ?_, fun n hn => hq.abandoned_eq he hn, ?_, ?_⟩
  · refine announced_of_founded lasts_addingCompleted he (hq.announced_eq hr _) fun x hx => ?_
    obtain ⟨hx, htype⟩ := mem_announcements.1 hx
    exact (hfounded x hx).of_type htype
  · refine announced_of_founded lasts_disposed he (hq.announced_eq hr _) fun x hx => ?_
    obtain ⟨hx, htype⟩ := mem_announcements.1 hx
    exact (hfounded x hx).of_type htype
  · rw [hq.announced_eq hr]
    exact (hq.counted_eq hr .handler).symm
  · rw [hq.announced_eq hr]
    exact (hq.counted_eq hr .add).symm

/-- A client adds an item, ends adding, and has another item refused; the handler fails, and another client disposes
the queue. -/
def sampleHistory : List (Choice Nat) :=
  .spawn (.call (.add .owner 7 none) fun _ => .call .completeAdding fun _ => .just (.add .owner 8 none)) ::
    runs 1 23 ++ runs 0 4 ++ .answer 0 (.ret (.failed (.text "broken"))) :: runs 0 14 ++
    .spawn (.just .dispose) :: runs 2 13

theorem sample_events_account :
    execute sample sample.start sampleHistory = some (after sample sampleHistory) ∧
      Quiet (after sample sampleHistory) ∧
      Announced sample sampleHistory (after sample sampleHistory) .addingCompleted Buffer.addingCompleted ∧
      (after sample sampleHistory).shared.announcements .completed = [sample.milestone .completed none] ∧
      ((after sample sampleHistory).shared.announcements .itemFailed).length = 1 ∧
      (after sample sampleHistory).shared.stats.failed = 1 ∧
      (after sample sampleHistory).shared.events.map (·.type) =
        [.addingCompleted, .addFailed, .itemFailed, .completed, .disposed] := by
  have he : execute sample sample.start sampleHistory = some (after sample sampleHistory) := execute_after rfl
  have hq : Quiet (after sample sampleHistory) := by decide
  obtain ⟨-, -, -, hquiet⟩ := events_account he
  obtain ⟨hadding, hcompleted, -, -, hfailed, -⟩ := hquiet hq
  exact ⟨he, hq, hadding, hcompleted, hfailed, rfl, rfl⟩

end Runs

end Conveyor.Queue
