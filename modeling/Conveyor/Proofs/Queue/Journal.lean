import Conveyor.Queue.Perform
import Mathlib.Tactic.Simps.Basic

/-!
# What the journal says about items

The journal has a note of every event. Its notes of one kind, read with the threads they happened on and earliest
first, are the sequences that the laws of a queue speak of (`acceptances`, `takes`, `starts`, `endings`, `disposals`).
An event adds one note (`entries_note`); a note that is about no item (`Note.isAside`) adds to none of the sequences.
-/

namespace Conveyor.Queue

variable {ι β : Type}

/-! ## Kinds of notes -/

namespace Note

def accepted? : Note ι → Option ι
  | .accepted x => some x
  | _ => none

def taken? : Note ι → Option ι
  | .taken x => some x
  | _ => none

def started? : Note ι → Option ι
  | .started x => some x
  | _ => none

def handled? : Note ι → Option (ι × Ending ι)
  | .handled x e => some (x, e)
  | _ => none

def abandoned? : Note ι → Option (List ι × Bool)
  | .abandoned xs drained => some (xs, drained)
  | _ => none

/-- Whether a note is about something else than the way of the items. -/
def isAside : Note ι → Bool
  | .accepted _ | .taken _ | .abandoned .. | .started _ | .handled .. => false
  | _ => true

end Note

/-- Whether the handler returned, and neither failed nor panicked. -/
def Ending.isSuccess : Ending ι → Bool
  | .returned _ => true
  | _ => false

/-! ## Sequences of events -/

/-- The events of a sequence that happened on thread `t`. -/
def onThread (t : ThreadId) (l : List (ThreadId × β)) : List β :=
  l.filterMap fun p => if p.1 = t then some p.2 else none

@[simp] theorem onThread_nil (t : ThreadId) : onThread t ([] : List (ThreadId × β)) = [] := rfl

@[simp] theorem onThread_append (t : ThreadId) (l l' : List (ThreadId × β)) :
    onThread t (l ++ l') = onThread t l ++ onThread t l' := List.filterMap_append

@[simp] theorem onThread_self (t : ThreadId) (xs : List β) : onThread t (xs.map (t, ·)) = xs := by
  simp only [onThread, List.filterMap_map, Function.comp_def, ↓reduceIte, List.filterMap_some]

theorem onThread_other {t t' : ThreadId} (h : t' ≠ t) (xs : List β) : onThread t (xs.map (t', ·)) = [] := by
  simp [onThread, h]

theorem onThread_flatMap {α : Type} (t : ThreadId) (l : List α) (f : α → List (ThreadId × β)) :
    onThread t (l.flatMap f) = l.flatMap fun a => onThread t (f a) := List.filterMap_flatMap

/-- What belongs to thread `t` of what its instruction notes. -/
theorem onThread_toList (t : ThreadId) (l : List (ThreadId × β)) (o : Option β) :
    onThread t (l ++ (o.map (t, ·)).toList) = onThread t l ++ o.toList := by
  cases o <;> simp [onThread]

theorem onThread_toList_other {t t' : ThreadId} (h : t' ≠ t) (l : List (ThreadId × β)) (o : Option β) :
    onThread t' (l ++ (o.map (t, ·)).toList) = onThread t' l := by
  cases o <;> simp [onThread, h.symm]

/-- A sequence all of whose events happened on one thread. -/
theorem onThread_eq_map {t : ThreadId} :
    ∀ {l : List (ThreadId × β)}, (∀ p ∈ l, p.1 = t) → onThread t l = l.map Prod.snd
  | [], _ => rfl
  | p :: l, h => by
    have hl : onThread t l = l.map Prod.snd := onThread_eq_map fun q hq => h q (List.mem_cons_of_mem _ hq)
    have hp : p.1 = t := h p List.mem_cons_self
    simpa [onThread, hp] using hl

namespace Shared

/-- The notes of one kind, with their threads, earliest first. -/
def entries (s : Shared ι) (kind : Note ι → Option β) : List (ThreadId × β) :=
  s.journal.reverse.filterMap fun p => (kind p.2).map (p.1, ·)

/-- The items accepted into the buffer. -/
abbrev acceptances (s : Shared ι) : List (ThreadId × ι) := s.entries Note.accepted?

/-- The items taken out of the buffer by workers. -/
abbrev takes (s : Shared ι) : List (ThreadId × ι) := s.entries Note.taken?

/-- The items handed to the handler. -/
abbrev starts (s : Shared ι) : List (ThreadId × ι) := s.entries Note.started?

/-- The ends of the handler's calls. -/
abbrev endings (s : Shared ι) : List (ThreadId × ι × Ending ι) := s.entries Note.handled?

/-- What was abandoned by a disposal, and whether the queue was drained then. -/
abbrev disposals (s : Shared ι) : List (ThreadId × List ι × Bool) := s.entries Note.abandoned?

/-- The accepted items in order of acceptance. -/
def accepted (s : Shared ι) : List ι := s.acceptances.map Prod.snd

/-- The taken items in the order of the takes. -/
def taken (s : Shared ι) : List ι := s.takes.map Prod.snd

/-- The items passed to the handler in the order of its calls. -/
def started (s : Shared ι) : List ι := s.starts.map Prod.snd

/-- The items that the handler is done with. -/
def handled (s : Shared ι) : List ι := s.endings.map fun p => p.2.1

/-- The items that were abandoned. -/
def abandoned (s : Shared ι) : List ι := s.disposals.flatMap fun p => p.2.1

/-- The number of items whose handler returned. -/
def successes (s : Shared ι) : Nat := s.endings.countP fun p => p.2.2.isSuccess

/-- The number of items whose handler failed or panicked. -/
def failures (s : Shared ι) : Nat := s.endings.countP fun p => !p.2.2.isSuccess

end Shared

/-! ## How the state changes -/

namespace Buffer

/-- An item is accepted. -/
@[simps] def push (b : Buffer ι) (x : ι) : Buffer ι := { b with items := b.items ++ [x] }

/-- An item is taken, and `rest` is left. -/
@[simps] def pop (b : Buffer ι) (rest : List ι) : Buffer ι := { b with items := rest, busy := b.busy + 1 }

/-- A worker is done with its item. -/
@[simps] def free (b : Buffer ι) : Buffer ι := { b with busy := b.busy - 1 }

/-- Adding ends. -/
@[simps] def complete (b : Buffer ι) : Buffer ι := { b with addingCompleted := true }

/-- The queue is disposed. -/
@[simps] def close (b : Buffer ι) : Buffer ι := { b with items := [], disposed := true }

/-- The queue takes no more items: adding has ended, or the queue is disposed. -/
def isClosed (b : Buffer ι) : Bool := b.disposed || b.addingCompleted

end Buffer

namespace Shared

variable (s : Shared ι) (t : ThreadId) (n : Note ι)

@[simp] theorem note_buffer : (s.note t n).buffer = s.buffer := rfl

@[simp] theorem note_counters : (s.note t n).counters = s.counters := rfl

@[simp] theorem note_result : (s.note t n).result = s.result := rfl

@[simp] theorem note_journal : (s.note t n).journal = (t, n) :: s.journal := rfl

@[simp] theorem setBuffer_value (b : Buffer ι) : (s.setBuffer b).buffer.value = b := rfl

@[simp] theorem setBuffer_poisoned (b : Buffer ι) : (s.setBuffer b).buffer.poisoned = s.buffer.poisoned := rfl

@[simp] theorem setBuffer_counters (b : Buffer ι) : (s.setBuffer b).counters = s.counters := rfl

@[simp] theorem setBuffer_result (b : Buffer ι) : (s.setBuffer b).result = s.result := rfl

@[simp] theorem entries_setBuffer (b : Buffer ι) (kind : Note ι → Option β) :
    (s.setBuffer b).entries kind = s.entries kind := rfl

/-- The state with a counter grown. -/
def count (c : Counter) (k : Nat) : Shared ι := { s with counters := s.counters.add c k }

@[simp] theorem count_buffer (c : Counter) (k : Nat) : (s.count c k).buffer = s.buffer := rfl

@[simp] theorem count_counters (c : Counter) (k : Nat) : (s.count c k).counters = s.counters.add c k := rfl

@[simp] theorem count_result (c : Counter) (k : Nat) : (s.count c k).result = s.result := rfl

@[simp] theorem entries_count (c : Counter) (k : Nat) (kind : Note ι → Option β) :
    (s.count c k).entries kind = s.entries kind := rfl

/-- The state with the completion result set. -/
def settled (b : Bool) : Shared ι := { s with result := some b }

@[simp] theorem settled_buffer (b : Bool) : (s.settled b).buffer = s.buffer := rfl

@[simp] theorem settled_counters (b : Bool) : (s.settled b).counters = s.counters := rfl

@[simp] theorem settled_result (b : Bool) : (s.settled b).result = some b := rfl

@[simp] theorem entries_settled (b : Bool) (kind : Note ι → Option β) :
    (s.settled b).entries kind = s.entries kind := rfl

/-- An event adds its note at the end. -/
@[simp] theorem entries_note (kind : Note ι → Option β) :
    (s.note t n).entries kind = s.entries kind ++ ((kind n).map (t, ·)).toList := by
  cases h : kind n <;> simp [entries, h]

@[simp] theorem accepted_setBuffer (b : Buffer ι) : (s.setBuffer b).accepted = s.accepted := rfl

@[simp] theorem taken_setBuffer (b : Buffer ι) : (s.setBuffer b).taken = s.taken := rfl

@[simp] theorem abandoned_setBuffer (b : Buffer ι) : (s.setBuffer b).abandoned = s.abandoned := rfl

@[simp] theorem accepted_note : (s.note t n).accepted = s.accepted ++ n.accepted?.toList := by
  cases h : n.accepted? <;> simp [accepted, acceptances, h]

@[simp] theorem taken_note : (s.note t n).taken = s.taken ++ n.taken?.toList := by
  cases h : n.taken? <;> simp [taken, takes, h]

@[simp] theorem abandoned_note : (s.note t n).abandoned = s.abandoned ++ n.abandoned?.toList.flatMap Prod.fst := by
  cases h : n.abandoned? <;> simp [abandoned, disposals, h]

/-- Several notes at once leave everything but the journal alone. -/
theorem noteAll_spec (ns : List (Note ι)) :
    (s.noteAll t ns).buffer = s.buffer ∧ (s.noteAll t ns).counters = s.counters ∧
      (s.noteAll t ns).result = s.result ∧ (s.noteAll t ns).journal = (ns.map (t, ·)).reverse ++ s.journal := by
  induction ns generalizing s with
  | nil => exact ⟨rfl, rfl, rfl, rfl⟩
  | cons n ns ih =>
    obtain ⟨hb, hc, hr, hj⟩ := ih (s.note t n)
    refine ⟨hb, hc, hr, ?_⟩
    have h : s.noteAll t (n :: ns) = (s.note t n).noteAll t ns := rfl
    rw [h, hj]
    simp

end Shared

/-- Notes that are not of a kind add no entry of it. -/
theorem Shared.entries_of_journal {s s' : Shared ι} {ns : List (ThreadId × Note ι)} {kind : Note ι → Option β}
    (hj : s'.journal = ns ++ s.journal) (hns : ∀ p ∈ ns, kind p.2 = none) : s'.entries kind = s.entries kind := by
  have hnil : ns.reverse.filterMap (fun p => (kind p.2).map (p.1, ·)) = [] := by
    rw [List.filterMap_eq_nil_iff]
    intro p hp
    rw [hns p (List.mem_reverse.1 hp)]
    rfl
  unfold Shared.entries
  rw [hj, List.reverse_append, List.filterMap_append, hnil, List.append_nil]

/-- `s'` differs from `s` in nothing that concerns items: same buffer, counters and result, and no note of an item. -/
structure Shared.Same (s s' : Shared ι) : Prop where
  buffer : s'.buffer.value = s.buffer.value
  poisoned : s.buffer.poisoned = true → s'.buffer.poisoned = true
  counters : s'.counters = s.counters
  result : s'.result = s.result
  journal : ∃ ns, s'.journal = ns ++ s.journal ∧ ∀ p ∈ ns, p.2.isAside = true

namespace Shared.Same

variable {s s' : Shared ι}

theorem refl (s : Shared ι) : s.Same s := ⟨rfl, id, rfl, rfl, [], rfl, by simp⟩

/-- A kind of notes of items has no entry more. -/
theorem entries (h : s.Same s') {kind : Note ι → Option β} (hk : ∀ n, n.isAside = true → kind n = none) :
    s'.entries kind = s.entries kind := by
  obtain ⟨ns, hj, hns⟩ := h.journal
  exact entries_of_journal hj fun p hp => hk p.2 (hns p hp)

theorem acceptances (h : s.Same s') : s'.acceptances = s.acceptances := h.entries fun n hn => by
  cases n <;> simp_all [Note.isAside, Note.accepted?]

theorem takes (h : s.Same s') : s'.takes = s.takes := h.entries fun n hn => by
  cases n <;> simp_all [Note.isAside, Note.taken?]

theorem starts (h : s.Same s') : s'.starts = s.starts := h.entries fun n hn => by
  cases n <;> simp_all [Note.isAside, Note.started?]

theorem endings (h : s.Same s') : s'.endings = s.endings := h.entries fun n hn => by
  cases n <;> simp_all [Note.isAside, Note.handled?]

theorem disposals (h : s.Same s') : s'.disposals = s.disposals := h.entries fun n hn => by
  cases n <;> simp_all [Note.isAside, Note.abandoned?]

end Shared.Same

end Conveyor.Queue
