import Conveyor.Proofs.Queue.Act

/-!
# What an instruction makes heard

An act (`Act`) says what an instruction does to the items. A voice says what it does to those who listen: to the
counters, to the callbacks and to the subscribers. `Voice u s t i e` lists the instructions that raise an exception,
end adding, dispose the queue, resolve its completion, or are part of a report (`Instr.isVocal`), each with all that
it leaves to do; every other instruction is `Voice.hush`, after which nothing more is to be heard.

* `voice_of_perform`: whatever an instruction does is one of these voices.
-/

namespace Conveyor.Queue

variable {ι β : Type}

/-! ## What is heard -/

namespace Note

def raised? : Note ι → Option QueueException
  | .raised e => some e
  | _ => none

def called? : Note ι → Option (CallbackId × QueueException)
  | .called c e => some (c, e)
  | _ => none

def published? : Note ι → Option QueueEvent
  | .published e => some e
  | _ => none

/-- Whether a note is of something else than the end of a handler, an exception, a callback's call or an event. -/
def isMute : Note ι → Bool
  | .handled .. | .raised _ | .called .. | .published _ => false
  | _ => true

end Note

namespace Shared

/-- The exceptions raised. -/
abbrev raisings (s : Shared ι) : List (ThreadId × QueueException) := s.entries Note.raised?

/-- The calls of callbacks. -/
abbrev calls (s : Shared ι) : List (ThreadId × CallbackId × QueueException) := s.entries Note.called?

/-- The events published, with the threads that published them. -/
abbrev publications (s : Shared ι) : List (ThreadId × QueueEvent) := s.entries Note.published?

/-- The events in the order in which they were published. -/
def events (s : Shared ι) : List QueueEvent := s.publications.map Prod.snd

/-- The exception of a bid that finds the queue closed. -/
def refusal (u : Setup ι) (s : Shared ι) : QueueException :=
  ⟨.add, u.name, .queue (if s.buffer.value.disposed then .disposed else .addingCompleted)⟩

end Shared

/-- The event by which a queue announces a step of its life. -/
def Setup.milestone (u : Setup ι) (type : EventType) (size : Option Nat) : QueueEvent :=
  { type := type, queue := u.name, size := size }

@[simp] theorem Setup.milestone_type (u : Setup ι) (type : EventType) (size : Option Nat) :
    (u.milestone type size).type = type := rfl

namespace Instr

/-- Whether the instruction is part of a report: it changes a counter other than that of accepted items, or goes to the
callbacks or the subscribers. -/
def isVocal : Instr ι → Bool
  | .bump c _ => c ≠ .enqueued
  | .dispatch _ | .invoke .. | .publish _ => true
  | _ => false

/-- Whether the instruction is the first look at the state lock for a bid. -/
def isEntry : Instr ι → Bool
  | .enter _ => true
  | _ => false

/-- A strong reference is taken only for a new bid, or for no call at all. -/
def isProper : Instr ι → Bool
  | .upgrade call _ => call.all isEntry
  | _ => true

/-- Whether the instruction is neither part of a report nor a bid that waits for room. -/
def isTacit : Instr ι → Bool
  | .bump c _ => c = .enqueued
  | .dispatch _ | .invoke .. | .publish _ | .retry _ => false
  | .upgrade call _ => call.all isEntry
  | _ => true

/-- The exception for which the callback was called whose code this is. -/
def calledFor? : Instr ι → Option QueueException
  | .run (.callback x) _ => some x
  | .resume (.callback x) _ => some x
  | _ => none

/-- Whether an instruction that another one leaves is tacit, and no code of a callback unless the other is code of the
same callback. -/
def isTacitAfter (i j : Instr ι) : Bool := j.isTacit && (j.calledFor?.isNone || j.calledFor? = i.calledFor?)

variable {i : Instr ι}

theorem isTacit_of_isTacitAfter {j : Instr ι} (h : isTacitAfter i j = true) : j.isTacit = true :=
  (Bool.and_eq_true_iff.1 h).1

theorem isVocal_of_isTacit (h : i.isTacit = true) : i.isVocal = false := by
  cases i <;> simp_all [isTacit, isVocal]

theorem isProper_of_isTacit (h : i.isTacit = true) : i.isProper = true := by
  cases i <;> simp_all [isTacit, isProper]

theorem isTacitAfter_of_isEntry {j : Instr ι} (h : j.isEntry = true) : isTacitAfter i j = true := by
  cases j <;> simp_all [isEntry, isTacitAfter, isTacit, calledFor?]

end Instr

/-- `s'` differs from `s` in nothing that is heard: same counters, result and flags, and no note of a report. The lock
of a disposed queue is poisoned no more, and a queue that is gone does not come back. -/
structure Shared.Hush (s s' : Shared ι) : Prop where
  counters : s'.counters = s.counters
  result : s'.result = s.result
  addingCompleted : s'.buffer.value.addingCompleted = s.buffer.value.addingCompleted
  disposed : s'.buffer.value.disposed = s.buffer.value.disposed
  poisoned : s.buffer.value.disposed = true → s'.buffer.poisoned = s.buffer.poisoned
  gone : s.strong = 0 → s'.strong = 0
  journal : ∃ ns, s'.journal = ns ++ s.journal ∧ ∀ p ∈ ns, p.2.isMute = true

namespace Shared.Hush

variable {s s' : Shared ι}

theorem refl (s : Shared ι) : s.Hush s := ⟨rfl, rfl, rfl, rfl, fun _ => rfl, id, [], rfl, by simp⟩

theorem trans {s₁ s₂ : Shared ι} (h : s.Hush s₁) (h' : s₁.Hush s₂) : s.Hush s₂ := by
  obtain ⟨hc, hr, ha, hd, hp, hg, ns, hj, hns⟩ := h
  obtain ⟨hc', hr', ha', hd', hp', hg', ns', hj', hns'⟩ := h'
  refine ⟨hc'.trans hc, hr'.trans hr, ha'.trans ha, hd'.trans hd, fun h => (hp' (hd.trans h)).trans (hp h),
    fun h => hg' (hg h), ns' ++ ns, by rw [hj', hj, List.append_assoc], fun p hp => ?_⟩
  rcases List.mem_append.1 hp with hp | hp
  · exact hns' p hp
  · exact hns p hp

/-- A kind of notes of reports has no entry more. -/
theorem entries (h : s.Hush s') {kind : Note ι → Option β} (hk : ∀ n, n.isMute = true → kind n = none) :
    s'.entries kind = s.entries kind := by
  obtain ⟨ns, hj, hns⟩ := h.journal
  exact entries_of_journal hj fun p hp => hk p.2 (hns p hp)

theorem endings (h : s.Hush s') : s'.endings = s.endings := h.entries fun n hn => by
  cases n <;> simp_all [Note.isMute, Note.handled?]

theorem raisings (h : s.Hush s') : s'.raisings = s.raisings := h.entries fun n hn => by
  cases n <;> simp_all [Note.isMute, Note.raised?]

theorem calls (h : s.Hush s') : s'.calls = s.calls := h.entries fun n hn => by
  cases n <;> simp_all [Note.isMute, Note.called?]

theorem publications (h : s.Hush s') : s'.publications = s.publications := h.entries fun n hn => by
  cases n <;> simp_all [Note.isMute, Note.published?]

theorem events (h : s.Hush s') : s'.events = s.events := by rw [Shared.events, h.publications]; rfl

end Shared.Hush

/-! ## Voices -/

section Voices

variable (u : Setup ι) (s : Shared ι) (t : ThreadId)

/-- What is heard of instruction `i` on thread `t` in state `s`, with its effect. -/
inductive Voice : Instr ι → Effect ι → Prop
  /-- A bid is refused because the queue is closed; a disposed queue refuses only those that waited. -/
  | refuse {i : Instr ι} {bid : Bid ι} {r : Reply ι} (hi : i.bid? = some bid)
      (hclosed : s.buffer.value.isClosed = true) (hlate : s.buffer.value.disposed = true → i = .retry bid) :
      Voice i
        { shared := s.note t (.raised (s.refusal u)), push := raise (s.refusal u) ++ [.reply r] }
  /-- A bid waits for room in an open queue. -/
  | await {i : Instr ι} {bid : Bid ι} (hi : i.bid? = some bid) (hopen : s.buffer.value.isClosed = false) :
      Voice i { shared := s, push := [.retry bid], asleep := some .notFull }
  /-- A handler ends. -/
  | handled {x : ι} {ending : Ending ι} :
      Voice (.run (.handler x) (.ret ending)) { shared := s.noteEnding u t x ending, push := ending.report u }
  /-- Adding ends, which is announced the first time. -/
  | complete (hopen : s.buffer.value.disposed = false) :
      Voice .completeAdding
        { shared := s.setBuffer s.buffer.value.complete
          push := [.notifyAll .notEmpty, .notifyAll .notFull] ++
            (if s.buffer.value.addingCompleted then []
              else [.publish (u.milestone .addingCompleted (some s.buffer.value.items.length)),
                .say (.addingEnded u.name)]) ++
            (if s.buffer.value.complete.isDrained then [.resolve true] else []) ++ [.reply .unit] }
  /-- The queue is disposed. -/
  | close (hopen : s.buffer.value.disposed = false) :
      Voice .dispose
        { shared := (s.setBuffer s.buffer.value.close).note t
            (.abandoned s.buffer.value.items s.buffer.value.isDrained)
          push := [.notifyAll .notEmpty, .notifyAll .notFull, .bump .abandoned s.buffer.value.items.length,
            .resolve s.buffer.value.isDrained, .say (.disposed u.name s.buffer.value.items.length),
            .publish (u.milestone .disposed (some s.buffer.value.items.length)), .takeHandles] }
  /-- The completion result is set, and announced if it is `true`. -/
  | resolve {drained : Bool} (hresult : s.result = none) :
      Voice (.resolve drained)
        { shared := (s.settled drained).note t (.resolved drained)
          push := [.notifyAll .resolved, .setWatch drained] ++
            if drained then [.say (.drained u.name), .publish (u.milestone .completed none)] else [] }
  | bump {c : Counter} {n : Nat} : Voice (.bump c n) { shared := s.count c n }
  | dispatch {x : QueueException} : Voice (.dispatch x) { shared := s, push := s.callbacks.map (Instr.invoke · x) }
  | invoke {c : CallbackId} {x : QueueException} :
      Voice (.invoke c x)
        { shared := s.note t (.called c x), push := [.run (.callback x) (u.code.callback c (s.callsOf c) x)] }
  | publish {x : QueueEvent} {e : Effect ι} (hhush : (s.note t (.published x)).Hush e.shared)
      (hpush : ∀ j ∈ e.push, ∃ n, j = .say n) : Voice (.publish x) e
  /-- Nothing is heard. -/
  | hush {i : Instr ι} {e : Effect ι} (hi : i.isVocal = false)
      (hends : ∀ x ending, i ≠ .run (.handler x) (.ret ending)) (hhush : s.Hush e.shared)
      (hpush : ∀ j ∈ e.push, Instr.isTacitAfter i j = true) : Voice i e

end Voices

/-! ## Whatever an instruction does has a voice -/

/-- The calls of client code are no reports. -/
theorem Call.isTacitAfter_instrs (c : Call ι) (now : Nat) (i : Instr ι) :
    ∀ j ∈ c.instrs now, Instr.isTacitAfter i j = true := by
  cases c with
  | add via x token =>
    cases via <;> simp [Call.instrs, Instr.isTacitAfter, Instr.isTacit, Instr.calledFor?, Instr.isEntry]
  | tryAdd via x patience =>
    cases via <;> simp [Call.instrs, Instr.isTacitAfter, Instr.isTacit, Instr.calledFor?, Instr.isEntry]
  | waitTimeout patience =>
    cases patience <;> simp [Call.instrs, Instr.isTacitAfter, Instr.isTacit, Instr.calledFor?]
  | _ => simp [Call.instrs, Instr.isTacitAfter, Instr.isTacit, Instr.calledFor?]

section Perform

variable {u : Setup ι} {s : Shared ι} {t : ThreadId} {ended : ThreadId → Bool} {held : Reply ι}

/-- A change of the buffer that leaves its flags alone, with one mute note. -/
theorem hush_setBuffer {b : Buffer ι} {n : Note ι} (hadd : b.addingCompleted = s.buffer.value.addingCompleted)
    (hdisp : b.disposed = s.buffer.value.disposed) (hn : n.isMute = true) : s.Hush ((s.setBuffer b).note t n) :=
  ⟨rfl, rfl, hadd, hdisp, fun _ => rfl, id, [(t, n)], rfl, by simpa using hn⟩

theorem hush_note {n : Note ι} (hn : n.isMute = true) : s.Hush (s.note t n) :=
  ⟨rfl, rfl, rfl, rfl, fun _ => rfl, id, [(t, n)], rfl, by simpa using hn⟩

/-- A bid that gets a look at the state lock, which in a disposed queue only those do that waited. -/
theorem voice_look {i : Instr ι} {bid : Bid ι} (hi : i.bid? = some bid)
    (hlate : s.buffer.value.disposed = true → i = .retry bid) : Voice u s t i (look u s t bid) := by
  have hquiet : i.isVocal = false ∧ ∀ x ending, i ≠ .run (.handler x) (.ret ending) := by
    cases i <;> simp_all [Instr.bid?, Instr.isVocal]
  unfold look Guarded.recovered
  dsimp only
  by_cases hd : s.buffer.value.disposed = true
  · have he : (⟨.add, u.name, .queue .disposed⟩ : QueueException) = s.refusal u := by simp [Shared.refusal, hd]
    rw [if_pos hd, he]
    exact .refuse hi (by simp [Buffer.isClosed, hd]) hlate
  rw [if_neg hd]
  by_cases ha : s.buffer.value.addingCompleted = true
  · have he : (⟨.add, u.name, .queue .addingCompleted⟩ : QueueException) = s.refusal u := by
      simp [Shared.refusal, hd]
    rw [if_pos ha, he]
    exact .refuse hi (by simp [Buffer.isClosed, ha]) hlate
  rw [if_neg ha]
  split
  · exact .hush hquiet.1 hquiet.2 (hush_setBuffer rfl rfl rfl)
      (by simp [Instr.isTacitAfter, Instr.isTacit, Instr.calledFor?])
  split
  · exact .hush hquiet.1 hquiet.2 (.refl s) (by simp)
  split
  · exact .hush hquiet.1 hquiet.2 (.refl s) (by simp)
  · exact .await hi (by simp [Buffer.isClosed, hd, ha])

/-- One look at the state lock for an item. -/
theorem voice_seek {i : Instr ι} (hi : i.isSeek = true) : Voice u s t i (seek u s t) := by
  have hquiet : i.isVocal = false ∧ ∀ x ending, i ≠ .run (.handler x) (.ret ending) := by
    cases i <;> simp_all [Instr.isSeek, Instr.isVocal]
  refine .hush hquiet.1 hquiet.2 ?_ ?_ <;> unfold seek Guarded.recovered <;> dsimp only
  · split
    · exact .refl s
    split
    · exact hush_setBuffer rfl rfl rfl
    · split <;> exact .refl s
  · split
    · simp [Instr.isTacitAfter, Instr.isTacit, Instr.calledFor?]
    split
    · simp [Instr.isTacitAfter, Instr.isTacit, Instr.calledFor?]
    · split <;> simp [Instr.isTacitAfter, Instr.isTacit, Instr.calledFor?]

/-- The end of client code. -/
theorem voice_followUp {role : Role ι} {ending : Ending ι} :
    Voice u s t (.run role (.ret ending)) (followUp u s t ending role) := by
  cases role with
  | handler x =>
    have h : followUp u s t ending (.handler x) =
        { shared := s.noteEnding u t x ending, push := ending.report u } := by
      cases ending <;> rfl
    rw [h]
    exact .handled
  | callback e =>
    refine .hush rfl (by simp) ?_ ?_
    · cases ending <;> exact .refl s
    · cases ending <;> simp [followUp, Instr.isTacitAfter, Instr.isTacit, Instr.calledFor?]
  | client => exact .hush rfl (by simp) (.refl s) (by simp [followUp])

/-- An instruction that only gives a reply. -/
theorem voice_reply {i : Instr ι} {r : Option (Reply ι)} (hi : i.isVocal = false)
    (hends : ∀ x ending, i ≠ .run (.handler x) (.ret ending)) : Voice u s t i { shared := s, reply := r } :=
  .hush hi hends (.refl s) (by simp)

/-- What the hub says of itself is not heard. -/
theorem hush_news (ns : List Log.Notice) : s.Hush (s.noteAll t (ns.map .said)) := by
  induction ns generalizing s with
  | nil => exact .refl s
  | cons n ns ih => exact (hush_note rfl).trans ih

/-- What does not touch counters, result, buffer or journal is not heard. -/
theorem hush_frame {s' : Shared ι} (hc : s'.counters = s.counters) (hr : s'.result = s.result)
    (hb : s'.buffer = s.buffer) (hg : s.strong = 0 → s'.strong = 0) (hj : s'.journal = s.journal) : s.Hush s' :=
  ⟨hc, hr, by rw [hb], by rw [hb], fun _ => by rw [hb], hg, [], hj, by simp⟩

theorem hush_release : s.Hush s.releaseOne :=
  hush_frame rfl rfl rfl (fun h => by simp [Shared.releaseOne, h]) rfl

/-- The hub and the journal after an event. -/
theorem hush_publish (hub : Hub) (x : QueueEvent) (ns : List Log.Notice) :
    (s.note t (.published x)).Hush (({ s with hub := hub }.note t (.published x)).noteAll t (ns.map .said)) := by
  have h : (s.note t (.published x)).Hush ({ s with hub := hub }.note t (.published x)) :=
    hush_frame rfl rfl rfl id rfl
  exact h.trans (hush_news ns)

/-- The hub and the journal after a new subscription. -/
theorem hush_subscribe (hub : Hub) (id : String) (n : Nat) (ns : List Log.Notice) :
    s.Hush (({ s with hub := hub }.note t (.subscribed id n)).noteAll t (ns.map .said)) := by
  have h : s.Hush ({ s with hub := hub }.note t (.subscribed id n)) :=
    ⟨rfl, rfl, rfl, rfl, fun _ => rfl, fun h => h, [(t, .subscribed id n)], rfl, by simp [Note.isMute]⟩
  exact h.trans (hush_news ns)

/-- Whatever an instruction does has a voice. -/
theorem voice_of_perform {i : Instr ι} {e : Effect ι} (hi : i.isProper = true)
    (h : perform u s ended t held i = some e) : Voice u s t i e := by
  cases i with
  | run role script =>
    cases script with
    | ret ending => cases h; exact voice_followUp
    | call c next =>
      cases h
      refine .hush rfl (by simp) (.refl s) fun j hj => ?_
      rcases List.mem_append.1 hj with hj | hj
      · exact c.isTacitAfter_instrs _ _ j hj
      · rw [List.mem_singleton.1 hj]
        cases role <;> simp [Instr.isTacitAfter, Instr.isTacit, Instr.calledFor?]
    | pause label => cases h
  | resume role next =>
    cases h
    refine .hush rfl (by simp) (.refl s) ?_
    cases role <;> simp [Instr.isTacitAfter, Instr.isTacit, Instr.calledFor?]
  | upgrade call dead =>
    cases call with
    | nil => cases h; exact voice_reply rfl (by simp)
    | cons j call =>
      simp only [perform, Option.some.injEq] at h
      split at h
      · cases h; exact voice_reply rfl (by simp)
      · rename_i hstrong
        cases h
        refine .hush rfl (by simp) (hush_frame rfl rfl rfl (fun h => absurd h hstrong) rfl) fun k hk => ?_
        rcases List.mem_append.1 hk with hk | hk
        · exact Instr.isTacitAfter_of_isEntry (List.all_eq_true.1 hi k hk)
        · rw [List.mem_singleton.1 hk]; rfl
  | release => cases h; exact .hush rfl (by simp) hush_release (by simp)
  | disown =>
    cases h
    refine .hush rfl (by simp) ?_ (by simp)
    by_cases ho : s.owned = true
    · rw [if_pos ho]; exact hush_release.trans (hush_frame rfl rfl rfl id rfl)
    · rw [if_neg ho]; exact .refl s
  | enter b =>
    simp only [perform, Guarded.checked] at h
    split at h
    · cases h; exact voice_reply rfl (by simp)
    · rename_i hc
      split at hc
      · cases hc
      · cases hc
        split at h
        · cases h; exact voice_reply rfl (by simp)
        · rename_i hd
          cases h
          exact voice_look rfl fun h => absurd h hd
  | retry b =>
    simp only [perform, Guarded.checked] at h
    split at h
    · cases h; exact voice_reply rfl (by simp)
    · cases h; exact voice_look rfl fun _ => rfl
  | bump c n => cases h; exact .bump
  | notifyOne c => cases h; exact .hush rfl (by simp) (.refl s) (by simp)
  | notifyAll c => cases h; exact .hush rfl (by simp) (.refl s) (by simp)
  | say n => cases h; exact .hush rfl (by simp) (hush_note rfl) (by simp)
  | dispatch x => cases h; exact .dispatch
  | invoke c x => cases h; exact .invoke
  | publish x =>
    cases h
    refine .publish (hush_publish _ _ _) ?_
    dsimp only
    split <;> simp
  | take => cases h; exact voice_seek rfl
  | retake => cases h; exact voice_seek rfl
  | start x =>
    cases h
    exact .hush rfl (by simp) (hush_note rfl) (by simp [Instr.isTacitAfter, Instr.isTacit, Instr.calledFor?])
  | finish =>
    cases h
    refine .hush rfl (by simp) ⟨rfl, rfl, rfl, rfl, fun _ => rfl, id, [], rfl, by simp⟩ ?_
    dsimp only
    split <;> simp [Instr.isTacitAfter, Instr.isTacit, Instr.calledFor?]
  | resolve d =>
    simp only [perform, Option.some.injEq] at h
    split at h
    · cases h; exact .hush rfl (by simp) (.refl s) (by simp)
    · rename_i hr
      cases h
      exact .resolve (by simpa using hr)
  | setWatch d => cases h; exact .hush rfl (by simp) (hush_frame rfl rfl rfl id rfl) (by simp)
  | completeAdding =>
    simp only [perform, Guarded.checked] at h
    split at h
    · cases h; exact voice_reply rfl (by simp)
    · rename_i hc
      split at hc
      · cases hc
      · cases hc
        split at h
        · cases h; exact voice_reply rfl (by simp)
        · rename_i hd
          cases h
          exact .complete (Bool.eq_false_iff.2 hd)
  | dispose =>
    simp only [perform, Option.some.injEq] at h
    split at h
    · cases h; exact voice_reply rfl (by simp)
    · rename_i hd
      cases h
      exact .close (Bool.eq_false_iff.2 hd)
  | takeHandles =>
    cases h
    refine .hush rfl (by simp) (hush_frame rfl rfl rfl id rfl) fun j hj => ?_
    rcases List.mem_append.1 hj with hj | hj
    · obtain ⟨w, -, rfl⟩ := List.mem_map.1 hj; rfl
    · rw [List.mem_singleton.1 hj]; rfl
  | join w =>
    simp only [perform] at h
    split at h
    · cases h; exact voice_reply rfl (by simp)
    · cases h
  | pendingCount =>
    simp only [perform] at h
    split at h <;> (cases h; exact voice_reply rfl (by simp))
  | pendingItems =>
    simp only [perform] at h
    split at h
    · cases h; exact voice_reply rfl (by simp)
    · rename_i b hb
      simp only [Option.some.injEq] at h
      split at h
      · cases h; exact voice_reply rfl (by simp)
      · rename_i hd
        split at h
        · -- the lock is poisoned, but not that of a disposed queue
          cases h
          have hopen : ¬ s.buffer.value.disposed = true := by
            simp only [Guarded.checked] at hb
            split at hb <;> cases hb
            exact hd
          have hhush : s.Hush ({ s with buffer := { s.buffer with poisoned := true } }.note t .poisoned) :=
            ⟨rfl, rfl, rfl, rfl, fun h => absurd h hopen, id, [(t, .poisoned)], rfl, by simp [Note.isMute]⟩
          exact .hush rfl (by simp) hhush (by simp)
        · cases h; exact voice_reply rfl (by simp)
  | stats =>
    cases h
    exact .hush rfl (by simp) (.refl s) (by simp [loads, Instr.isTacitAfter, Instr.isTacit, Instr.calledFor?])
  | load c => cases h; exact voice_reply rfl (by simp)
  | isDisposed => cases h; exact voice_reply rfl (by simp)
  | isAddingCompleted => cases h; exact voice_reply rfl (by simp)
  | register c => cases h; exact .hush rfl (by simp) (hush_frame rfl rfl rfl id rfl) (by simp)
  | subscribe name filter =>
    cases h
    exact .hush rfl (by simp) (hush_subscribe _ _ _ _) (by simp)
  | unsubscribe name => cases h; exact .hush rfl (by simp) (hush_frame rfl rfl rfl id rfl) (by simp)
  | result => cases h; exact voice_reply rfl (by simp)
  | awaitResult d =>
    simp only [perform, Option.some.injEq] at h
    split at h
    · cases h; exact voice_reply rfl (by simp)
    · split at h
      · cases h; exact voice_reply rfl (by simp)
      · cases h; exact .hush rfl (by simp) (.refl s) (by simp [Instr.isTacitAfter, Instr.isTacit, Instr.calledFor?])
  | awaitWatch =>
    simp only [perform] at h
    split at h
    · cases h; exact voice_reply rfl (by simp)
    · cases h
  | cancel k => cases h; exact .hush rfl (by simp) (hush_frame rfl rfl rfl id rfl) (by simp)
  | isCancelled k => cases h; exact voice_reply rfl (by simp)
  | reply r => cases h; exact voice_reply rfl (by simp)

/-- A voice leaves only proper instructions to do. -/
theorem Voice.proper {i : Instr ι} {e : Effect ι} (h : Voice u s t i e) : ∀ j ∈ e.push, j.isProper = true := by
  cases h with
  | hush _ _ _ hpush => exact fun j hj => Instr.isProper_of_isTacit (Instr.isTacit_of_isTacitAfter (hpush j hj))
  | publish _ hpush =>
    intro j hj
    obtain ⟨n, rfl⟩ := hpush j hj
    rfl
  | dispatch =>
    intro j hj
    obtain ⟨c, -, rfl⟩ := List.mem_map.1 hj
    rfl
  | @handled x ending => cases ending <;> simp [Ending.report, Ending.fault?, raise, Instr.isProper]
  | complete =>
    intro j hj
    simp only [List.mem_append] at hj
    rcases hj with ((hj | hj) | hj) | hj
    · simp only [List.mem_cons, List.not_mem_nil, or_false] at hj
      rcases hj with rfl | rfl <;> rfl
    · split at hj
      · cases hj
      · simp only [List.mem_cons, List.not_mem_nil, or_false] at hj
        rcases hj with rfl | rfl <;> rfl
    · split at hj
      · rw [List.mem_singleton.1 hj]; rfl
      · cases hj
    · rw [List.mem_singleton.1 hj]; rfl
  | @resolve drained => cases drained <;> simp [Instr.isProper]
  | _ => simp [raise, Instr.isProper]

end Perform

/-! ## What is noted of an instruction -/

namespace Instr

/-- The event that an instruction is about to publish. -/
def publishing? : Instr ι → Option QueueEvent
  | .publish x => some x
  | _ => none

/-- The exception whose event an instruction is about to publish. -/
def reporting? : Instr ι → Option QueueException
  | .publish x => x.exception
  | _ => none

/-- The item whose handler ends, and how. -/
def ended? : Instr ι → Option (ι × Ending ι)
  | .run (.handler x) (.ret e) => some (x, e)
  | _ => none

/-- The call of a callback. -/
def called? : Instr ι → Option (CallbackId × QueueException)
  | .invoke c x => some (c, x)
  | _ => none

end Instr

section Voices

variable {u : Setup ι} {s : Shared ι} {t : ThreadId} {i : Instr ι} {e : Effect ι}

theorem Instr.publishing?_of_isVocal {i : Instr ι} (h : i.isVocal = false) : i.publishing? = none := by
  cases i <;> simp_all [isVocal, publishing?]

/-- An event is published by the instruction to publish it. -/
theorem Voice.publications (h : Voice u s t i e) :
    e.shared.publications = s.publications ++ (i.publishing?.map (t, ·)).toList := by
  cases h with
  | refuse hi => cases i <;> simp_all [Instr.bid?, Instr.publishing?, Note.published?]
  | await hi => cases i <;> simp_all [Instr.bid?, Instr.publishing?]
  | @handled x ending => cases ending <;> simp [Instr.publishing?, Note.published?, Ending.fault?]
  | publish hhush => simp [hhush.publications, Instr.publishing?, Note.published?]
  | hush hi _ hhush => simp [hhush.publications, Instr.publishing?_of_isVocal hi]
  | _ => simp [Instr.publishing?, Note.published?]

theorem Instr.reporting?_of_isVocal {i : Instr ι} (h : i.isVocal = false) : i.reporting? = none := by
  cases i <;> simp_all [isVocal, reporting?]

theorem reports_raise (x : QueueException) : (raise (ι := ι) x).filterMap Instr.reporting? = [x] := rfl

/-- The exceptions that are raised are those whose events are left to be published. -/
theorem Voice.raisings (h : Voice u s t i e) :
    e.shared.raisings = s.raisings ++ (e.push.filterMap Instr.reporting?).map (t, ·) := by
  cases h with
  | refuse => simp [reports_raise, Instr.reporting?, Note.raised?]
  | @handled x ending =>
    cases ending <;> simp [Ending.report, Ending.fault?, reports_raise, Instr.reporting?, Note.raised?]
  | complete => split <;> split <;> simp [Instr.reporting?, Setup.milestone]
  | close => simp [Instr.reporting?, Setup.milestone, Note.raised?]
  | resolve => split <;> simp [Instr.reporting?, Setup.milestone, Note.raised?]
  | dispatch => simp [Instr.reporting?, Function.comp_def]
  | @publish x e hhush hpush =>
    have hnil : e.push.filterMap Instr.reporting? = [] := List.filterMap_eq_nil_iff.2 fun j hj => by
      obtain ⟨n, rfl⟩ := hpush j hj
      rfl
    simp [hhush.raisings, hnil, Note.raised?]
  | hush _ _ hhush hpush =>
    have hnil : e.push.filterMap Instr.reporting? = [] := List.filterMap_eq_nil_iff.2 fun j hj =>
      Instr.reporting?_of_isVocal (Instr.isVocal_of_isTacit (Instr.isTacit_of_isTacitAfter (hpush j hj)))
    simp [hhush.raisings, hnil]
  | _ => simp [Instr.reporting?, Note.raised?]

/-- The end of a handler is noted by the instruction that ends it. -/
theorem Voice.endings (h : Voice u s t i e) : e.shared.endings = s.endings ++ (i.ended?.map (t, ·)).toList := by
  cases h with
  | refuse hi => cases i <;> simp_all [Instr.bid?, Instr.ended?, Note.handled?]
  | await hi => cases i <;> simp_all [Instr.bid?, Instr.ended?]
  | @handled x ending => cases ending <;> simp [Instr.ended?, Note.handled?, Ending.fault?]
  | publish hhush => simp [hhush.endings, Instr.ended?, Note.handled?]
  | hush _ hends hhush =>
    have hnone : i.ended? = none := by
      cases i with
      | run role script => cases role <;> cases script <;> simp_all [Instr.ended?]
      | _ => rfl
    simp [hhush.endings, hnone]
  | _ => simp [Instr.ended?, Note.handled?]

/-- The call of a callback is noted by the instruction that makes it. -/
theorem Voice.calls (h : Voice u s t i e) : e.shared.calls = s.calls ++ (i.called?.map (t, ·)).toList := by
  cases h with
  | refuse hi => cases i <;> simp_all [Instr.bid?, Instr.called?, Note.called?]
  | await hi => cases i <;> simp_all [Instr.bid?, Instr.called?]
  | @handled x ending => cases ending <;> simp [Instr.called?, Note.called?, Ending.fault?]
  | publish hhush => simp [hhush.calls, Instr.called?, Note.called?]
  | hush hmute _ hhush =>
    have hnone : i.called? = none := by cases i <;> simp_all [Instr.isVocal, Instr.called?]
    simp [hhush.calls, hnone]
  | _ => simp [Instr.called?, Note.called?]

end Voices

end Conveyor.Queue
