import Conveyor.Proofs.Queue.Journal
import Conveyor.Queue.Step

/-!
# What an instruction can do to the items

`Act u s t i e` lists what instruction `i` of thread `t` can do, as far as items, counters and the completion are
concerned: a bid that is accepted, a take, a call of client code, and so on, each with its guard and with what the
thread does next. Everything else is `Act.other`, which touches none of these and leaves only plain instructions to do.

* `act_of_perform`: whatever an instruction does is one of these acts.
* `Act.sound`: an act leaves only sound instructions to do.
-/

namespace Conveyor.Queue

variable {ι : Type}

/-! ## Kinds of instructions -/

namespace Instr

/-- The bid that a look at the state lock is for. -/
def bid? : Instr ι → Option (Bid ι)
  | .enter b => some b
  | .retry b => some b
  | _ => none

/-- Whether the instruction is a look at the state lock for an item. -/
def isSeek : Instr ι → Bool
  | .take => true
  | .retake => true
  | _ => false

/-- A strong reference is taken only for a bid, or for no call at all. -/
def isSound : Instr ι → Bool
  | .upgrade call _ => call.all fun i => i.bid?.isSome
  | _ => true

/-- Whether the instruction is neither part of a worker's round nor owed to the other threads. -/
def isPlain : Instr ι → Bool
  | .run (.handler _) _ => false
  | .resume (.handler _) _ => false
  | .upgrade call dead => (Instr.upgrade call dead).isSound
  | .bump c _ => c = .rejected
  | .notifyOne _ => false
  | .notifyAll c => c = .resolved
  | .take => false
  | .retake => false
  | .start _ => false
  | .finish => false
  | .resolve _ => false
  | _ => true

theorem isSound_of_isPlain {i : Instr ι} (h : i.isPlain = true) : i.isSound = true := by
  cases i with
  | upgrade call dead => exact h
  | _ => rfl

theorem isPlain_of_bid {i : Instr ι} {b : Bid ι} (h : i.bid? = some b) : i.isPlain = true := by
  cases i <;> simp_all [bid?, isPlain]

end Instr

/-- The calls of client code are plain. -/
theorem Call.isPlain_instrs (c : Call ι) (now : Nat) : ∀ i ∈ c.instrs now, i.isPlain = true := by
  cases c with
  | add via x token => cases via <;> simp [Call.instrs, Instr.isPlain, Instr.isSound, Instr.bid?]
  | tryAdd via x patience => cases via <;> simp [Call.instrs, Instr.isPlain, Instr.isSound, Instr.bid?]
  | waitTimeout patience => cases patience <;> simp [Call.instrs, Instr.isPlain]
  | producerName => simp [Call.instrs, Instr.isPlain, Instr.isSound]
  | _ => simp [Call.instrs, Instr.isPlain]

/-! ## Acts -/

/-- The exception that a handler's end raises, if it does. -/
def Ending.fault? (u : Setup ι) : Ending ι → Option QueueException
  | .returned _ => none
  | .failed c => some ⟨.handler, u.name, c⟩
  | .panicked p => some ⟨.handler, u.name, .queue (.handlerPanicked p.message)⟩

/-- How the worker goes on when a handler has ended. -/
def Ending.report (u : Setup ι) (e : Ending ι) : List (Instr ι) :=
  match e.fault? u with
  | none => [.bump .processed 1]
  | some x => raise x

/-- The state with the end of a handler noted, and with the exception that it raises. -/
def Shared.noteEnding (u : Setup ι) (s : Shared ι) (t : ThreadId) (x : ι) (e : Ending ι) : Shared ι :=
  match e.fault? u with
  | none => s.note t (.handled x e)
  | some ex => (s.note t (.handled x e)).note t (.raised ex)

namespace Shared

variable (u : Setup ι) (s : Shared ι) (t : ThreadId) (x : ι) (e : Ending ι)

@[simp] theorem noteEnding_buffer : (s.noteEnding u t x e).buffer = s.buffer := by cases e <;> rfl

@[simp] theorem noteEnding_counters : (s.noteEnding u t x e).counters = s.counters := by cases e <;> rfl

@[simp] theorem noteEnding_result : (s.noteEnding u t x e).result = s.result := by cases e <;> rfl

/-- The end of a handler adds its own note, and one for the exception that it raises. -/
@[simp] theorem entries_noteEnding {β : Type} (kind : Note ι → Option β) :
    (s.noteEnding u t x e).entries kind = s.entries kind ++ ((kind (.handled x e)).map (t, ·)).toList ++
      (((e.fault? u).bind fun ex => kind (.raised ex)).map (t, ·)).toList := by
  cases e <;> simp [noteEnding, Ending.fault?]

end Shared

section Acts

variable (u : Setup ι) (s : Shared ι) (t : ThreadId)

/-- What instruction `i` can do on thread `t` in state `s`, with its effect. -/
inductive Act : Instr ι → Effect ι → Prop
  /-- A bid finds an open queue with room. -/
  | accept {i : Instr ι} {bid : Bid ι} {r : Reply ι} (hi : i.bid? = some bid)
      (hopen : s.buffer.value.isClosed = false) (hroom : s.buffer.value.hasRoom u.capacity = true) :
      Act i
        { shared := (s.setBuffer (s.buffer.value.push bid.item)).note t (.accepted bid.item)
          push := [.bump .enqueued 1, .notifyOne .notEmpty, .reply r] }
  /-- A bid finds an open queue without room, and waits. -/
  | await {i : Instr ι} {bid : Bid ι} (hi : i.bid? = some bid) (hopen : s.buffer.value.isClosed = false)
      (hfull : s.buffer.value.hasRoom u.capacity = false) :
      Act i { shared := s, push := [.retry bid], asleep := some .notFull }
  /-- A bid is refused or given up, which happens only for want of room or in a closed queue. -/
  | refuse {i : Instr ι} {bid : Bid ι} {e : Effect ι} (hi : i.bid? = some bid)
      (hwhy : s.buffer.value.isClosed = true ∨ s.buffer.value.hasRoom u.capacity = false ∨ s.buffer.poisoned = true)
      (hsame : s.Same e.shared) (hpush : ∀ j ∈ e.push, j.isPlain = true) (hwake : e.wake = .nobody)
      (hasleep : e.asleep = none) : Act i e
  /-- A worker takes the oldest item. -/
  | take {i : Instr ι} {x : ι} {rest : List ι} (hi : i.isSeek = true) (hopen : s.buffer.value.disposed = false)
      (hitems : s.buffer.value.items = x :: rest) :
      Act i
        { shared := (s.setBuffer (s.buffer.value.pop rest)).note t (.taken x)
          push := [.notifyOne .notFull, .start x, .finish] }
  /-- A worker finds an open queue without items, and waits. -/
  | idle {i : Instr ι} (hi : i.isSeek = true) (hopen : s.buffer.value.isClosed = false)
      (hitems : s.buffer.value.items = []) :
      Act i { shared := s, push := [.retake], asleep := some .notEmpty }
  /-- A worker finds nothing left to do. -/
  | leave {i : Instr ι} (hi : i.isSeek = true)
      (hwhy : s.buffer.value.disposed = true ∨ s.buffer.value.addingCompleted = true ∧ s.buffer.value.items = []) :
      Act i { shared := s, push := [.say (.workerStopped u.name t), .release] }
  | start {x : ι} :
      Act (.start x) { shared := s.note t (.started x), push := [.run (.handler x) (u.code.handler x)] }
  /-- Client code makes a call. -/
  | call {role : Role ι} {c : Call ι} {next : Reply ι → Script ι} :
      Act (.run role (.call c next))
        { shared := s, push := c.instrs s.now ++ [.resume role next], reply := some .unit }
  /-- Client code goes on after a call. -/
  | resume {role : Role ι} {next : Reply ι → Script ι} {held : Reply ι} :
      Act (.resume role next) { shared := s, push := [.run role (next held)] }
  /-- The handler is done with an item. -/
  | handled {x : ι} {ending : Ending ι} :
      Act (.run (.handler x) (.ret ending))
        { shared := s.noteEnding u t x ending, push := ending.report u }
  | finish :
      Act .finish
        { shared := s.setBuffer s.buffer.value.free
          push := (if s.buffer.value.free.isDrained then [.resolve true] else []) ++ [.take] }
  /-- The completion result is set. -/
  | resolve {drained : Bool} {news : List (Instr ι)} (hresult : s.result = none)
      (hnews : ∀ j ∈ news, j.isPlain = true) (hall : .notifyAll .resolved ∈ news) :
      Act (.resolve drained) { shared := (s.settled drained).note t (.resolved drained), push := news }
  /-- The completion result is there already. -/
  | resolveLate {drained : Bool} (hresult : s.result.isSome = true) : Act (.resolve drained) { shared := s }
  /-- Adding ends. -/
  | complete {news : List (Instr ι)} (hopen : s.buffer.value.disposed = false)
      (hnews : ∀ j ∈ news, j.isPlain = true) :
      Act .completeAdding
        { shared := s.setBuffer s.buffer.value.complete
          push := [.notifyAll .notEmpty, .notifyAll .notFull] ++ news ++
            (if s.buffer.value.complete.isDrained then [.resolve true] else []) ++ [.reply .unit] }
  /-- The queue is disposed. -/
  | close {news : List (Instr ι)} (hopen : s.buffer.value.disposed = false)
      (hnews : ∀ j ∈ news, j.isPlain = true) :
      Act .dispose
        { shared := (s.setBuffer s.buffer.value.close).note t
            (.abandoned s.buffer.value.items s.buffer.value.isDrained)
          push := [.notifyAll .notEmpty, .notifyAll .notFull, .bump .abandoned s.buffer.value.items.length,
            .resolve s.buffer.value.isDrained] ++ news }
  | bump {c : Counter} {n : Nat} : Act (.bump c n) { shared := s.count c n }
  | notifyOne {c : Condition} : Act (.notifyOne c) { shared := s, wake := .one c }
  | notifyAll {c : Condition} : Act (.notifyAll c) { shared := s, wake := .all c }
  /-- Anything else. -/
  | other {i : Instr ι} {e : Effect ι} (hi : i.isPlain = true) (hbid : i.bid? = none) (hsame : s.Same e.shared)
      (hpush : ∀ j ∈ e.push, j.isPlain = true) (hwake : e.wake = .nobody)
      (hasleep : e.asleep = none ∨ e.asleep = some .resolved ∧ s.result = none ∧ ∃ d, e.push = [.awaitResult d])
      (hquiet : ∀ c, i ≠ .notifyAll c) : Act i e

end Acts

/-! ## Whatever an instruction does is an act -/

section Perform

variable {u : Setup ι} {s : Shared ι} {t : ThreadId} {ended : ThreadId → Bool} {held : Reply ι}

/-- A state with one note more that is about no item. -/
theorem same_note {n : Note ι} (hn : n.isAside = true) : s.Same (s.note t n) :=
  ⟨rfl, id, rfl, rfl, [(t, n)], rfl, by simpa using hn⟩

/-- One look at the state lock for a bid. -/
theorem act_look {i : Instr ι} {bid : Bid ι} (hi : i.bid? = some bid) : Act u s t i (look u s t bid) := by
  unfold look Guarded.recovered
  dsimp only
  by_cases hd : s.buffer.value.disposed = true
  · rw [if_pos hd]
    exact .refuse hi (.inl (by simp [Buffer.isClosed, hd])) (same_note rfl) (by simp [raise, Instr.isPlain]) rfl rfl
  rw [if_neg hd]
  by_cases ha : s.buffer.value.addingCompleted = true
  · rw [if_pos ha]
    exact .refuse hi (.inl (by simp [Buffer.isClosed, ha])) (same_note rfl) (by simp [raise, Instr.isPlain]) rfl rfl
  rw [if_neg ha]
  have hopen : s.buffer.value.isClosed = false := by simp [Buffer.isClosed, hd, ha]
  by_cases hr : s.buffer.value.hasRoom u.capacity = true
  · rw [if_pos hr]
    exact .accept hi hopen hr
  rw [if_neg hr]
  have hfull : s.buffer.value.hasRoom u.capacity = false := by simpa using hr
  split
  · exact .refuse hi (.inr (.inl hfull)) (.refl s) (by simp) rfl rfl
  split
  · exact .refuse hi (.inr (.inl hfull)) (.refl s) (by simp) rfl rfl
  · exact .await hi hopen hfull

/-- One look at the state lock for an item. -/
theorem act_seek {i : Instr ι} (hi : i.isSeek = true) : Act u s t i (seek u s t) := by
  unfold seek Guarded.recovered
  dsimp only
  by_cases hd : s.buffer.value.disposed = true
  · rw [if_pos hd]
    exact .leave hi (.inl hd)
  rw [if_neg hd]
  have hopen : s.buffer.value.disposed = false := by simpa using hd
  split
  · rename_i x rest hx
    exact .take hi hopen hx
  · rename_i hx
    by_cases ha : s.buffer.value.addingCompleted = true
    · rw [if_pos ha]
      exact .leave hi (.inr ⟨ha, hx⟩)
    · rw [if_neg ha]
      exact .idle hi (by simp [Buffer.isClosed, hopen, ha]) hx

/-- The end of client code. -/
theorem act_followUp {role : Role ι} {ending : Ending ι} :
    Act u s t (.run role (.ret ending)) (followUp u s t ending role) := by
  cases role with
  | handler x =>
    have h : followUp u s t ending (.handler x) =
        { shared := s.noteEnding u t x ending, push := ending.report u } := by
      cases ending <;> rfl
    rw [h]
    exact .handled
  | callback e =>
    cases ending <;> exact .other rfl rfl (.refl s) (by simp [followUp, Instr.isPlain]) rfl (.inl rfl) (by simp)
  | client => exact .other rfl rfl (.refl s) (by simp [followUp]) rfl (.inl rfl) (by simp)

/-- An instruction that only gives a reply. -/
theorem act_reply {i : Instr ι} {r : Option (Reply ι)} (hi : i.isPlain = true) (hb : i.bid? = none)
    (hquiet : ∀ c, i ≠ .notifyAll c) : Act u s t i { shared := s, reply := r } :=
  .other hi hb (.refl s) (by simp) rfl (.inl rfl) hquiet

/-- What the hub does changes nothing but the hub and the journal. -/
theorem same_news (hub : Hub) {n : Note ι} (hn : n.isAside = true) (ns : List Log.Notice) :
    s.Same (({ s with hub := hub }.note t n).noteAll t (ns.map .said)) := by
  obtain ⟨hb, hc, hr, hj⟩ := Shared.noteAll_spec ({ s with hub := hub }.note t n) t (ns.map Note.said)
  refine ⟨by rw [hb]; rfl, fun hp => by rw [hb]; exact hp, by rw [hc]; rfl, by rw [hr]; rfl,
    ((ns.map Note.said).map (t, ·)).reverse ++ [(t, n)], ?_, ?_⟩
  · rw [hj]; simp
  · intro p hp
    simp only [List.map_map, List.mem_append, List.mem_reverse, List.mem_map, Function.comp_apply,
      List.mem_singleton] at hp
    rcases hp with ⟨n, -, rfl⟩ | rfl
    · rfl
    · exact hn

/-- Whatever an instruction does is an act. -/
theorem act_of_perform {i : Instr ι} {e : Effect ι} (hi : i.isSound = true)
    (h : perform u s ended t held i = some e) : Act u s t i e := by
  cases i with
  | run role script =>
    cases script with
    | ret ending => cases h; exact act_followUp
    | call c next => cases h; exact .call
    | pause label => cases h
  | resume role next => cases h; exact .resume
  | upgrade call dead =>
    cases call with
    | nil => cases h; exact act_reply hi rfl (by simp)
    | cons j call =>
      simp only [perform, Option.some.injEq] at h
      split at h
      · cases h; exact act_reply hi rfl (by simp)
      · cases h
        refine .other hi rfl ⟨rfl, id, rfl, rfl, [], rfl, by simp⟩ ?_ rfl (.inl rfl) (by simp)
        intro k hk
        rcases List.mem_append.1 hk with hk | hk
        · obtain ⟨b, hb⟩ := Option.isSome_iff_exists.1 (List.all_eq_true.1 hi k hk)
          exact Instr.isPlain_of_bid hb
        · rw [List.mem_singleton.1 hk]; rfl
  | release =>
    cases h
    exact .other rfl rfl ⟨rfl, id, rfl, rfl, [], rfl, by simp⟩ (by simp) rfl (.inl rfl) (by simp)
  | disown =>
    cases h
    refine .other rfl rfl ?_ (by simp) rfl (.inl rfl) (by simp)
    by_cases ho : s.owned = true
    · rw [if_pos ho]; exact ⟨rfl, id, rfl, rfl, [], rfl, by simp⟩
    · rw [if_neg ho]; exact .refl s
  | enter b =>
    simp only [perform, Guarded.checked] at h
    split at h
    · rename_i hc
      split at hc
      · rename_i hp
        cases h
        exact .refuse rfl (.inr (.inr hp)) (.refl s) (by simp) rfl rfl
      · cases hc
    · rename_i hc
      split at hc
      · cases hc
      · cases hc
        split at h
        · rename_i hd
          cases h
          exact .refuse rfl (.inl (by simp [Buffer.isClosed, hd])) (.refl s) (by simp) rfl rfl
        · cases h; exact act_look rfl
  | retry b =>
    simp only [perform, Guarded.checked] at h
    split at h
    · rename_i hc
      split at hc
      · rename_i hp
        cases h
        exact .refuse rfl (.inr (.inr hp)) (.refl s) (by simp) rfl rfl
      · cases hc
    · cases h; exact act_look rfl
  | bump c n => cases h; exact .bump
  | notifyOne c => cases h; exact .notifyOne
  | notifyAll c => cases h; exact .notifyAll
  | say n => cases h; exact .other rfl rfl (same_note rfl) (by simp) rfl (.inl rfl) (by simp)
  | dispatch x =>
    cases h
    exact .other rfl rfl (.refl s) (by simp [Instr.isPlain]) rfl (.inl rfl) (by simp)
  | invoke c x =>
    cases h
    exact .other rfl rfl (same_note rfl) (by simp [Instr.isPlain]) rfl (.inl rfl) (by simp)
  | publish x =>
    cases h
    refine .other rfl rfl (same_news _ rfl _) ?_ rfl (.inl rfl) (by simp)
    dsimp only
    split <;> simp [Instr.isPlain]
  | take => cases h; exact act_seek rfl
  | retake => cases h; exact act_seek rfl
  | start x => cases h; exact .start
  | finish => cases h; exact .finish
  | resolve d =>
    simp only [perform, Option.some.injEq] at h
    split at h
    · rename_i hr
      cases h; exact .resolveLate hr
    · rename_i hr
      cases h
      refine .resolve (by simpa using hr) ?_ ?_
      · cases d <;> simp [Instr.isPlain]
      · simp
  | setWatch d =>
    cases h
    exact .other rfl rfl ⟨rfl, id, rfl, rfl, [], rfl, by simp⟩ (by simp) rfl (.inl rfl) (by simp)
  | completeAdding =>
    simp only [perform, Guarded.checked] at h
    split at h
    · cases h; exact act_reply rfl rfl (by simp)
    · rename_i hc
      split at hc
      · cases hc
      · cases hc
        split at h
        · cases h; exact act_reply rfl rfl (by simp)
        · rename_i hd
          cases h
          refine .complete (by simpa using hd) ?_
          split <;> simp [Instr.isPlain]
  | dispose =>
    simp only [perform, Option.some.injEq] at h
    split at h
    · cases h; exact act_reply rfl rfl (by simp)
    · rename_i hd
      cases h
      exact .close (Bool.eq_false_iff.2 hd) (by simp [Instr.isPlain])
  | takeHandles =>
    cases h
    refine .other rfl rfl ⟨rfl, id, rfl, rfl, [], rfl, by simp⟩ ?_ rfl (.inl rfl) (by simp)
    intro j hj
    rcases List.mem_append.1 hj with hj | hj
    · obtain ⟨w, -, rfl⟩ := List.mem_map.1 hj; rfl
    · rw [List.mem_singleton.1 hj]; rfl
  | join w =>
    simp only [perform] at h
    split at h
    · cases h; exact act_reply rfl rfl (by simp)
    · cases h
  | pendingCount =>
    simp only [perform] at h
    split at h <;> (cases h; exact act_reply rfl rfl (by simp))
  | pendingItems =>
    simp only [perform] at h
    split at h
    · cases h; exact act_reply rfl rfl (by simp)
    · simp only [Option.some.injEq] at h
      split at h
      · cases h; exact act_reply rfl rfl (by simp)
      · split at h
        · cases h
          have hsame : s.Same ({ s with buffer := { s.buffer with poisoned := true } }.note t .poisoned) :=
            ⟨rfl, fun _ => rfl, rfl, rfl, [(t, .poisoned)], rfl, by simp [Note.isAside]⟩
          exact .other rfl rfl hsame (by simp) rfl (.inl rfl) (by simp)
        · cases h; exact act_reply rfl rfl (by simp)
  | stats =>
    cases h
    exact .other rfl rfl (.refl s) (by simp [loads, Instr.isPlain]) rfl (.inl rfl) (by simp)
  | load c => cases h; exact act_reply rfl rfl (by simp)
  | isDisposed => cases h; exact act_reply rfl rfl (by simp)
  | isAddingCompleted => cases h; exact act_reply rfl rfl (by simp)
  | register c =>
    cases h
    exact .other rfl rfl ⟨rfl, id, rfl, rfl, [], rfl, by simp⟩ (by simp) rfl (.inl rfl) (by simp)
  | subscribe name filter =>
    cases h
    exact .other rfl rfl (same_news _ rfl _) (by simp) rfl (.inl rfl) (by simp)
  | unsubscribe name =>
    cases h
    exact .other rfl rfl ⟨rfl, id, rfl, rfl, [], rfl, by simp⟩ (by simp) rfl (.inl rfl) (by simp)
  | result => cases h; exact act_reply rfl rfl (by simp)
  | awaitResult d =>
    simp only [perform, Option.some.injEq] at h
    split at h
    · cases h; exact act_reply rfl rfl (by simp)
    · rename_i hnone
      split at h
      · cases h; exact act_reply rfl rfl (by simp)
      · cases h
        exact .other rfl rfl (.refl s) (by simp [Instr.isPlain]) rfl (.inr ⟨rfl, hnone, d, rfl⟩) (by simp)
  | awaitWatch =>
    simp only [perform] at h
    split at h
    · cases h; exact act_reply rfl rfl (by simp)
    · cases h
  | cancel k =>
    cases h
    exact .other rfl rfl ⟨rfl, id, rfl, rfl, [], rfl, by simp⟩ (by simp) rfl (.inl rfl) (by simp)
  | isCancelled k => cases h; exact act_reply rfl rfl (by simp)
  | reply r => cases h; exact act_reply rfl rfl (by simp)

/-- An act leaves only sound instructions to do. -/
theorem Act.sound {i : Instr ι} {e : Effect ι} (h : Act u s t i e) : ∀ j ∈ e.push, j.isSound = true := by
  cases h with
  | refuse _ _ _ hpush => exact fun j hj => Instr.isSound_of_isPlain (hpush j hj)
  | other _ _ _ hpush => exact fun j hj => Instr.isSound_of_isPlain (hpush j hj)
  | resolve _ hnews => exact fun j hj => Instr.isSound_of_isPlain (hnews j hj)
  | @call role c next =>
    intro j hj
    rcases List.mem_append.1 hj with hj | hj
    · exact Instr.isSound_of_isPlain (c.isPlain_instrs _ j hj)
    · rw [List.mem_singleton.1 hj]; rfl
  | @complete news _ hnews =>
    intro j hj
    simp only [List.mem_append] at hj
    rcases hj with ((hj | hj) | hj) | hj
    · simp only [List.mem_cons, List.not_mem_nil, or_false] at hj
      rcases hj with rfl | rfl <;> rfl
    · exact Instr.isSound_of_isPlain (hnews j hj)
    · split at hj
      · rw [List.mem_singleton.1 hj]; rfl
      · cases hj
    · rw [List.mem_singleton.1 hj]; rfl
  | @close news _ hnews =>
    intro j hj
    rcases List.mem_append.1 hj with hj | hj
    · simp only [List.mem_cons, List.not_mem_nil, or_false] at hj
      rcases hj with rfl | rfl | rfl | rfl <;> rfl
    · exact Instr.isSound_of_isPlain (hnews j hj)
  | finish =>
    intro j hj
    rcases List.mem_append.1 hj with hj | hj
    · split at hj
      · rw [List.mem_singleton.1 hj]; rfl
      · cases hj
    · rw [List.mem_singleton.1 hj]; rfl
  | @handled x ending =>
    intro j hj
    cases ending <;> simp only [Ending.report, Ending.fault?, raise, List.mem_cons, List.not_mem_nil, or_false] at hj
    · rw [hj]; rfl
    · rcases hj with rfl | rfl | rfl | rfl <;> rfl
    · rcases hj with rfl | rfl | rfl | rfl <;> rfl
  | _ => simp [Instr.isSound]

end Perform

end Conveyor.Queue
