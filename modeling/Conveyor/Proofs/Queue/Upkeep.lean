import Conveyor.Proofs.Queue.Completion

/-!
# What keeps a queue alive, and what its watch channel shows

Two accounts of the shared state that no law of the items touches. The strong references to a queue are the owner's and
those that instructions stand for: each worker holds one until it leaves, and so does each call through a producer's
handle until it returns. And the watch channel is set only after the completion result, to the same value, by the thread
that has set the result. Whatever else the threads share is changed by instructions of one kind each.

* `Reachable.strong_eq`: the count of strong references is exact, so the owner alone keeps the queue alive.
* `steady_of_perform`: only decrees change the circumstances.
* `Reachable.watch_eq`: the watch channel shows the result, unless a thread has still to set it.
-/

namespace Conveyor.Queue

variable {ι : Type}

/-! ## What is held and what is shown -/

/-- How many strong references an instruction stands for. -/
def Instr.hold : Instr ι → Nat
  | .take | .retake | .finish | .release => 1
  | _ => 0

/-- Whether the instruction makes known that there is a result. -/
def Instr.isHerald : Instr ι → Bool
  | .notifyAll c => c = .resolved
  | .setWatch _ => true
  | _ => false

section Perform

variable {u : Setup ι} {sh : Shared ι} {ended : ThreadId → Bool} {t : ThreadId} {held : Reply ι} {i : Instr ι}
  {e : Effect ι}

theorem Instr.hold_of_bid (h : i.bid?.isSome = true) : i.hold = 0 := by
  cases i <;> simp_all [bid?, hold]

theorem Call.hold_instrs (c : Call ι) (now : Nat) : load Instr.hold (c.instrs now) = 0 := by
  cases c with
  | add via x token => cases via <;> rfl
  | tryAdd via x patience => cases via <;> rfl
  | waitTimeout patience => cases patience <;> rfl
  | _ => rfl

theorem Call.isHerald_instrs (c : Call ι) (now : Nat) : ∀ j ∈ c.instrs now, j.isHerald = false := by
  cases c with
  | add via x token => cases via <;> simp [Call.instrs, Instr.isHerald]
  | tryAdd via x patience => cases via <;> simp [Call.instrs, Instr.isHerald]
  | waitTimeout patience => cases patience <;> simp [Call.instrs, Instr.isHerald]
  | _ => simp [Call.instrs, Instr.isHerald]

theorem Instr.isHerald_of_bid (h : i.bid?.isSome = true) : i.isHerald = false := by
  cases i <;> simp_all [bid?, isHerald]

@[simp] theorem noteAll_strong (s : Shared ι) (ns : List (Note ι)) : (s.noteAll t ns).strong = s.strong := by
  unfold Shared.noteAll
  induction ns generalizing s with
  | nil => rfl
  | cons n ns ih => exact ih (s.note t n)

@[simp] theorem noteAll_owned (s : Shared ι) (ns : List (Note ι)) : (s.noteAll t ns).owned = s.owned := by
  unfold Shared.noteAll
  induction ns generalizing s with
  | nil => rfl
  | cons n ns ih => exact ih (s.note t n)

/-- The strong references of the state go with those of the instructions, and whoever has the watch channel to set has
just set the result. -/
structure Upheld (sh : Shared ι) (i : Instr ι) (e : Effect ι) : Prop where
  strong : e.shared.strong + i.hold + sh.owned.toNat = sh.strong + load Instr.hold e.push + e.shared.owned.toNat
  setWatch : ∀ b, .setWatch b ∈ e.push → i = .resolve b

/-- Whatever does not set the result leaves nothing to do that makes one known. -/
theorem unheralded_of_perform (hsound : i.isSound = true) (hi : ∀ b, i = .resolve b → sh.result.isSome = true)
    (he : perform u sh ended t held i = some e) : ∀ j ∈ e.push, j.isHerald = false := by
  have looks : ∀ bid, ∀ j ∈ (look u sh t bid).push, j.isHerald = false := by
    intro bid
    unfold look
    dsimp only
    repeat' split
    all_goals simp [raise, Instr.isHerald]
  have seeks : ∀ j ∈ (seek u sh t).push, j.isHerald = false := by
    unfold seek
    dsimp only
    repeat' split
    all_goals simp [Instr.isHerald]
  cases i with
  | resolve drained =>
    simp only [perform, hi drained rfl, if_true, Option.some.injEq] at he
    cases he
    simp
  | run role script =>
    cases script with
    | ret ending =>
      cases he
      cases role <;> cases ending <;> simp [followUp, raise, Instr.isHerald]
    | call c next =>
      cases he
      intro j hj
      rcases List.mem_append.1 hj with hj | hj
      · exact c.isHerald_instrs _ j hj
      · rw [List.mem_singleton.1 hj]; rfl
    | pause label => cases he
  | upgrade call dead =>
    cases call with
    | nil => cases he; simp
    | cons k call =>
      simp only [perform, Option.some.injEq] at he
      split at he
      · cases he; simp
      · cases he
        intro j hj
        rcases List.mem_append.1 hj with hj | hj
        · exact Instr.isHerald_of_bid (List.all_eq_true.1 hsound j hj)
        · rw [List.mem_singleton.1 hj]; rfl
  | enter bid =>
    simp only [perform] at he
    split at he
    · cases he; simp
    · simp only [Option.some.injEq] at he
      split at he
      · cases he; simp
      · cases he; exact looks bid
  | retry bid =>
    simp only [perform] at he
    split at he
    · cases he; simp
    · cases he; exact looks bid
  | take => cases he; exact seeks
  | retake => cases he; exact seeks
  | dispatch x => cases he; simp [Instr.isHerald]
  | takeHandles =>
    cases he
    intro j hj
    rcases List.mem_append.1 hj with hj | hj
    · obtain ⟨w, -, rfl⟩ := List.mem_map.1 hj
      rfl
    · rw [List.mem_singleton.1 hj]
      rfl
  | publish x =>
    cases he
    dsimp only
    split <;> simp [Instr.isHerald]
  | finish =>
    cases he
    dsimp only
    split <;> simp [Instr.isHerald]
  | completeAdding =>
    simp only [perform] at he
    split at he
    · cases he; simp
    · simp only [Option.some.injEq] at he
      split at he
      · cases he; simp
      · cases he
        dsimp only
        split <;> split <;> simp [Instr.isHerald]
  | dispose =>
    simp only [perform, Option.some.injEq] at he
    split at he <;> (cases he; simp [Instr.isHerald])
  | join w =>
    simp only [perform] at he
    split at he
    · cases he; simp
    · cases he
  | pendingCount =>
    simp only [perform] at he
    split at he <;> (cases he; simp)
  | pendingItems =>
    simp only [perform] at he
    split at he
    · cases he; simp
    · simp only [Option.some.injEq] at he
      split at he
      · cases he; simp
      · split at he <;> (cases he; simp)
  | awaitResult d =>
    simp only [perform, Option.some.injEq] at he
    split at he
    · cases he; simp
    · split at he <;> (cases he; simp [Instr.isHerald])
  | awaitWatch =>
    simp only [perform] at he
    split at he
    · cases he; simp
    · cases he
  | _ => cases he; simp [loads, Instr.isHerald]

/-- Only the setting of the result has it made known, first by a notification and then on the watch channel. -/
theorem herald_of_perform (hsound : i.isSound = true) (he : perform u sh ended t held i = some e) :
    (e.shared.result = sh.result ∧ ∀ j ∈ e.push, j.isHerald = false) ∨
      ∃ b news, i = .resolve b ∧ sh.result = none ∧ e.shared.result = some b ∧
        e.push = .notifyAll .resolved :: .setWatch b :: news ∧ ∀ j ∈ news, j.isHerald = false := by
  rcases (act_of_perform hsound he).result_cases with ⟨hsame, hlate⟩ | ⟨b, rfl, hnone, hset⟩
  · exact .inl ⟨hsame, unheralded_of_perform hsound hlate he⟩
  · simp only [perform, hnone, Option.isSome_none, Bool.false_eq_true, if_false, Option.some.injEq] at he
    cases he
    refine .inr ⟨b, _, rfl, hnone, rfl, rfl, ?_⟩
    cases b <;> simp [Instr.isHerald]

theorem strong_of_perform (hsound : i.isSound = true) (hle : i.hold + sh.owned.toNat ≤ sh.strong)
    (he : perform u sh ended t held i = some e) :
    e.shared.strong + i.hold + sh.owned.toNat = sh.strong + load Instr.hold e.push + e.shared.owned.toNat := by
  have looks : ∀ bid, (look u sh t bid).shared.strong + sh.owned.toNat =
      sh.strong + load Instr.hold (look u sh t bid).push + (look u sh t bid).shared.owned.toNat := by
    intro bid
    unfold look
    dsimp only
    repeat' split
    all_goals simp [raise, Instr.hold, Shared.note, Shared.setBuffer]
  have seeks : (seek u sh t).shared.strong + 1 + sh.owned.toNat =
      sh.strong + load Instr.hold (seek u sh t).push + (seek u sh t).shared.owned.toNat := by
    unfold seek
    dsimp only
    repeat' split
    all_goals simp [Instr.hold, Shared.note, Shared.setBuffer]
  cases i with
  | run role script =>
    cases script with
    | ret ending =>
      cases he
      cases role <;> cases ending <;> simp [followUp, raise, Instr.hold, Shared.note]
    | call c next => cases he; simp [Instr.hold, c.hold_instrs]
    | pause label => cases he
  | upgrade call dead =>
    have hbid := List.all_eq_true.1 hsound
    have hcall : load Instr.hold call = 0 := load_eq_zero fun j hj => Instr.hold_of_bid (hbid j hj)
    cases call with
    | nil => cases he; rfl
    | cons j call =>
      simp only [perform, Option.some.injEq] at he
      split at he
      · cases he; rfl
      · cases he
        simp only [load_append, hcall, load_cons, load_nil, Instr.hold]
  | release =>
    cases he
    simp only [Instr.hold] at hle
    simp only [Instr.hold, Shared.releaseOne, load_nil]
    omega
  | disown =>
    cases he
    simp only [Instr.hold] at hle
    by_cases ho : sh.owned = true
    · simp only [ho, Bool.toNat_true] at hle
      simp only [Instr.hold, ho, if_true, Shared.releaseOne, load_nil, Bool.toNat_true, Bool.toNat_false]
      omega
    · simp [ho, Instr.hold]
  | enter bid =>
    simp only [perform] at he
    split at he
    · cases he; rfl
    · simp only [Option.some.injEq] at he
      split at he
      · cases he; rfl
      · cases he; exact looks bid
  | retry bid =>
    simp only [perform] at he
    split at he
    · cases he; rfl
    · cases he; exact looks bid
  | take => cases he; exact seeks
  | retake => cases he; exact seeks
  | dispatch x =>
    cases he
    have hpush : load Instr.hold (sh.callbacks.map fun c => (.invoke c x : Instr ι)) = 0 := by
      refine load_eq_zero fun j hj => ?_
      obtain ⟨c, -, rfl⟩ := List.mem_map.1 hj
      rfl
    simp [Instr.hold, hpush]
  | publish x =>
    cases he
    simp only [noteAll_strong, noteAll_owned, Shared.note]
    split <;> simp [Instr.hold]
  | finish =>
    cases he
    simp only [load_append]
    split <;> simp [Instr.hold, Shared.setBuffer]
  | resolve drained =>
    simp only [perform, Option.some.injEq] at he
    split at he
    · cases he; rfl
    · cases he
      cases drained <;> simp [Instr.hold, Shared.note]
  | completeAdding =>
    simp only [perform] at he
    split at he
    · cases he; rfl
    · simp only [Option.some.injEq] at he
      split at he
      · cases he; rfl
      · cases he
        simp only [load_append]
        split <;> split <;> simp [Instr.hold, Shared.setBuffer]
  | dispose =>
    simp only [perform, Option.some.injEq] at he
    split at he
    · cases he; rfl
    · cases he; simp [Instr.hold, Shared.note, Shared.setBuffer]
  | takeHandles =>
    cases he
    have hpush : load Instr.hold ((sh.handles.filter (· ≠ t)).map fun w => (.join w : Instr ι)) = 0 := by
      refine load_eq_zero fun j hj => ?_
      obtain ⟨w, -, rfl⟩ := List.mem_map.1 hj
      rfl
    simp only [load_append, hpush]
    rfl
  | join w =>
    simp only [perform] at he
    split at he
    · cases he; rfl
    · cases he
  | pendingCount =>
    simp only [perform] at he
    split at he <;> (cases he; rfl)
  | pendingItems =>
    simp only [perform] at he
    split at he
    · cases he; rfl
    · simp only [Option.some.injEq] at he
      split at he
      · cases he; rfl
      · split at he <;> (cases he; simp [Instr.hold, Shared.note])
  | subscribe id filter =>
    cases he
    simp [Instr.hold, Shared.note]
  | awaitResult d =>
    simp only [perform, Option.some.injEq] at he
    split at he
    · cases he; rfl
    · split at he
      · cases he; rfl
      · cases he; simp [Instr.hold]
  | awaitWatch =>
    simp only [perform] at he
    split at he
    · cases he; rfl
    · cases he
  | _ => cases he; simp [Instr.hold, loads, Shared.note]

theorem upheld_of_perform (hsound : i.isSound = true) (hle : i.hold + sh.owned.toNat ≤ sh.strong)
    (he : perform u sh ended t held i = some e) : Upheld sh i e := by
  refine ⟨strong_of_perform hsound hle he, fun b hb => ?_⟩
  rcases herald_of_perform hsound he with ⟨-, hno⟩ | ⟨b', news, rfl, -, -, hpush, hnews⟩
  · cases hno _ hb
  · rw [hpush] at hb
    rcases List.mem_cons.1 hb with hb | hb
    · cases hb
    · rcases List.mem_cons.1 hb with hb | hb
      · cases hb
        rfl
      · cases hnews _ hb

end Perform

/-! ## Strong references -/

section Reachable

variable {u : Setup ι} {s : State ι}

/-- The strong references are the owner's and those that the threads have still to let go of. -/
theorem Reachable.strong_eq (h : Reachable u s) :
    s.shared.strong = s.shared.owned.toNat + total Instr.hold s.stacks := by
  induction h with
  | start =>
    have hworkers : ∀ n, load (load Instr.hold)
        ((List.range n).map fun i => [Instr.say (ι := ι) (.workerStarted u.name i), .take]) = n := by
      intro n
      induction n with
      | zero => rfl
      | succ n ih => rw [List.range_succ, List.map_append, load_append, ih]; rfl
    rw [total, start_stacks, hworkers]
    show u.workers + 1 = 1 + u.workers
    omega
  | @step s s' c hr hs ih =>
    cases c with
    | run t sleeper =>
      obtain ⟨th, i, rest, e, ths, ht, -, hst, he, hw, rfl⟩ := run_of_step hs
      have hget : s.stacks[t]? = some (i :: rest) := by rw [getElem?_stacks ht, hst]
      have hsound : i.isSound = true := hr.sound.head hget
      have hload := load_le_total (w := Instr.hold) (List.mem_of_getElem? hget)
      rw [load_cons] at hload
      have hstrong := (upheld_of_perform hsound (by omega) he).strong
      have htotal := total_set (w := Instr.hold) (e.push ++ rest) hget
      rw [load_cons, load_append] at htotal
      rw [stacks_of_wake hw]
      show e.shared.strong = e.shared.owned.toNat + total Instr.hold (s.stacks.set t (e.push ++ rest))
      omega
    | rouse t =>
      obtain ⟨th, ht, -, rfl⟩ := rouse_of_step hs
      rw [stacks_of_awake ht]
      exact ih
    | answer t script =>
      obtain ⟨th, role, label, rest, ht, hst, rfl⟩ := answer_of_step hs
      have hget : s.stacks[t]? = some (.run role (.pause label) :: rest) := by rw [getElem?_stacks ht, hst]
      have htotal := total_set (w := Instr.hold) (.run role script :: rest) hget
      rw [load_cons, load_cons] at htotal
      rw [stacks_of_answer]
      show s.shared.strong = s.shared.owned.toNat + total Instr.hold (s.stacks.set t (.run role script :: rest))
      simp only [Instr.hold] at htotal
      omega
    | spawn script =>
      cases hs
      rw [stacks_spawn, total_append]
      exact ih
    | _ => cases hs; exact ih

/-- As long as the owner has not let go of the queue, it is alive. -/
theorem Reachable.alive_of_owned (h : Reachable u s) (ho : s.shared.owned = true) : s.shared.strong ≠ 0 := by
  have hstrong := h.strong_eq
  rw [ho, Bool.toNat_true] at hstrong
  omega

end Reachable

/-! ## Circumstances -/

namespace Instr

/-- Whether the instruction may change something other than the buffer, the counters, the journal, the result, the
subscriptions and the count of strong references. -/
def isDecree : Instr ι → Bool
  | .setWatch _ | .cancel _ | .register _ | .takeHandles | .pendingItems | .disown => true
  | _ => false

end Instr

/-- `s'` has the circumstances of `s`. -/
structure Shared.Steady (s s' : Shared ι) : Prop where
  poisoned : s'.buffer.poisoned = s.buffer.poisoned
  callbacks : s'.callbacks = s.callbacks
  handles : s'.handles = s.handles
  cancelled : s'.cancelled = s.cancelled
  watch : s'.watch = s.watch
  owned : s'.owned = s.owned

/-- `s'` differs from `s` in no more of the circumstances than instruction `i` may change. -/
structure Shared.Decreed (s : Shared ι) (i : Instr ι) (s' : Shared ι) : Prop where
  callbacks : (∀ c, i ≠ .register c) → s'.callbacks = s.callbacks
  handles : i ≠ .takeHandles → s'.handles = s.handles
  cancelled : (∀ token, i ≠ .cancel token) → s'.cancelled = s.cancelled
  watch : (∀ b, i ≠ .setWatch b) → s'.watch = s.watch
  owned : i ≠ .disown → s'.owned = s.owned

theorem Shared.Decreed.of_steady {s s' : Shared ι} {i : Instr ι} (h : s.Steady s') : s.Decreed i s' :=
  ⟨fun _ => h.callbacks, fun _ => h.handles, fun _ => h.cancelled, fun _ => h.watch, fun _ => h.owned⟩

section Perform

variable {u : Setup ι} {sh : Shared ι} {ended : ThreadId → Bool} {t : ThreadId} {held : Reply ι} {i : Instr ι}
  {e : Effect ι}

theorem Shared.Steady.refl (s : Shared ι) : s.Steady s := ⟨rfl, rfl, rfl, rfl, rfl, rfl⟩

theorem Shared.Steady.trans {s s' s'' : Shared ι} (h : s.Steady s') (h' : s'.Steady s'') : s.Steady s'' :=
  ⟨h'.poisoned.trans h.poisoned, h'.callbacks.trans h.callbacks, h'.handles.trans h.handles,
    h'.cancelled.trans h.cancelled, h'.watch.trans h.watch, h'.owned.trans h.owned⟩

theorem steady_note (s : Shared ι) (n : Note ι) : s.Steady (s.note t n) := ⟨rfl, rfl, rfl, rfl, rfl, rfl⟩

theorem steady_noteAll (s : Shared ι) (ns : List (Note ι)) : s.Steady (s.noteAll t ns) := by
  unfold Shared.noteAll
  induction ns generalizing s with
  | nil => exact .refl s
  | cons n ns ih => exact (steady_note s n).trans (ih (s.note t n))

theorem steady_look (bid : Bid ι) : sh.Steady (look u sh t bid).shared := by
  unfold look
  dsimp only
  repeat' split
  all_goals exact ⟨rfl, rfl, rfl, rfl, rfl, rfl⟩

theorem steady_seek : sh.Steady (seek u sh t).shared := by
  unfold seek
  dsimp only
  repeat' split
  all_goals exact ⟨rfl, rfl, rfl, rfl, rfl, rfl⟩

/-- All other instructions leave the circumstances as they are. -/
theorem steady_of_perform (hi : i.isDecree = false) (he : perform u sh ended t held i = some e) :
    sh.Steady e.shared := by
  cases i with
  | run role script =>
    cases script with
    | ret ending =>
      cases he
      cases role <;> cases ending <;> exact ⟨rfl, rfl, rfl, rfl, rfl, rfl⟩
    | call c next => cases he; exact .refl sh
    | pause label => cases he
  | upgrade call dead =>
    cases call with
    | nil => cases he; exact .refl sh
    | cons j call =>
      simp only [perform, Option.some.injEq] at he
      split at he <;> (cases he; exact ⟨rfl, rfl, rfl, rfl, rfl, rfl⟩)
  | enter bid =>
    simp only [perform] at he
    split at he
    · cases he; exact .refl sh
    · simp only [Option.some.injEq] at he
      split at he
      · cases he; exact .refl sh
      · cases he; exact steady_look bid
  | retry bid =>
    simp only [perform] at he
    split at he
    · cases he; exact .refl sh
    · cases he; exact steady_look bid
  | take => cases he; exact steady_seek
  | retake => cases he; exact steady_seek
  | publish x =>
    cases he
    have hhub : sh.Steady { sh with hub := (sh.hub.publish x).1 } := ⟨rfl, rfl, rfl, rfl, rfl, rfl⟩
    exact (hhub.trans (steady_note _ _)).trans (steady_noteAll _ _)
  | resolve drained =>
    simp only [perform, Option.some.injEq] at he
    split at he <;> (cases he; exact ⟨rfl, rfl, rfl, rfl, rfl, rfl⟩)
  | completeAdding =>
    simp only [perform] at he
    split at he
    · cases he; exact .refl sh
    · simp only [Option.some.injEq] at he
      split at he <;> (cases he; exact ⟨rfl, rfl, rfl, rfl, rfl, rfl⟩)
  | dispose =>
    simp only [perform, Option.some.injEq] at he
    split at he <;> (cases he; exact ⟨rfl, rfl, rfl, rfl, rfl, rfl⟩)
  | join w =>
    simp only [perform] at he
    split at he
    · cases he; exact .refl sh
    · cases he
  | pendingCount =>
    simp only [perform] at he
    split at he <;> (cases he; exact .refl sh)
  | subscribe id filter =>
    cases he
    have hhub : sh.Steady { sh with hub := (sh.hub.subscribe id filter ("queue:" ++ u.name)).1 } :=
      ⟨rfl, rfl, rfl, rfl, rfl, rfl⟩
    exact (hhub.trans (steady_note _ _)).trans (steady_noteAll _ _)
  | awaitResult d =>
    simp only [perform, Option.some.injEq] at he
    split at he
    · cases he; exact .refl sh
    · split at he <;> (cases he; exact .refl sh)
  | awaitWatch =>
    simp only [perform] at he
    split at he
    · cases he; exact .refl sh
    · cases he
  | setWatch b => cases hi
  | cancel k => cases hi
  | register c => cases hi
  | takeHandles => cases hi
  | pendingItems => cases hi
  | disown => cases hi
  | _ => cases he; exact ⟨rfl, rfl, rfl, rfl, rfl, rfl⟩

/-- Each of the circumstances is changed by decrees of one kind only. -/
theorem decreed_of_perform (he : perform u sh ended t held i = some e) : sh.Decreed i e.shared := by
  by_cases hi : i.isDecree = true
  · cases i with
    | register c =>
      cases he
      exact ⟨fun hno => absurd rfl (hno c), fun _ => rfl, fun _ => rfl, fun _ => rfl, fun _ => rfl⟩
    | takeHandles =>
      cases he
      exact ⟨fun _ => rfl, fun hno => absurd rfl hno, fun _ => rfl, fun _ => rfl, fun _ => rfl⟩
    | cancel k =>
      cases he
      exact ⟨fun _ => rfl, fun _ => rfl, fun hno => absurd rfl (hno k), fun _ => rfl, fun _ => rfl⟩
    | setWatch b =>
      cases he
      exact ⟨fun _ => rfl, fun _ => rfl, fun _ => rfl, fun hno => absurd rfl (hno b), fun _ => rfl⟩
    | disown =>
      cases he
      by_cases ho : sh.owned = true
      · rw [if_pos ho]
        exact ⟨fun _ => rfl, fun _ => rfl, fun _ => rfl, fun _ => rfl, fun hno => absurd rfl hno⟩
      · rw [if_neg ho]
        exact .of_steady (.refl sh)
    | pendingItems =>
      simp only [perform] at he
      split at he
      · cases he; exact .of_steady (.refl sh)
      · simp only [Option.some.injEq] at he
        split at he
        · cases he; exact .of_steady (.refl sh)
        · split at he <;> (cases he; exact ⟨fun _ => rfl, fun _ => rfl, fun _ => rfl, fun _ => rfl, fun _ => rfl⟩)
    | _ => cases hi
  · exact .of_steady (steady_of_perform (Bool.eq_false_iff.2 hi) he)

end Perform

/-! ## What only one kind of instruction does -/

section Acts

variable {u : Setup ι} {sh : Shared ι} {t : ThreadId} {i : Instr ι} {e : Effect ι}

/-- Only completing adding sets its flag, and nothing resets it. -/
theorem Act.addingCompleted (hact : Act u sh t i e) :
    e.shared.buffer.value.addingCompleted = sh.buffer.value.addingCompleted ∨
      i = .completeAdding ∧ e.shared.buffer.value.addingCompleted = true := by
  cases hact with
  | complete => exact .inr ⟨rfl, rfl⟩
  | refuse _ _ hsame => exact .inl (congrArg Buffer.addingCompleted hsame.buffer)
  | other _ _ hsame => exact .inl (congrArg Buffer.addingCompleted hsame.buffer)
  | handled => exact .inl (by rw [Shared.noteEnding_buffer])
  | _ => exact .inl rfl

/-- Only a disposal disposes. -/
theorem Act.disposed (hact : Act u sh t i e) :
    e.shared.buffer.value.disposed = sh.buffer.value.disposed ∨ i = .dispose := by
  cases hact with
  | close => exact .inr rfl
  | refuse _ _ hsame => exact .inl (congrArg Buffer.disposed hsame.buffer)
  | other _ _ hsame => exact .inl (congrArg Buffer.disposed hsame.buffer)
  | handled => exact .inl (by rw [Shared.noteEnding_buffer])
  | _ => exact .inl rfl

/-- Only counting changes a counter. -/
theorem Act.counter (hact : Act u sh t i e) (c : Counter) :
    e.shared.counters.get c = sh.counters.get c ∨ ∃ n, i = .bump c n := by
  cases hact with
  | @bump c' n =>
    by_cases hc : c' = c
    · exact .inr ⟨n, hc ▸ rfl⟩
    · exact .inl (by simp [hc])
  | refuse _ _ hsame => exact .inl (by rw [hsame.counters])
  | other _ _ hsame => exact .inl (by rw [hsame.counters])
  | handled => exact .inl (by rw [Shared.noteEnding_counters])
  | _ => exact .inl rfl

/-- Only a bid has an item accepted, on its own thread. -/
theorem Act.accepts (hact : Act u sh t i e) : e.shared.acceptances = sh.acceptances ∨
    ∃ bid, i.bid? = some bid ∧ e.shared.acceptances = sh.acceptances ++ [(t, bid.item)] := by
  cases hact with
  | accept hb => exact .inr ⟨_, hb, by simp [Note.accepted?]⟩
  | refuse _ _ hsame => exact .inl hsame.acceptances
  | other _ _ hsame => exact .inl hsame.acceptances
  | take => exact .inl (by simp [Note.accepted?])
  | start => exact .inl (by simp [Note.accepted?])
  | handled => exact .inl (by simp [Note.accepted?])
  | resolve => exact .inl (by simp [Note.accepted?])
  | close => exact .inl (by simp [Note.accepted?])
  | _ => exact .inl rfl

/-- What was accepted of another thread stays as it is. -/
theorem Act.acceptances_other (hact : Act u sh t i e) {t' : ThreadId} (ht : t' ≠ t) :
    onThread t' e.shared.acceptances = onThread t' sh.acceptances := by
  rcases hact.accepts with heq | ⟨bid, -, heq⟩
  · rw [heq]
  · have hnil := onThread_other (Ne.symm ht) [bid.item]
    rw [List.map_singleton] at hnil
    rw [heq, onThread_append, hnil, List.append_nil]

end Acts

/-! ## The watch channel -/

section Perform

variable {u : Setup ι} {sh : Shared ι} {ended : ThreadId → Bool} {t : ThreadId} {held : Reply ι} {i : Instr ι}
  {e : Effect ι}

/-- Only one instruction sets the watch channel. -/
theorem watch_of_perform (he : perform u sh ended t held i = some e) :
    e.shared.watch = sh.watch ∨ ∃ b, i = .setWatch b ∧ e.shared.watch = some b := by
  by_cases hi : ∃ b, i = .setWatch b
  · obtain ⟨b, rfl⟩ := hi
    cases he
    exact .inr ⟨b, rfl, rfl⟩
  · exact .inl ((decreed_of_perform he).watch fun b hb => hi ⟨b, hb⟩)

end Perform

section Reachable

variable {u : Setup ι} {s : State ι}

/-- The watch channel shows nothing but the result, and so will whoever has still to set it; and where there is a result
that it does not show, somebody has. -/
structure Watched (sh : Shared ι) (ss : List (List (Instr ι))) : Prop where
  shown : ∀ {b}, sh.watch = some b → sh.result = some b
  owed : ∀ {t b}, .setWatch b ∈ stackAt ss t → sh.result = some b
  due : ∀ {b}, sh.result = some b → sh.watch = some b ∨ ∃ t, .setWatch b ∈ stackAt ss t

/-- Performing an instruction keeps the watch channel in line with the result. -/
theorem Watched.perform {sh : Shared ι} {ss : List (List (Instr ι))} (h : Watched sh ss) {t : ThreadId} {i : Instr ι}
    {rest : List (Instr ι)} {e : Effect ι} {ended : ThreadId → Bool} {held : Reply ι} (ht : ss[t]? = some (i :: rest))
    (hact : Act u sh t i e) (hup : Upheld sh i e) (he : perform u sh ended t held i = some e) :
    Watched e.shared (ss.set t (e.push ++ rest)) := by
  have hhead : ∀ {b}, i = .setWatch b → sh.result = some b := by
    rintro b rfl
    exact h.owed (t := t) (stackAt_of_getElem? ht ▸ List.mem_cons_self)
  constructor
  case shown =>
    intro b hb
    rcases watch_of_perform he with heq | ⟨b', hi, hset⟩
    · exact hact.result_stable (h.shown (heq ▸ hb))
    · obtain rfl : b' = b := Option.some.inj (hset.symm.trans hb)
      exact hact.result_stable (hhead hi)
  case owed =>
    intro t' b hb
    rw [stackAt_set ht] at hb
    split at hb
    · rcases List.mem_append.1 hb with hb | hb
      · obtain rfl := hup.setWatch b hb
        rcases hact.result_cases with ⟨heq, hsome⟩ | ⟨b', hi, -, hb'⟩
        · -- a result that is there already leaves nothing to do
          simp only [Queue.perform, hsome b rfl, if_true, Option.some.injEq] at he
          cases he
          cases hb
        · cases hi
          exact hb'
      · exact hact.result_stable (h.owed (t := t) (stackAt_of_getElem? ht ▸ List.mem_cons_of_mem _ hb))
    · exact hact.result_stable (h.owed hb)
  case due =>
    intro b hb
    rcases hact.result_cases with ⟨heq, -⟩ | ⟨b', rfl, hnone, hb'⟩
    · rcases h.due (heq ▸ hb) with hw | ⟨t', ht'⟩
      · rcases watch_of_perform he with hsame | ⟨b', hi, hset⟩
        · exact .inl (hsame.trans hw)
        · obtain rfl : b' = b := Option.some.inj ((hhead hi).symm.trans (heq ▸ hb))
          exact .inl hset
      · by_cases htt : t' = t
        · subst htt
          rw [stackAt_of_getElem? ht] at ht'
          rcases List.mem_cons.1 ht' with rfl | hin
          · cases he
            exact .inl rfl
          · exact .inr ⟨t', by rw [stackAt_set ht, if_pos rfl]; exact List.mem_append_right _ hin⟩
        · exact .inr ⟨t', by rw [stackAt_set ht, if_neg htt]; exact ht'⟩
    · obtain rfl : b' = b := Option.some.inj (hb'.symm.trans hb)
      refine .inr ⟨t, ?_⟩
      rw [stackAt_set ht, if_pos rfl]
      simp only [Queue.perform, hnone, Option.isSome_none, Bool.false_eq_true, if_false, Option.some.injEq] at he
      cases he
      simp

theorem Reachable.watched (h : Reachable u s) : Watched s.shared s.stacks := by
  induction h with
  | start =>
    constructor
    case shown => exact fun hb => nomatch hb
    case due => exact fun hb => nomatch hb
    case owed =>
      intro t b hb
      rw [stackAt_start] at hb
      split at hb <;> simp at hb
  | @step s s' c hr hs ih =>
    have other : ∀ {ss'}, (∀ t b, .setWatch b ∈ stackAt ss' t ↔ .setWatch b ∈ stackAt s.stacks t) →
        Watched s.shared ss' := fun hsame =>
      ⟨ih.shown, fun hb => ih.owed ((hsame _ _).1 hb), fun hb => (ih.due hb).imp_right fun ⟨t, ht⟩ =>
        ⟨t, (hsame _ _).2 ht⟩⟩
    cases c with
    | run t sleeper =>
      obtain ⟨th, i, rest, e, ths, ht, -, hst, he, hw, rfl⟩ := run_of_step hs
      have hget : s.stacks[t]? = some (i :: rest) := by rw [getElem?_stacks ht, hst]
      have hsound : i.isSound = true := hr.sound.head hget
      have hload := load_le_total (w := Instr.hold) (List.mem_of_getElem? hget)
      have hstrong := hr.strong_eq
      rw [load_cons] at hload
      rw [stacks_of_wake hw]
      exact ih.perform hget (act_of_perform hsound he) (upheld_of_perform hsound (by omega) he) he
    | rouse t =>
      obtain ⟨th, ht, -, rfl⟩ := rouse_of_step hs
      rw [stacks_of_awake ht]
      exact ih
    | answer t script =>
      obtain ⟨th, role, label, rest, ht, hst, rfl⟩ := answer_of_step hs
      have hget : s.stacks[t]? = some (.run role (.pause label) :: rest) := by rw [getElem?_stacks ht, hst]
      rw [stacks_of_answer]
      refine other fun t' b => ?_
      rw [stackAt_set hget]
      split
      · rename_i htt
        rw [htt, stackAt_of_getElem? hget]
        simp
      · rfl
    | spawn script =>
      cases hs
      rw [stacks_spawn]
      refine other fun t' b => ?_
      rw [stackAt_append]
      split
      · rename_i htt
        rw [htt]
        simp [stackAt]
      · rfl
    | _ => cases hs; exact ⟨ih.shown, ih.owed, ih.due⟩

end Reachable

end Conveyor.Queue
