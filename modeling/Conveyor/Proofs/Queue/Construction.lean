import Conveyor.Queue.Launch
import Mathlib.Data.List.Induction

/-!
# Ways to build a queue

A queue is built from a configuration, from a builder, or from its parts with the default name. The checks are made in
two places and in different orders, the capacity is an integer in one and perhaps absent in the other, and yet all ways
accept the same settings and lead to the same queue (`WaysAgree`). A builder remembers of the calls on it the last one
of each kind, and all callbacks in the order in which they came (`ofCalls_eq`).

Accepted settings do not make a queue yet (`Setup.launch`): no check asks whether there can be a list of so many
handles, and threads have to be started.

* `construction_agrees`: all this, for all settings and all sequences of calls.
* `oversized_pool`: settings that are accepted and lead to a panic.
-/

namespace Conveyor.Queue

variable {ι : Type}

/-! ## Calls on a builder -/

/-- A call on a builder. -/
inductive BuilderCall (ι : Type) where
  | name (name : String)
  | code (code : Code ι)
  | workers (n : Nat)
  | bounded (n : Nat)
  | unbounded
  | onException (callback : CallbackId)

namespace BuilderCall

def name? : BuilderCall ι → Option String
  | .name n => some n
  | _ => none

def code? : BuilderCall ι → Option (Code ι)
  | .code c => some c
  | _ => none

def workers? : BuilderCall ι → Option Nat
  | .workers n => some n
  | _ => none

/-- The capacity that a call asks for, which may be none. -/
def capacity? : BuilderCall ι → Option (Option Nat)
  | .bounded n => some (some n)
  | .unbounded => some none
  | _ => none

def callback? : BuilderCall ι → Option CallbackId
  | .onException c => some c
  | _ => none

/-- The last of the settings of one kind that calls make. -/
def last? {α : Type} (read : BuilderCall ι → Option α) (calls : List (BuilderCall ι)) : Option α :=
  (calls.filterMap read).getLast?

theorem last?_concat {α : Type} (read : BuilderCall ι → Option α) (calls : List (BuilderCall ι)) (c : BuilderCall ι) :
    last? read (calls ++ [c]) = (read c).or (last? read calls) := by
  rw [last?, List.filterMap_append, List.getLast?_append]
  cases h : read c <;> simp [last?, h]

end BuilderCall

namespace Builder

open BuilderCall

/-- A builder after one more call. -/
def call (b : Builder ι) : BuilderCall ι → Builder ι
  | .name n => b.withName n
  | .code c => b.withCode c
  | .workers n => b.withWorkers n
  | .bounded n => b.bounded n
  | .unbounded => b.unbounded
  | .onException c => b.onException c

/-- A new builder after calls in turn. -/
def ofCalls (calls : List (BuilderCall ι)) : Builder ι := calls.foldl call {}

/-- A builder that knows of calls the last one of each kind, and all callbacks. -/
def ofLast (calls : List (BuilderCall ι)) : Builder ι where
  name := (last? name? calls).getD "queue"
  code := last? code? calls
  workers := (last? workers? calls).getD 1
  capacity := (last? capacity? calls).getD none
  callbacks := calls.filterMap callback?

theorem ofCalls_eq (calls : List (BuilderCall ι)) : ofCalls calls = ofLast calls := by
  induction calls using List.reverseRecOn with
  | nil => rfl
  | append_singleton calls c ih =>
    have hstep : ofCalls (calls ++ [c]) = (ofLast calls).call c := by
      rw [← ih, ofCalls, List.foldl_append]
      rfl
    rw [hstep]
    simp only [ofLast, last?_concat, List.filterMap_append]
    cases c <;>
      simp [call, withName, withCode, withWorkers, bounded, unbounded, onException, name?, code?, workers?, capacity?,
        callback?]

/-- What passes the checks of a builder is what it describes. -/
theorem check_eq_ok {b : Builder ι} {u : Setup ι} :
    b.check = .ok u ↔
      ∃ code, b.code = some code ∧ b.workers ≠ 0 ∧ b.capacity ≠ some 0 ∧ Validation.queueName b.name = .ok () ∧
        u = ⟨b.name, b.workers, b.capacity, code, b.callbacks⟩ := by
  unfold check
  cases hcode : b.code with
  | none => simp
  | some code =>
    simp only [Option.some.injEq, exists_eq_left']
    by_cases hworkers : b.workers = 0
    · simp [hworkers]
    by_cases hcapacity : b.capacity = some 0
    · simp [hworkers, hcapacity]
    cases hname : Validation.queueName b.name with
    | error e => simp [hworkers, hcapacity]
    | ok _ => simp [hworkers, hcapacity, eq_comm]

/-- All that a builder is refused for is an argument. -/
theorem invalidArgument_of_check {b : Builder ι} {e : QueueError} (h : b.check = .error e) :
    ∃ text, e = .invalidArgument text := by
  unfold check at h
  split at h
  · exact ⟨_, (Except.error.inj h).symm⟩
  · split at h
    · exact ⟨_, (Except.error.inj h).symm⟩
    · split at h
      · exact ⟨_, (Except.error.inj h).symm⟩
      · split at h
        · exact ⟨_, (Except.error.inj h).symm⟩
        · cases h

end Builder

/-! ## What is accepted -/

/-- The capacity that an integer asks for: none if it is negative. -/
def bound (c : Int) : Option Nat := if c < 0 then none else some c.toNat

theorem bound_eq_zero {c : Int} : bound c = some 0 ↔ c = 0 := by
  unfold bound
  split <;> simp <;> omega

/-- The settings from which a queue can be built: the name has a character that is not white space, and no control
character. -/
structure Buildable (name : String) (workers : Nat) (c : Int) : Prop where
  visible : ∃ x ∈ name.toList, Text.isBlank x = false
  printable : ∀ x ∈ name.toList, Text.isControl x = false
  workers : workers ≠ 0
  capacity : c ≠ 0

theorem buildable_iff {name : String} {workers : Nat} {c : Int} :
    Buildable name workers c ↔ workers ≠ 0 ∧ c ≠ 0 ∧ Validation.queueName name = .ok () := by
  rw [Validation.queueName_eq_ok]
  exact ⟨fun h => ⟨h.workers, h.capacity, h.visible, h.printable⟩, fun h => ⟨h.2.2.1, h.2.2.2, h.1, h.2.1⟩⟩

theorem capacity_eq_bound {c : Int} (h : c ≠ 0) : Validation.capacity c = .ok (bound c) := by
  unfold bound
  split
  case isTrue hneg => exact Validation.capacity_eq_none hneg
  case isFalse => exact Validation.capacity_eq_some (by omega)

theorem validate_eq_ok {q : QueueConfig} :
    q.validate = .ok () ↔ Buildable q.name q.workers q.boundedCapacity := by
  rw [buildable_iff]
  unfold QueueConfig.validate QueueConfig.capacity
  cases hname : Validation.queueName q.name with
  | error e => simp [bind, Except.bind]
  | ok _ =>
    by_cases hworkers : q.workers = 0
    · simp [hworkers, bind, Except.bind, throw, throwThe, MonadExceptOf.throw]
    by_cases hzero : q.boundedCapacity = 0
    · simp [hworkers, hzero, Validation.capacity, bind, Except.bind]
    · simp [hworkers, hzero, capacity_eq_bound hzero, bind, Except.bind, pure, Except.pure]

/-! ## The ways compared -/

/-- The builder with a name, a number of workers, code, and the capacity that an integer asks for. -/
def Builder.given (name : String) (workers : Nat) (c : Int) (code : Code ι) : Builder ι :=
  .ofCalls [.name name, .workers workers, .code code, if c < 0 then .unbounded else .bounded c.toNat]

/-- The queue with a name, a number of workers, code, and the capacity that an integer asks for. -/
def Setup.given (name : String) (workers : Nat) (c : Int) (code : Code ι) : Setup ι :=
  ⟨name, workers, bound c, code, []⟩

/-- A queue that takes items and to which nothing has happened. -/
structure State.Untouched (s : State ι) : Prop where
  /-- The buffer is empty, adding is not completed, the queue not disposed, no worker busy, and the lock is sound. -/
  buffer : s.shared.buffer = ⟨{}, false⟩
  counters : s.shared.counters = {}
  result : s.shared.result = none ∧ s.shared.watch = none
  hub : s.shared.hub = {}

theorem Setup.start_untouched (u : Setup ι) : u.start.Untouched := ⟨rfl, rfl, ⟨rfl, rfl⟩, rfl⟩

section Compared

variable {name : String} {workers : Nat} {c : Int} {code : Code ι} {u : Setup ι}

theorem Builder.given_eq : Builder.given name workers c code = ⟨name, some code, workers, bound c, []⟩ := by
  unfold Builder.given bound
  split <;> rfl

theorem check_given :
    (Builder.given name workers c code).check = .ok u ↔ Buildable name workers c ∧ u = .given name workers c code := by
  rw [Builder.given_eq, Builder.check_eq_ok, buildable_iff]
  simp only [ne_eq, bound_eq_zero, Option.some.injEq, exists_eq_left', Setup.given, and_assoc]

/-- A configuration that passes its check is checked once more, as by a builder. -/
theorem ofConfig_of_validate (h : QueueConfig.validate ⟨name, workers, c⟩ = .ok ()) :
    Setup.ofConfig ⟨name, workers, c⟩ code = (Builder.given name workers c code).check := by
  have hcapacity : QueueConfig.capacity ⟨name, workers, c⟩ = .ok (bound c) :=
    capacity_eq_bound (validate_eq_ok.1 h).capacity
  simp only [Setup.ofConfig, h, hcapacity, Builder.given_eq]
  cases bound c <;> rfl

theorem ofConfig_of_error {e : ValidationError} (h : QueueConfig.validate ⟨name, workers, c⟩ = .error e) :
    Setup.ofConfig ⟨name, workers, c⟩ code = .error (.invalidArgument e.message) := by
  simp only [Setup.ofConfig, h]
  rfl

theorem ofConfig_eq_ok :
    Setup.ofConfig ⟨name, workers, c⟩ code = .ok u ↔ Buildable name workers c ∧ u = .given name workers c code := by
  cases h : QueueConfig.validate ⟨name, workers, c⟩ with
  | error e =>
    have hnot : ¬ Buildable name workers c := fun hb => by
      rw [validate_eq_ok.2 hb] at h
      cases h
    simp [ofConfig_of_error h, hnot]
  | ok _ => rw [ofConfig_of_validate h, check_given]

theorem invalidArgument_of_ofConfig {e : QueueError} (h : Setup.ofConfig ⟨name, workers, c⟩ code = .error e) :
    ∃ text, e = .invalidArgument text := by
  cases hcheck : QueueConfig.validate ⟨name, workers, c⟩ with
  | error e' =>
    rw [ofConfig_of_error hcheck] at h
    exact ⟨_, (Except.error.inj h).symm⟩
  | ok _ =>
    rw [ofConfig_of_validate hcheck] at h
    exact Builder.invalidArgument_of_check h

/-- Without a name the checks are those of a builder with the default name. -/
theorem new_eq : Setup.new code workers (bound c) = (Builder.given "queue" workers c code).check := by
  rw [Builder.given_eq]
  unfold Setup.new
  cases bound c <;> rfl

end Compared

/-! ## The launch -/

section Launch

variable {u : Setup ι} {spawning : Spawning} {q : Built ι} {fault : BuildFault}
  {checked : Except QueueError (Setup ι)}

theorem Setup.launch_eq_ok :
    u.launch spawning = .ok q ↔ u.workers ≤ maxHandles ∧ (∀ i < u.workers, spawning i = none) ∧ q = ⟨u, u.start⟩ := by
  unfold Setup.launch
  by_cases hmany : maxHandles < u.workers
  · have hnot : ¬ u.workers ≤ maxHandles := by omega
    simp [hmany, hnot]
  · have hle : u.workers ≤ maxHandles := by omega
    cases hfind : (List.range u.workers).findSome? fun i => (spawning i).map (BuildFault.unspawned i) with
    | some fault =>
      obtain ⟨i, hi, hfault⟩ := List.exists_of_findSome?_eq_some hfind
      obtain ⟨reason, hreason, -⟩ := Option.map_eq_some_iff.1 hfault
      have hnot : ¬ ∀ i < u.workers, spawning i = none := fun hall => by
        rw [hall i (List.mem_range.1 hi)] at hreason
        cases hreason
      simp [hmany, hnot]
    | none =>
      have hall : ∀ i < u.workers, spawning i = none := fun i hi =>
        Option.map_eq_none_iff.1 (List.findSome?_eq_none_iff.1 hfind i (List.mem_range.2 hi))
      simp only [hmany, if_false, Except.ok.injEq, hle, true_and]
      exact ⟨fun heq => ⟨hall, heq.symm⟩, fun ⟨_, heq⟩ => heq.symm⟩

/-- A launch fails for too many workers, or for one whose thread cannot be started. -/
theorem Setup.fault_of_launch (h : u.launch spawning = .error fault) :
    fault = .capacityOverflow ∧ maxHandles < u.workers ∨
      ∃ i reason, i < u.workers ∧ spawning i = some reason ∧ fault = .unspawned i reason := by
  unfold Setup.launch at h
  split at h
  case isTrue hmany => exact .inl ⟨(Except.error.inj h).symm, hmany⟩
  case isFalse =>
    split at h
    · rename_i fault' hfind
      cases h
      obtain ⟨i, hi, hfault⟩ := List.exists_of_findSome?_eq_some hfind
      obtain ⟨reason, hreason, rfl⟩ := Option.map_eq_some_iff.1 hfault
      exact .inr ⟨i, reason, List.mem_range.1 hi, hreason, rfl⟩
    · cases h

theorem Built.ofChecked_eq_ok :
    ofChecked spawning checked = .ok q ↔ ∃ u, checked = .ok u ∧ u.launch spawning = .ok q := by
  cases checked <;> simp [ofChecked]

theorem Built.ofChecked_eq_error :
    ofChecked spawning checked = .error fault ↔
      (∃ e, checked = .error e ∧ fault = .refused e) ∨ ∃ u, checked = .ok u ∧ u.launch spawning = .error fault := by
  cases checked <;> simp [ofChecked, eq_comm]

/-- A check that lets just one thing pass, under a condition, and the launch after it. -/
theorem Built.ofChecked_of_iff {B : Prop} (hcheck : ∀ v, checked = .ok v ↔ B ∧ v = u)
    (hspawn : ∀ i < u.workers, spawning i = none) :
    ofChecked spawning checked = .ok q ↔ (B ∧ u.workers ≤ maxHandles) ∧ q = ⟨u, u.start⟩ := by
  rw [ofChecked_eq_ok]
  constructor
  · rintro ⟨v, hv, hq⟩
    obtain ⟨hb, rfl⟩ := (hcheck v).1 hv
    obtain ⟨hle, -, rfl⟩ := Setup.launch_eq_ok.1 hq
    exact ⟨⟨hb, hle⟩, rfl⟩
  · rintro ⟨⟨hb, hle⟩, rfl⟩
    exact ⟨u, (hcheck u).2 ⟨hb, rfl⟩, Setup.launch_eq_ok.2 ⟨hle, hspawn, rfl⟩⟩

/-- What is refused is refused by the checks, unless the workers are too many. -/
theorem Built.fault_of_iff {B : Prop} (hcheck : ∀ v, checked = .ok v ↔ B ∧ v = u)
    (hinvalid : ∀ e, checked = .error e → ∃ text, e = .invalidArgument text)
    (hspawn : ∀ i < u.workers, spawning i = none) (h : ofChecked spawning checked = .error fault) :
    (∃ text, fault = .refused (.invalidArgument text)) ∨ fault = .capacityOverflow ∧ maxHandles < u.workers := by
  rcases ofChecked_eq_error.1 h with ⟨e, he, rfl⟩ | ⟨v, hv, hfault⟩
  · obtain ⟨text, rfl⟩ := hinvalid e he
    exact .inl ⟨text, rfl⟩
  · obtain ⟨-, rfl⟩ := (hcheck v).1 hv
    rcases Setup.fault_of_launch hfault with hmany | ⟨i, reason, hi, hreason, -⟩
    · exact .inr hmany
    · rw [hspawn i hi] at hreason
      cases hreason

/-- With too many workers what passes the checks fails all the same. -/
theorem Built.overflow_of_iff {B : Prop} (hcheck : ∀ v, checked = .ok v ↔ B ∧ v = u) (hb : B)
    (hmany : maxHandles < u.workers) : ofChecked spawning checked = .error .capacityOverflow := by
  rw [(hcheck u).2 ⟨hb, rfl⟩]
  simp only [ofChecked, Setup.launch, hmany, if_true]

end Launch

/-! ## The ways together -/

/-- All ways to build a queue from a name, a number of workers and an integer for the capacity come to the same. -/
structure WaysAgree (code : Code ι) (spawning : Spawning) (name : String) (workers : Nat) (c : Int) : Prop where
  check : QueueConfig.validate ⟨name, workers, c⟩ = .ok () ↔ Buildable name workers c
  config : (∃ q, Built.ofConfig ⟨name, workers, c⟩ code spawning = .ok q) ↔
    QueueConfig.validate ⟨name, workers, c⟩ = .ok () ∧ workers ≤ maxHandles
  builder : (∃ q, (Builder.given name workers c code).build spawning = .ok q) ↔
    QueueConfig.validate ⟨name, workers, c⟩ = .ok () ∧ workers ≤ maxHandles
  new : (∃ q, Built.new code workers (bound c) spawning = .ok q) ↔
    QueueConfig.validate ⟨"queue", workers, c⟩ = .ok () ∧ workers ≤ maxHandles
  /-- A refused configuration carries the text of the check. -/
  refused : ∀ e, QueueConfig.validate ⟨name, workers, c⟩ = .error e →
    Built.ofConfig ⟨name, workers, c⟩ code spawning = .error (.refused (.invalidArgument e.message))
  /-- Every error is about an argument. -/
  invalid : ∀ fault, Built.ofConfig ⟨name, workers, c⟩ code spawning = .error fault ∨
      (Builder.given name workers c code).build spawning = .error fault ∨
      Built.new code workers (bound c) spawning = .error fault →
    (∃ text, fault = .refused (.invalidArgument text)) ∨ fault = .capacityOverflow ∧ maxHandles < workers
  /-- Of more workers than a list of handles has room for, the checks know nothing. -/
  overflow : QueueConfig.validate ⟨name, workers, c⟩ = .ok () → maxHandles < workers →
    Built.ofConfig ⟨name, workers, c⟩ code spawning = .error .capacityOverflow ∧
      (Builder.given name workers c code).build spawning = .error .capacityOverflow
  same : ∀ q, Built.ofConfig ⟨name, workers, c⟩ code spawning = .ok q ∨
      (Builder.given name workers c code).build spawning = .ok q →
    q = ⟨.given name workers c code, (Setup.given name workers c code).start⟩
  same_new : ∀ q, Built.new code workers (bound c) spawning = .ok q →
    q = ⟨.given "queue" workers c code, (Setup.given "queue" workers c code).start⟩
  untouched : (Setup.given name workers c code).start.Untouched
  unbounded : (Setup.given name workers c code).capacity = none ↔ c < 0

theorem waysAgree {code : Code ι} {spawning : Spawning} {name : String} {workers : Nat} {c : Int}
    (hspawn : ∀ i < workers, spawning i = none) : WaysAgree code spawning name workers c := by
  have hconfig : ∀ u, Setup.ofConfig ⟨name, workers, c⟩ code = .ok u ↔
      Buildable name workers c ∧ u = .given name workers c code := fun u => ofConfig_eq_ok
  have hbuilder : ∀ u, (Builder.given name workers c code).check = .ok u ↔
      Buildable name workers c ∧ u = .given name workers c code := fun u => check_given
  have hnew : ∀ u, Setup.new code workers (bound c) = .ok u ↔
      Buildable "queue" workers c ∧ u = .given "queue" workers c code := fun u => new_eq ▸ check_given
  have hargument : ∀ e, Setup.new code workers (bound c) = .error e → ∃ text, e = .invalidArgument text :=
    fun e he => Builder.invalidArgument_of_check (new_eq ▸ he)
  constructor
  case check => exact validate_eq_ok
  case config =>
    simp only [Built.ofConfig, Built.ofChecked_of_iff hconfig hspawn, exists_and_left, exists_eq, and_true,
      validate_eq_ok]
    rfl
  case builder =>
    simp only [Builder.build, Built.ofChecked_of_iff hbuilder hspawn, exists_and_left, exists_eq, and_true,
      validate_eq_ok]
    rfl
  case new =>
    simp only [Built.new, Built.ofChecked_of_iff hnew hspawn, exists_and_left, exists_eq, and_true, validate_eq_ok]
    rfl
  case refused =>
    intro e he
    rw [Built.ofConfig, ofConfig_of_error he]
    rfl
  case invalid =>
    rintro fault (h | h | h)
    · exact Built.fault_of_iff hconfig (fun e => invalidArgument_of_ofConfig) hspawn h
    · exact Built.fault_of_iff hbuilder (fun e => Builder.invalidArgument_of_check) hspawn h
    · exact Built.fault_of_iff hnew hargument hspawn h
  case overflow =>
    intro hvalid hmany
    have hb := validate_eq_ok.1 hvalid
    exact ⟨Built.overflow_of_iff hconfig hb hmany, Built.overflow_of_iff hbuilder hb hmany⟩
  case same =>
    rintro q (h | h)
    · exact ((Built.ofChecked_of_iff hconfig hspawn).1 h).2
    · exact ((Built.ofChecked_of_iff hbuilder hspawn).1 h).2
  case same_new =>
    intro q h
    exact ((Built.ofChecked_of_iff hnew hspawn).1 h).2
  case untouched => exact Setup.start_untouched _
  case unbounded =>
    simp only [Setup.given, bound]
    split <;> simp <;> omega

/-- **All ways to build a queue agree.** Where the threads of the workers can be started, a configuration, a builder
and the bare parts are accepted for the same names, numbers of workers and capacities, are refused with an error about
an argument and nothing else, and lead to the same queue, which is empty and open; all panic for more workers than a
list of handles has room for, which no check asks about. What a builder makes of any sequence of calls is what it makes
of the last handler, the last name, the last number of workers and the last capacity, and of the callbacks in the order
of their registration; what it can fail for is an argument, such a number of workers, or a thread that cannot be
started. -/
theorem construction_agrees (code : Code ι) (spawning : Spawning) :
    (∀ name workers c, (∀ i < workers, spawning i = none) → WaysAgree code spawning name workers c) ∧
      ∀ calls : List (BuilderCall ι),
        (Builder.ofCalls calls).build spawning = (Builder.ofLast calls).build spawning ∧
          ∀ fault, (Builder.ofCalls calls).build spawning = .error fault →
            (∃ text, fault = .refused (.invalidArgument text)) ∨
              (fault = .capacityOverflow ∧ maxHandles < (Builder.ofLast calls).workers) ∨
              ∃ i reason, i < (Builder.ofLast calls).workers ∧ spawning i = some reason ∧
                fault = .unspawned i reason := by
  refine ⟨fun name workers c => waysAgree, fun calls => ?_⟩
  rw [Builder.ofCalls_eq]
  refine ⟨rfl, fun fault h => ?_⟩
  rcases Built.ofChecked_eq_error.1 h with ⟨e, he, rfl⟩ | ⟨u, hu, hfault⟩
  · obtain ⟨text, rfl⟩ := Builder.invalidArgument_of_check he
    exact .inl ⟨text, rfl⟩
  · obtain ⟨code, -, -, -, -, rfl⟩ := Builder.check_eq_ok.1 hu
    exact .inr (Setup.fault_of_launch hfault)

/-- Code that does nothing with numbers. -/
def sampleIdle : Code Nat where
  handler := fun _ => .done
  callback := fun _ _ _ => .done
  cloneFault := fun _ => none

theorem sample_construction_agrees :
    Built.ofConfig ⟨"line", 2, 3⟩ sampleIdle (fun _ => none) =
        .ok ⟨.given "line" 2 3 sampleIdle, (Setup.given "line" 2 3 sampleIdle).start⟩ ∧
      Built.ofConfig ⟨"line", 2, 0⟩ sampleIdle (fun _ => none) =
        .error (.refused (.invalidArgument ValidationError.noCapacity.message)) ∧
      (∃ text, (Builder.given "line" 2 0 sampleIdle).build (fun _ => none) =
        .error (.refused (.invalidArgument text))) ∧
      Built.ofConfig ⟨"line", 18446744073709551615, 3⟩ sampleIdle (fun _ => none) = .error .capacityOverflow := by
  obtain ⟨hsettings, -⟩ := construction_agrees sampleIdle fun _ => none
  have hgood := hsettings "line" 2 3 fun _ _ => rfl
  have hbad := hsettings "line" 2 0 fun _ _ => rfl
  obtain ⟨q, hq⟩ := hgood.config.2 ⟨rfl, by decide⟩
  have hargument : ∃ text, (Builder.given "line" 2 0 sampleIdle).build (fun _ => none) =
      .error (.refused (.invalidArgument text)) := by
    rcases hbad.invalid _ (.inr (.inl rfl)) with ⟨text, htext⟩ | ⟨hoverflow, -⟩
    · exact ⟨text, congrArg Except.error htext⟩
    · cases hoverflow
  exact ⟨hgood.same q (.inl hq) ▸ hq, hbad.refused _ rfl, hargument,
    ((hsettings "line" 18446744073709551615 3 fun _ _ => rfl).overflow rfl (by decide)).1⟩

/-- A number of workers that the checks accept and that no queue can be built with. -/
theorem oversized_pool :
    QueueConfig.validate ⟨"queue", 18446744073709551615, -1⟩ = .ok () ∧
      Built.ofConfig ⟨"queue", 18446744073709551615, -1⟩ sampleIdle (fun _ => none) = .error .capacityOverflow ∧
      (Builder.given "queue" 18446744073709551615 (-1) sampleIdle).build (fun _ => none) = .error .capacityOverflow ∧
      Built.new sampleIdle 18446744073709551615 none (fun _ => none) = .error .capacityOverflow := by
  exact ⟨rfl, rfl, rfl, rfl⟩

end Conveyor.Queue
