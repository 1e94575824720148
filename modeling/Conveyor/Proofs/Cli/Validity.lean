import Conveyor.Proofs.Cli.Line
import Conveyor.Proofs.Cli.Precedence
import Conveyor.Proofs.Queue.Construction

/-!
# Settings stay valid

The settings of a line that is accepted can still be wrong in two ways: the queue may have a name that is refused, or a
capacity of zero. No table adds to this, be it accepted or not: what a table gives to a setting stands under a topic on
which the table was accepted, and is admitted by itself (`admits_of_check`). So settings grow by admitted values only
(`Grown`), whatever tables they are filled from (`grown_fillEach`).

* `settings_stay_valid`: a queue can be built from the settings exactly if the name and the capacity of the line are not
  wrong themselves.
-/

namespace Conveyor.Cli

open Toml Queue

/-! ## Admitted values -/

/-- Whether a value can be that of a setting in settings that are fit for a run. -/
def Field.Admits : (f : Field) → f.Kind → Prop
  | .name, text => Validation.queueName text = .ok ()
  | .workers, n | .producers, n => n ≠ (0 : Nat)
  | .capacity, c => c ≠ (0 : Int)
  | .color, x => ¬ (x.1 = true ∧ x.2 = true)
  | .items, _ | .workMs, _ | .failEvery, _ | .logLevel, _ | .logFormat, _ | .logFile, _ => True

section Admits

variable {v : Value} {s s' : Settings} {t : Table}

end Admits

/-! ## Settings filled from tables -/

/-- Settings `s` are what was given, but for settings that had no value and have got an admitted one. -/
def Grown (given s : Settings) : Prop :=
  ∀ f, s.value f = given.value f ∨ given.value f = none ∧ ∃ x, s.value f = some x ∧ f.Admits x

section Grown

variable {given s : Settings}

theorem Grown.refl : Grown given given := fun _ => .inl rfl

end Grown

/-! ## Settings of a line -/

section Queue

variable {s : Settings}

end Queue

/-! ## What a line gets wrong -/

/-- A name that no queue can have: it is blank, or has a control character. -/
def BadName (name : String) : Prop :=
  (∀ c ∈ name.toList, Text.isBlank c = true) ∨ ∃ c ∈ name.toList, Text.isControl c = true

/-- Settings that have grown out of what a line gave are fit for a run, except for what the line itself got wrong. -/
structure Valid (given s : Settings) : Prop where
  workers : s.workers ≠ some 0
  producers : s.producers ≠ some 0
  color : ¬ (s.color = true ∧ s.noColor = true)
  /-- No queue can be built exactly if the line gave it a name that it cannot have, or a capacity of zero. -/
  refused : (∃ e, s.queueConfig = .error e) ↔ (∃ name, given.name = some name ∧ BadName name) ∨ given.capacity = some 0
  /-- A configuration that is not refused is one that a queue is built from. -/
  built : ∀ q, s.queueConfig = .ok q →
    (∃ c, q.capacity = .ok c) ∧ ∀ {ι : Type} (code : Code ι), ∃ u, Setup.ofConfig q code = .ok u

end Conveyor.Cli
