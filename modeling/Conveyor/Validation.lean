import Conveyor.Text.Blank
import Conveyor.Text.Escape
import Conveyor.Text.Numeral

/-!
# Validation

The checks that a setting passes before a queue is built from it.

* `positiveInt`: a count given as text.
* `capacity`: a bound on the buffer; a negative number asks for none.
* `queueName`: a name that can stand in a terminal, a log and a thread list.
-/

namespace Conveyor

/-- Why a setting is refused. -/
inductive ValidationError where
  | blankName
  | controlInName (name : String)
  | noWorkers
  | noCapacity
  | noProducers
  | notNonNegative (key : String)
  /-- The queue section of a configuration does not have the right shape. -/
  | badSection (reason : String)
  /-- A queue configuration as a document of its own does not have the right shape. -/
  | badDocument (reason : String)
  | other (message : String)
deriving DecidableEq

/-- The text that the user reads. -/
def ValidationError.message : ValidationError → String
  | .blankName => "queue name cannot be empty"
  | .controlInName name => "queue name '" ++ Text.escape name ++ "' contains control characters"
  | .noWorkers => "max_concurrency_level must be greater than 0"
  | .noCapacity => "bounded_capacity must be greater than 0 (use a negative value for unbounded)"
  | .noProducers => "producers must be greater than 0"
  | .notNonNegative key => "'" ++ key ++ "' must be a non-negative integer"
  | .badSection reason => "Invalid [queue] section: " ++ reason
  | .badDocument reason => "Invalid queue configuration: " ++ reason
  | .other message => message

namespace Validation

/-- Why a text is refused as a count. -/
inductive CountError where
  | zero
  | notACount (given : String)
deriving DecidableEq

def CountError.message : CountError → String
  | .zero => "Value must be greater than 0"
  | .notACount given => "'" ++ given ++ "' is not a valid positive integer"

/-- A positive count that fits a word, with white space around it ignored. -/
def positiveInt (given : String) : Except CountError Nat :=
  match Text.readNat Text.maxWord (Text.trim given.toList) with
  | .ok 0 => .error .zero
  | .ok n => .ok n
  | .error _ => .error (.notACount given)

/-- The bound that a capacity setting asks for: none if it is negative. -/
def capacity (c : Int) : Except ValidationError (Option Nat) :=
  if c = 0 then .error .noCapacity
  else if c < 0 then .ok none
  else .ok (some c.toNat)

/-- A queue name has a character that is not white space, and no control character. -/
def queueName (name : String) : Except ValidationError Unit :=
  if Text.trim name.toList = [] then .error .blankName
  else if name.toList.any Text.isControl then .error (.controlInName name)
  else .ok ()

theorem capacity_eq_none {c : Int} (h : c < 0) : capacity c = .ok none := by
  simp [capacity, h, show c ≠ 0 by omega]

theorem capacity_eq_some {c : Int} (h : 0 < c) : capacity c = .ok (some c.toNat) := by
  simp [capacity, show c ≠ 0 by omega, show ¬ c < 0 by omega]

/-- A name is accepted exactly if it has a character that is not white space and no control character. -/
theorem queueName_eq_ok {name : String} :
    queueName name = .ok () ↔
      (∃ c ∈ name.toList, Text.isBlank c = false) ∧ ∀ c ∈ name.toList, Text.isControl c = false := by
  unfold queueName
  by_cases hb : Text.trim name.toList = []
  · have := Text.trim_eq_nil.1 hb
    simp only [hb, ↓reduceIte, reduceCtorEq, false_iff, not_and]
    rintro ⟨c, hc, hn⟩
    simp [this c hc] at hn
  · have : ∃ c ∈ name.toList, Text.isBlank c = false := by
      simpa [Text.trim_eq_nil] using hb
    simp [hb, this]

end Validation

end Conveyor
