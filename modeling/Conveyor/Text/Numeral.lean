/-!
# Decimal numerals

Reading a machine integer from text: an optional sign and one or more ASCII digits, nothing else. A numeral is read
from left to right, and the first thing that is wrong with it is what the error names: a character that is no digit,
or the digit with which the value leaves the range. Numbers are written with leading zeros where a width asks for them.

* `readDigits_eq_ok`: what a digit string in range is read as.
-/

namespace Conveyor.Text

/-- Why a text is no numeral of the range. -/
inductive NumeralError where
  | empty
  | invalidDigit
  | tooLarge
  | tooSmall
deriving DecidableEq

def NumeralError.message : NumeralError → String
  | .empty => "cannot parse integer from empty string"
  | .invalidDigit => "invalid digit found in string"
  | .tooLarge => "number too large to fit in target type"
  | .tooSmall => "number too small to fit in target type"

/-- The value of an ASCII digit. -/
def digit? (c : Char) : Option Nat :=
  if '0' ≤ c ∧ c ≤ '9' then some (c.toNat - 48) else none

/-- Reads digits onto the value `acc`; `excess` is the error for a value above `limit`. -/
def readDigits (limit : Nat) (excess : NumeralError) : Nat → List Char → Except NumeralError Nat
  | acc, [] => .ok acc
  | acc, c :: cs =>
    match digit? c with
    | none => .error .invalidDigit
    | some d => if acc * 10 + d ≤ limit then readDigits limit excess (acc * 10 + d) cs else .error excess

/-- A numeral without a minus sign, at most `limit`. -/
def readNat (limit : Nat) : List Char → Except NumeralError Nat
  | [] => .error .empty
  | ['+'] => .error .invalidDigit
  | '+' :: cs => readDigits limit .tooLarge 0 cs
  | cs => readDigits limit .tooLarge 0 cs

/-- A numeral from `-(limit + 1)` to `limit`. -/
def readInt (limit : Nat) : List Char → Except NumeralError Int
  | ['-'] => .error .invalidDigit
  | '-' :: cs => (readDigits (limit + 1) .tooSmall 0 cs).map fun n => -(n : Int)
  | cs => (readNat limit cs).map Int.ofNat

/-- The value that a string of digits adds to `acc`. -/
def digitsValue (acc : Nat) : List Char → Option Nat
  | [] => some acc
  | c :: cs => (digit? c).bind fun d => digitsValue (acc * 10 + d) cs

theorem le_digitsValue {acc n : Nat} {cs : List Char} (h : digitsValue acc cs = some n) : acc ≤ n := by
  induction cs generalizing acc with
  | nil => simp [digitsValue] at h; omega
  | cons c cs ih =>
    obtain ⟨d, _, hd⟩ := Option.bind_eq_some_iff.1 h
    have := ih hd
    omega

/-- Digits are read as their value if that is in range, leading zeros or not. -/
theorem readDigits_eq_ok {limit acc n : Nat} {excess : NumeralError} {cs : List Char} (ha : acc ≤ limit) :
    readDigits limit excess acc cs = .ok n ↔ digitsValue acc cs = some n ∧ n ≤ limit := by
  induction cs generalizing acc with
  | nil => simp only [readDigits, digitsValue, Except.ok.injEq, Option.some.injEq]; omega
  | cons c cs ih =>
    cases hd : digit? c with
    | none => simp [readDigits, digitsValue, hd]
    | some d =>
      by_cases hl : acc * 10 + d ≤ limit
      · simp [readDigits, digitsValue, hd, hl, ih hl]
      · simp only [readDigits, hd, hl, ↓reduceIte, reduceCtorEq, digitsValue, Option.bind_some, false_iff, not_and]
        intro h
        have := le_digitsValue h
        omega

/-- A number with at least `width` digits. -/
def padded (width n : Nat) : String :=
  let ds := Nat.toDigits 10 n
  String.ofList (List.replicate (width - ds.length) '0' ++ ds)

/-- The largest word of 64 bits. -/
def maxWord : Nat := 18446744073709551615

/-- The largest signed word of 64 bits. -/
def maxSigned : Nat := 9223372036854775807

end Conveyor.Text
