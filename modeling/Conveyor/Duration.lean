import Conveyor.Decimal.Round

/-!
# Durations with two places

A duration is written in the largest of seconds, milliseconds, microseconds and nanoseconds in which it is at least
one, with two places; what lies halfway goes to the even neighbour.
-/

namespace Conveyor

structure Duration where
  seconds : Nat
  nanos : Nat

namespace Duration

/-- Whole units and two places of `num / den`. -/
def hundredths (num den : Nat) : String :=
  let h := Decimal.roundHalfEven (100 * num) den
  let places := toString (h % 100)
  toString (h / 100) ++ "." ++ (if h % 100 < 10 then "0" ++ places else places)

/-- The unit in which the duration is at least one, as nanoseconds per unit, and its name. -/
def unit (total : Nat) : Nat × String :=
  if 1000000000 ≤ total then (1000000000, "s")
  else if 1000000 ≤ total then (1000000, "ms")
  else if 1000 ≤ total then (1000, "µs")
  else (1, "ns")

def totalNanos (d : Duration) : Nat := d.seconds * 1000000000 + d.nanos

/-- The text of a duration. -/
def text (d : Duration) : String :=
  let u := unit d.totalNanos
  hundredths d.totalNanos u.1 ++ u.2

end Duration

end Conveyor
