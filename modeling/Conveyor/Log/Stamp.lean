import Conveyor.Text.Numeral

/-!
# Time stamps

A point in time as log lines show it, with milliseconds: with a blank between date and time, or in the compact form
with a letter between them. A point is given as the number of milliseconds since the beginning of 1970, and shown in
universal time.

* `one_le_month`, `month_le`: the month of a day is one of twelve.
-/

namespace Conveyor.Log

open Text

structure Stamp where
  /-- For the short and the extended form. -/
  plain : String
  /-- For the JSON form, without the letter for the time zone. -/
  compact : String

/-- A day in a calendar of years that begin in March, so that the day that is not in every year comes last. -/
structure MarchDate where
  year : Nat
  /-- Counted from zero for March. -/
  month : Nat
  day : Nat

namespace MarchDate

/-- The number of days before a month of such a year. -/
def daysBefore (month : Nat) : Nat := (153 * month + 2) / 5

/-- The date of the `n`-th day after the first of March of year 0. -/
def ofDays (n : Nat) : MarchDate :=
  let era := n / 146097
  let inEra := n % 146097
  let year := (inEra - inEra / 1460 + inEra / 36524 - inEra / 146096) / 365
  let inYear := inEra - (365 * year + year / 4 - year / 100)
  let month := (5 * inYear + 2) / 153
  ⟨era * 400 + year, month, inYear - daysBefore month + 1⟩

/-- The number of the month in a year that begins in January. -/
def januaryMonth (d : MarchDate) : Nat := (d.month + 2) % 12 + 1

/-- The year, if it begins in January. -/
def januaryYear (d : MarchDate) : Nat := if d.month < 10 then d.year else d.year + 1

theorem one_le_month (d : MarchDate) : 1 ≤ d.januaryMonth := Nat.le_add_left _ _

theorem month_le (d : MarchDate) : d.januaryMonth ≤ 12 := by
  unfold januaryMonth
  omega

/-- Year, month and day with dashes between them. -/
def text (d : MarchDate) : String :=
  padded 4 d.januaryYear ++ "-" ++ padded 2 d.januaryMonth ++ "-" ++ padded 2 d.day

end MarchDate

namespace Stamp

/-- The days from the first of March of year 0 to the beginning of 1970. -/
def epoch : Nat := 719468

/-- The stamp of a number of milliseconds since the beginning of 1970. -/
def ofMillis (ms : Nat) : Stamp :=
  let date := (MarchDate.ofDays (epoch + ms / 86400000)).text
  let second := ms / 1000 % 86400
  let time := padded 2 (second / 3600) ++ ":" ++ padded 2 (second / 60 % 60) ++ ":" ++ padded 2 (second % 60) ++ "." ++
    padded 3 (ms % 1000)
  ⟨date ++ " " ++ time, date ++ "T" ++ time⟩

end Stamp

end Conveyor.Log
