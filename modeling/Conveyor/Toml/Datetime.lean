import Conveyor.Text.Numeral

/-!
# Dates and times

A date, a time of day, or both, and then perhaps an offset. They are read from the form that a configuration file has
them in, and written in one form each: `T` between date and time, `Z` for no offset from universal time, seconds
always, and a fraction without zeros at its end.
-/

namespace Conveyor.Toml

open Text

structure Date where
  year : Nat
  month : Nat
  day : Nat
deriving DecidableEq

structure Time where
  hour : Nat
  minute : Nat
  /-- May be left out in a file, and then is zero. -/
  second : Nat := 0
  nanos : Nat := 0
deriving DecidableEq

inductive Offset where
  | utc
  | minutes (m : Int)
deriving DecidableEq

inductive Datetime where
  | date (d : Date)
  | time (t : Time)
  | both (d : Date) (t : Time) (o : Option Offset)
deriving DecidableEq

/-- The number of days of a month. -/
def daysIn (year month : Nat) : Nat :=
  if month = 2 then if year % 4 = 0 ∧ (year % 100 ≠ 0 ∨ year % 400 = 0) then 29 else 28
  else if month = 4 ∨ month = 6 ∨ month = 9 ∨ month = 11 then 30
  else 31

/-- Reads exactly `n` digits. -/
def fixedDigits (n : Nat) (cs : List Char) : Option (Nat × List Char) :=
  if (cs.take n).length = n then (digitsValue 0 (cs.take n)).map (·, cs.drop n) else none

/-- Reads two digits whose value is at most `limit`. -/
def twoDigits (limit : Nat) (cs : List Char) : Option (Nat × List Char) :=
  (fixedDigits 2 cs).filter (·.1 ≤ limit)

def readDate (cs : List Char) : Option (Date × List Char) :=
  match fixedDigits 4 cs with
  | some (year, '-' :: cs) =>
    match twoDigits 12 cs with
    | some (month, '-' :: cs) =>
      match twoDigits (daysIn year month) cs with
      | some (day, cs) => if 1 ≤ month ∧ 1 ≤ day then some (⟨year, month, day⟩, cs) else none
      | none => none
    | _ => none
  | _ => none

/-- The nanoseconds that the digits of a fraction stand for; digits after the ninth are dropped. -/
def fraction (ds : List Char) : Nat :=
  (digitsValue 0 ((ds ++ List.replicate 9 '0').take 9)).getD 0

def readTime (cs : List Char) : Option (Time × List Char) :=
  match twoDigits 23 cs with
  | some (hour, ':' :: cs) =>
    match twoDigits 59 cs with
    | some (minute, ':' :: cs) =>
      match twoDigits 60 cs with
      | some (second, '.' :: cs) =>
        let ds := cs.takeWhile Char.isDigit
        if ds.isEmpty then none
        else some (⟨hour, minute, second, fraction ds⟩, cs.dropWhile Char.isDigit)
      | some (second, cs) => some (⟨hour, minute, second, 0⟩, cs)
      | none => none
    | some (minute, cs) => some (⟨hour, minute, 0, 0⟩, cs)
    | none => none
  | _ => none

def readOffset : List Char → Option (Option Offset)
  | [] => some none
  | ['Z'] | ['z'] => some (some .utc)
  | c :: cs =>
    if c = '+' ∨ c = '-' then
      match twoDigits 23 cs with
      | some (hour, ':' :: cs) =>
        match twoDigits 59 cs with
        | some (minute, []) =>
          let m : Int := hour * 60 + minute
          some (some (.minutes (if c = '-' then -m else m)))
        | _ => none
      | _ => none
    else none

/-- Whether a character may stand between date and time. -/
def isDateTimeSeparator (c : Char) : Bool := c = 'T' || c = 't' || c = ' '

/-- Reads a whole text as a date, a time or both. -/
def readDatetime (cs : List Char) : Option Datetime :=
  match readDate cs with
  | some (d, []) => some (.date d)
  | some (d, c :: cs) =>
    if isDateTimeSeparator c then
      match readTime cs with
      | some (t, cs) => (readOffset cs).map (.both d t)
      | none => none
    else none
  | none =>
    match readTime cs with
    | some (t, []) => some (.time t)
    | _ => none

def Date.text (d : Date) : String := padded 4 d.year ++ "-" ++ padded 2 d.month ++ "-" ++ padded 2 d.day

def Time.text (t : Time) : String :=
  padded 2 t.hour ++ ":" ++ padded 2 t.minute ++ ":" ++ padded 2 t.second ++
    if t.nanos = 0 then ""
    else "." ++ String.ofList (((padded 9 t.nanos).toList.reverse.dropWhile (· = '0')).reverse)

def Offset.text : Offset → String
  | .utc => "Z"
  | .minutes m =>
    (if m < 0 then "-" else "+") ++ padded 2 (m.natAbs / 60) ++ ":" ++ padded 2 (m.natAbs % 60)

def Datetime.text : Datetime → String
  | .date d => d.text
  | .time t => t.text
  | .both d t o => d.text ++ "T" ++ t.text ++ (match o with | some o => o.text | none => "")

end Conveyor.Toml
