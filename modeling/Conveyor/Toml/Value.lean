import Conveyor.Decimal.Binary64
import Conveyor.Toml.Datetime

/-!
# Values of a configuration file

A table keeps its entries in the order of their keys, whatever the order in which they were given.

* `lookup_insertSorted`: what an insertion does to a look-up.
-/

namespace Conveyor.Toml

inductive Value where
  | string (s : String)
  | integer (n : Int)
  | float (x : Decimal.Binary64)
  | boolean (b : Bool)
  | datetime (d : Datetime)
  | array (xs : List Value)
  | table (entries : List (String × Value))

/-- A table of values. -/
abbrev Table := List (String × Value)

namespace Table

def get? (t : Table) (key : String) : Option Value := List.lookup key t

def contains (t : Table) (key : String) : Bool := (t.get? key).isSome

end Table

/-- Puts an entry into its place among entries in the order of their keys; an entry with the same key is replaced. -/
def insertSorted {α : Type} (key : String) (x : α) : List (String × α) → List (String × α)
  | [] => [(key, x)]
  | (k, y) :: rest =>
    if key < k then (key, x) :: (k, y) :: rest
    else if key = k then (key, x) :: rest
    else (k, y) :: insertSorted key x rest

/-- Entries in the order of their keys; of two with one key the later counts. -/
def sortEntries {α : Type} (entries : List (String × α)) : List (String × α) :=
  entries.foldl (fun t e => insertSorted e.1 e.2 t) []

/-- What an insertion does to a look-up. -/
theorem lookup_insertSorted {α : Type} (key k : String) (x : α) (t : List (String × α)) :
    (insertSorted key x t).lookup k = if k = key then some x else t.lookup k := by
  by_cases h : k = key
  · subst h
    induction t with
    | nil => simp [insertSorted]
    | cons e t ih =>
      obtain ⟨k', y⟩ := e
      unfold insertSorted
      split
      · simp
      · split
        · simp
        · rename_i h2
          have h2 : (k == k') = false := by simpa using h2
          simpa [List.lookup_cons, h2] using ih
  · have hb : (k == key) = false := by simpa using h
    induction t with
    | nil => simp [insertSorted, List.lookup_cons, hb, h]
    | cons e t ih =>
      obtain ⟨k', y⟩ := e
      unfold insertSorted
      split
      · simp [List.lookup_cons, hb]
      · split
        · rename_i h2
          subst h2
          simp [List.lookup_cons, hb]
        · simp only [List.lookup_cons, ih, h, ↓reduceIte]

namespace Value

def asTable? : Value → Option Table
  | .table t => some t
  | _ => none

def asInteger? : Value → Option Int
  | .integer n => some n
  | _ => none

def asBoolean? : Value → Option Bool
  | .boolean b => some b
  | _ => none

def asString? : Value → Option String
  | .string s => some s
  | _ => none

end Value

end Conveyor.Toml
