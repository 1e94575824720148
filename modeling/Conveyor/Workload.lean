import Conveyor.Exception

/-!
# Synthetic workload

Items are numbered from zero and striped over the producers; every `failEvery`-th item fails in its handler.

* `Workload.mem_stripe`: the ids of a stripe are those below `items` that leave the stripe's index modulo the number of
  producers, from the index on.
-/

namespace Conveyor

structure Workload where
  items : Nat
  producers : Nat
  workMs : Nat := 0
  failEvery : Option Nat := none

/-- What handling one item comes to. -/
inductive Handled where
  | ok
  | failed (cause : Cause)
  /-- The handler panicked: a failure was asked for after every zeroth item. -/
  | divisionByZero
deriving DecidableEq

namespace Workload

/-- The distance between two ids of a stripe. -/
def stride (w : Workload) : Nat := max w.producers 1

/-- How many ids the stripe of a producer has. -/
def stripeLength (w : Workload) (index : Nat) : Nat :=
  (w.items - index + (w.stride - 1)) / w.stride

/-- The first ids of a stripe, at most `limit` of them. -/
def stripeTake (w : Workload) (index limit : Nat) : List Nat :=
  (List.range (min limit (w.stripeLength index))).map fun k => index + k * w.stride

/-- The ids that a producer feeds into the queue. -/
def stripe (w : Workload) (index : Nat) : List Nat := w.stripeTake index (w.stripeLength index)

/-- How many milliseconds `workers` workers are busy with the workload. -/
def busyTime (w : Workload) (workers : Nat) : Nat := (w.items + (workers - 1)) / workers * w.workMs

/-- What the handler makes of an item. -/
def handle (w : Workload) (id : Nat) : Handled :=
  match w.failEvery with
  | none => .ok
  | some 0 => .divisionByZero
  | some n => if (id + 1) % n = 0 then .failed (.synthetic id) else .ok

/-- How many of the items fail; `none` if the question divides by zero. -/
def expectedFailures (w : Workload) : Option Nat :=
  match w.failEvery with
  | none => some 0
  | some 0 => none
  | some n => some (w.items / n)

theorem one_le_stride (w : Workload) : 1 ≤ w.stride := Nat.le_max_right _ _

/-- The ids of a stripe, said without its length. -/
theorem mem_stripe {w : Workload} {index id : Nat} :
    id ∈ w.stripe index ↔ index ≤ id ∧ id < w.items ∧ (id - index) % w.stride = 0 := by
  have hs := w.one_le_stride
  simp only [stripe, stripeTake, stripeLength, Nat.min_self, List.mem_map, List.mem_range]
  constructor
  · rintro ⟨k, hk, rfl⟩
    have := (Nat.lt_div_iff_mul_lt (by omega)).1 hk
    rw [Nat.add_sub_cancel] at this
    refine ⟨by omega, by omega, by simp⟩
  · rintro ⟨h1, h2, h3⟩
    refine ⟨(id - index) / w.stride, ?_, ?_⟩
    · rw [Nat.lt_div_iff_mul_lt (by omega)]
      have := Nat.div_mul_le_self (id - index) w.stride
      rw [Nat.add_sub_cancel]
      omega
    · have := Nat.div_mul_cancel (Nat.dvd_of_mod_eq_zero h3)
      omega

end Workload

end Conveyor
