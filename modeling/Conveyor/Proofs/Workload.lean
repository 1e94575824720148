import Conveyor.Cli.Settings
import Mathlib.Data.List.Nodup
import Mathlib.Data.List.Perm.Basic
import Mathlib.Data.Nat.ModEq

/-!
# Stripes and failures of a workload

The stripes of the producers cut up the ids of a workload: together they have each id once (`stripes_perm`). Every
`failEvery`-th id fails, and the number that is expected is how many those are (`failures_eq`). The ids of a workload
are words, and so is the number after each of them, so the handler can reckon in words (`handleInWords_eq`).

* `stripes_and_failures`: what holds of the stripes and of the failures of every workload that settings describe.
-/

namespace Conveyor.Workload

variable {w : Workload}

/-! ## Stripes -/

/-- No id is twice in a stripe. -/
theorem nodup_stripe (index : Nat) : (w.stripe index).Nodup := by
  have hs := w.one_le_stride
  refine List.Nodup.map_on (fun k _ k' _ heq => ?_) List.nodup_range
  exact Nat.eq_of_mul_eq_mul_right hs (Nat.add_left_cancel heq)

/-- The stripe of an id is the one of its remainder. -/
theorem mem_stripe_iff {index id : Nat} (hi : index < w.producers) :
    id ∈ w.stripe index ↔ id < w.items ∧ id % w.producers = index := by
  have hstride : w.stride = w.producers := Nat.max_eq_left (Nat.lt_of_le_of_lt (Nat.zero_le _) hi)
  rw [mem_stripe, hstride]
  constructor
  · rintro ⟨hle, hlt, hmod⟩
    refine ⟨hlt, ?_⟩
    have hid : id = index + (id - index) := (Nat.add_sub_of_le hle).symm
    rw [hid, Nat.add_mod, hmod, Nat.add_zero, Nat.mod_mod, Nat.mod_eq_of_lt hi]
  · rintro ⟨hlt, rfl⟩
    refine ⟨Nat.mod_le _ _, hlt, ?_⟩
    exact Nat.sub_mod_eq_zero_of_mod_eq (Nat.mod_mod _ _).symm

/-- The ids of a stripe go up. -/
theorem increasing_stripe (index : Nat) : (w.stripe index).Pairwise (· < ·) := by
  have hs := w.one_le_stride
  refine List.pairwise_map.2 (List.pairwise_lt_range.imp fun {k k'} hlt => ?_)
  exact Nat.add_lt_add_left (Nat.mul_lt_mul_of_pos_right hlt hs) index

/-- Together the stripes have each id once. -/
theorem stripes_perm (hp : 1 ≤ w.producers) :
    ((List.range w.producers).flatMap w.stripe).Perm (List.range w.items) := by
  refine (List.perm_ext_iff_of_nodup ?_ List.nodup_range).2 fun id => ?_
  · refine List.nodup_flatMap.2 ⟨fun index _ => nodup_stripe index, ?_⟩
    refine List.nodup_range.pairwise_of_forall_ne fun index hi index' hi' hne id hid hid' => hne ?_
    rw [mem_stripe_iff (List.mem_range.1 hi)] at hid
    rw [mem_stripe_iff (List.mem_range.1 hi')] at hid'
    exact hid.2.symm.trans hid'.2
  · rw [List.mem_flatMap, List.mem_range]
    constructor
    · rintro ⟨index, hi, hid⟩
      exact ((mem_stripe_iff (List.mem_range.1 hi)).1 hid).1
    · intro hlt
      have hi : id % w.producers < w.producers := Nat.mod_lt _ hp
      exact ⟨_, List.mem_range.2 hi, (mem_stripe_iff hi).2 ⟨hlt, rfl⟩⟩

/-! ## Failures -/

/-- Whether the handler succeeds on an item. -/
def succeeds (w : Workload) (id : Nat) : Bool := w.handle id = .ok

/-- How many of the first ids fail. -/
theorem countP_failures (n m : Nat) : (List.range m).countP (fun id => (id + 1) % n = 0) = m / n := by
  induction m with
  | zero => simp
  | succ m ih =>
    rw [List.range_succ, List.countP_append, ih, List.countP_singleton, Nat.succ_div]
    simp only [decide_eq_true_eq, Nat.dvd_iff_mod_eq_zero]

/-- The failures that are expected are those that there are. -/
theorem failures_eq (hf : w.failEvery ≠ some 0) :
    w.expectedFailures = some ((List.range w.items).countP fun id => !w.succeeds id) := by
  unfold expectedFailures succeeds handle
  cases hn : w.failEvery with
  | none => simp
  | some n =>
    cases n with
    | zero => exact absurd hn hf
    | succ n =>
      show some (w.items / (n + 1)) = _
      rw [← countP_failures]
      refine congrArg some (List.countP_congr fun id _ => ?_)
      by_cases hid : (id + 1) % (n + 1) = 0 <;> simp [hid]

/-! ## Reckoning in words -/

/-- The sum of two words; nothing if it does not fit a word. -/
def addWords (a b : Nat) : Option Nat := if a + b ≤ Text.maxWord then some (a + b) else none

/-- The remainder of a division; nothing if it is one by zero. -/
def remainder (a n : Nat) : Option Nat := if n = 0 then none else some (a % n)

/-- What the handler makes of an item when it reckons in words; nothing if a step of the reckoning fails. -/
def handleInWords (w : Workload) (id : Nat) : Option Handled :=
  match w.failEvery with
  | none => some .ok
  | some n =>
    (addWords id 1).bind fun next =>
      (remainder next n).map fun rest => if rest = 0 then .failed (.synthetic id) else .ok

/-- The handler either succeeds or fails with the failure of the item. -/
theorem handle_cases (hf : w.failEvery ≠ some 0) (id : Nat) :
    w.handle id = .ok ∨ w.handle id = .failed (.synthetic id) := by
  unfold handle
  cases hn : w.failEvery with
  | none => exact .inl rfl
  | some n =>
    cases n with
    | zero => exact absurd hn hf
    | succ n =>
      show (if (id + 1) % (n + 1) = 0 then _ else _) = _ ∨ (if (id + 1) % (n + 1) = 0 then _ else _) = _
      split
      · exact .inr rfl
      · exact .inl rfl

/-- On an id of the workload no step of the reckoning fails, since the number of items is a word. -/
theorem handleInWords_eq (hf : w.failEvery ≠ some 0) (hw : w.items ≤ Text.maxWord) {id : Nat} (hid : id < w.items) :
    w.handleInWords id = some (w.handle id) := by
  have hadd : addWords id 1 = some (id + 1) := if_pos (Nat.le_trans hid hw)
  unfold handleInWords handle
  cases hn : w.failEvery with
  | none => rfl
  | some n =>
    cases n with
    | zero => exact absurd hn hf
    | succ n => simp [hadd, remainder]

/-! ## Stripes and failures together -/

/-- What holds of the stripes and of the failures of a workload. -/
structure Exact (w : Workload) : Prop where
  increasing : ∀ index < w.producers, (w.stripe index).Pairwise (· < ·)
  /-- All stripes together have each id once, whether or not there are more producers than ids. -/
  once : ((List.range w.producers).flatMap w.stripe).Perm (List.range w.items)
  /-- Nothing is divided by zero. -/
  handled : ∀ id, w.handle id = .ok ∨ w.handle id = .failed (.synthetic id)
  /-- And nothing overflows. -/
  reckoned : w.items ≤ Text.maxWord → ∀ id < w.items, w.handleInWords id = some (w.handle id)
  /-- What is expected to fail is what fails. -/
  failures : w.expectedFailures = some ((List.range w.items).countP fun id => w.handle id = .failed (.synthetic id))

/-- **Stripes and failures are exact.** Whatever the settings, the workload that they describe has a producer, is never
asked for the failure of every zeroth item, and has a word of items if that is what is set; and in every such workload
the stripes go up and have each id once, the handler divides by nothing that is zero and stays within words, and the
failures that are expected are those that there are. -/
theorem stripes_and_failures :
    (∀ s : Cli.Settings, 1 ≤ s.workload.producers ∧ s.workload.failEvery ≠ some 0 ∧
      ((∀ n, s.items = some n → n ≤ Text.maxWord) → s.workload.items ≤ Text.maxWord)) ∧
    ∀ w : Workload, 1 ≤ w.producers → w.failEvery ≠ some 0 → Exact w := by
  refine ⟨fun s => ⟨s.workload_producers, s.workload_failEvery, fun hs => ?_⟩, fun w hp hf => ?_⟩
  · show s.items.getD 100 ≤ Text.maxWord
    cases hn : s.items with
    | none => decide
    | some n => exact hs n hn
  · constructor
    case increasing => exact fun index _ => increasing_stripe index
    case once => exact stripes_perm hp
    case handled => exact handle_cases hf
    case reckoned => exact fun hw id hid => handleInWords_eq hf hw hid
    case failures =>
      rw [failures_eq hf]
      refine congrArg some (List.countP_congr fun id _ => ?_)
      rcases handle_cases hf id with h | h <;> simp [succeeds, h]

/-- As many items as a word can tell, and no producer. -/
def sampleLargest : Cli.Settings := { items := some Text.maxWord, producers := some 0, failEvery := some 2 }

/-- Seven items and nine producers. -/
def sampleCrowd : Workload := { items := 7, producers := 9, failEvery := some 3 }

theorem sample_stripes_and_failures :
    1 ≤ sampleCrowd.producers ∧ sampleCrowd.failEvery ≠ some 0 ∧ Exact sampleCrowd ∧
      (List.range 9).map sampleCrowd.stripe = [[0], [1], [2], [3], [4], [5], [6], [], []] ∧
      (List.range 7).countP (fun id => sampleCrowd.handle id = .failed (.synthetic id)) = 2 ∧
      Exact sampleLargest.workload ∧ sampleLargest.workload.items ≤ Text.maxWord ∧
      sampleLargest.workload.handleInWords (Text.maxWord - 1) =
        some (sampleLargest.workload.handle (Text.maxWord - 1)) := by
  obtain ⟨hsettings, hexact⟩ := stripes_and_failures
  obtain ⟨hp, hf, hitems⟩ := hsettings sampleLargest
  have hcrowd : Exact sampleCrowd := hexact sampleCrowd (by decide) (by decide)
  have hlargest : Exact sampleLargest.workload := hexact _ hp hf
  have hword : sampleLargest.workload.items ≤ Text.maxWord := hitems fun n hn => by
    cases hn
    exact Nat.le_refl _
  have htwo : some 2 = some ((List.range 7).countP fun id => sampleCrowd.handle id = .failed (.synthetic id)) :=
    hcrowd.failures
  exact ⟨by decide, by decide, hcrowd, rfl, (Option.some.inj htwo).symm, hlargest, hword,
    hlargest.reckoned hword _ (by decide)⟩

end Conveyor.Workload
