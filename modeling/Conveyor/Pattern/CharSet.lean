/-!
# Sets of characters

A set of characters is a list of closed intervals of code points, in increasing order and with gaps in between.

* `has_ofIntervals`: a set made of intervals holds what one of them holds.
* `has_union`: what a union holds.
-/

namespace Conveyor.Pattern

structure CharSet where
  intervals : List (Nat × Nat)
deriving DecidableEq

namespace CharSet

/-- Whether an interval holds a code point. -/
def within (n : Nat) (r : Nat × Nat) : Bool := r.1 ≤ n && n ≤ r.2

/-- Whether a set holds a code point. -/
def has (s : CharSet) (n : Nat) : Bool := s.intervals.any (within n)

def contains (s : CharSet) (c : Char) : Bool := s.has c.toNat

def empty : CharSet := ⟨[]⟩

def single (c : Char) : CharSet := ⟨[(c.toNat, c.toNat)]⟩

/-- The largest code point. -/
def limit : Nat := 0x10ffff

/-- All characters. -/
def all : CharSet := ⟨[(0, limit)]⟩

/-- Adds an interval that starts no later than the others, and joins those that it touches. -/
def join (r : Nat × Nat) : List (Nat × Nat) → List (Nat × Nat)
  | [] => [r]
  | q :: rest => if q.1 ≤ r.2 + 1 then join (r.1, max r.2 q.2) rest else r :: q :: rest

/-- The set of what some of the intervals hold. -/
def ofIntervals (rs : List (Nat × Nat)) : CharSet :=
  ⟨((rs.filter fun r => r.1 ≤ r.2).mergeSort fun a b => a.1 ≤ b.1).foldr join []⟩

def union (s t : CharSet) : CharSet := ofIntervals (s.intervals ++ t.intervals)

/-- The code points from `n` on that no interval of an increasing list holds. -/
def gaps (n : Nat) : List (Nat × Nat) → List (Nat × Nat)
  | [] => if n ≤ limit then [(n, limit)] else []
  | (lo, hi) :: rest => (if n < lo then [(n, lo - 1)] else []) ++ gaps (hi + 1) rest

def complement (s : CharSet) : CharSet := ⟨gaps 0 s.intervals⟩

def inter (s t : CharSet) : CharSet := (s.complement.union t.complement).complement

def diff (s t : CharSet) : CharSet := s.inter t.complement

/-- What exactly one of two sets holds. -/
def symmDiff (s t : CharSet) : CharSet := (s.union t).diff (s.inter t)

def unions (ss : List CharSet) : CharSet := ofIntervals (ss.flatMap intervals)

/-- Whether all code points are below 128. -/
def isAscii (s : CharSet) : Bool := s.intervals.all fun r => r.2 < 128

/-! ## Text form -/

/-- The value of hexadecimal digits in lower case. -/
def hexValue (cs : List Char) : Nat :=
  cs.foldl (fun n c => 16 * n + (if c.isDigit then c.toNat - 48 else c.toNat - 87)) 0

/-- An interval, or a single code point, in hexadecimal. -/
def intervalOfText (cs : List Char) : Nat × Nat :=
  let lo := cs.takeWhile (· ≠ '-')
  match cs.dropWhile (· ≠ '-') with
  | [] => (hexValue lo, hexValue lo)
  | _ :: hi => (hexValue lo, hexValue hi)

/-- The set that a text describes: intervals in increasing order, with blanks in between. -/
def ofText (text : String) : CharSet :=
  ⟨((text.splitOn " ").filter (· ≠ "")).map fun word => intervalOfText word.toList⟩

/-! ## Laws -/

theorem any_join {n : Nat} {r : Nat × Nat} {rs : List (Nat × Nat)} (hr : r.1 ≤ r.2)
    (hrs : ∀ q ∈ rs, r.1 ≤ q.1 ∧ q.1 ≤ q.2) : (join r rs).any (within n) = (within n r || rs.any (within n)) := by
  induction rs generalizing r with
  | nil => simp [join]
  | cons q rest ih =>
    have hq := hrs q (by simp)
    unfold join
    split
    · rename_i hle
      rw [ih (r := (r.1, max r.2 q.2)) (by simp; omega) fun p hp => hrs p (by simp [hp])]
      rw [List.any_cons, ← Bool.or_assoc]
      congr 1
      rw [Bool.eq_iff_iff]
      simp only [within, Bool.and_eq_true, Bool.or_eq_true, decide_eq_true_eq]
      omega
    · simp

/-- Joining keeps the intervals in order. -/
theorem le_of_mem_join {r p : Nat × Nat} {rs : List (Nat × Nat)} (hr : r.1 ≤ r.2)
    (hrs : ∀ q ∈ rs, r.1 ≤ q.1 ∧ q.1 ≤ q.2) (hp : p ∈ join r rs) : r.1 ≤ p.1 ∧ p.1 ≤ p.2 := by
  induction rs generalizing r with
  | nil => simp [join] at hp; subst hp; omega
  | cons q rest ih =>
    unfold join at hp
    split at hp
    · exact ih (r := (r.1, max r.2 q.2)) (by simp; omega) (fun p hp => hrs p (by simp [hp])) hp
    · rcases List.mem_cons.1 hp with rfl | hp
      · omega
      · exact hrs p hp

theorem any_foldr_join {n : Nat} {rs : List (Nat × Nat)} (hv : ∀ r ∈ rs, r.1 ≤ r.2)
    (hs : rs.Pairwise fun a b => a.1 ≤ b.1) :
    (rs.foldr join []).any (within n) = rs.any (within n) ∧
      ∀ lo, (∀ r ∈ rs, lo ≤ r.1) → ∀ p ∈ rs.foldr join [], lo ≤ p.1 ∧ p.1 ≤ p.2 := by
  induction rs with
  | nil => simp
  | cons r rs ih =>
    obtain ⟨h1, h2⟩ := List.pairwise_cons.1 hs
    obtain ⟨ih1, ih2⟩ := ih (fun q hq => hv q (by simp [hq])) h2
    have hr := hv r (by simp)
    have hlo := ih2 r.1 h1
    refine ⟨?_, fun lo hl p hp => ?_⟩
    · rw [List.foldr_cons, any_join hr hlo, ih1, List.any_cons]
    · have := le_of_mem_join hr hlo hp
      have := hl r (by simp)
      omega

/-- A set made of intervals holds what one of them holds. -/
theorem has_ofIntervals (rs : List (Nat × Nat)) (n : Nat) : (ofIntervals rs).has n = rs.any (within n) := by
  unfold has ofIntervals
  have hs : ((rs.filter fun r => decide (r.1 ≤ r.2)).mergeSort fun a b => decide (a.1 ≤ b.1)).Pairwise
      fun a b => decide (a.1 ≤ b.1) = true :=
    List.pairwise_mergeSort (by simp; omega) (by simp; omega) _
  have hm : ∀ r, r ∈ (rs.filter fun r => decide (r.1 ≤ r.2)).mergeSort (fun a b => decide (a.1 ≤ b.1)) ↔
      r ∈ rs ∧ r.1 ≤ r.2 := by simp [List.mem_mergeSort]
  rw [(any_foldr_join (fun r hr => ((hm r).1 hr).2) (hs.imp (by simp))).1]
  rw [Bool.eq_iff_iff]
  simp only [List.any_eq_true, hm, within, Bool.and_eq_true, decide_eq_true_eq]
  constructor
  · rintro ⟨r, ⟨h1, -⟩, h2⟩
    exact ⟨r, h1, h2⟩
  · rintro ⟨r, h1, h2⟩
    exact ⟨r, ⟨h1, by omega⟩, h2⟩

/-- What a union holds. -/
theorem has_union (s t : CharSet) (n : Nat) : (s.union t).has n = (s.has n || t.has n) := by
  rw [union, has_ofIntervals, List.any_append, has, has]

end CharSet

end Conveyor.Pattern
