/-!
# White space

`isBlank` is the Unicode property `White_Space`, and `trim` removes its characters from both ends of a text.
`trim_eq_nil` says when nothing is left.
-/

namespace Conveyor.Text

/-- The characters with the Unicode property `White_Space`. -/
def isBlank (c : Char) : Bool :=
  let n := c.toNat
  (9 ≤ n && n ≤ 13) || n == 0x20 || n == 0x85 || n == 0xa0 || n == 0x1680 || (0x2000 ≤ n && n ≤ 0x200a) ||
    n == 0x2028 || n == 0x2029 || n == 0x202f || n == 0x205f || n == 0x3000

/-- A text without the white space at its two ends. -/
def trim (cs : List Char) : List Char :=
  ((cs.dropWhile isBlank).reverse.dropWhile isBlank).reverse

theorem dropWhile_eq_nil {p : Char → Bool} {cs : List Char} : cs.dropWhile p = [] ↔ ∀ c ∈ cs, p c = true := by
  induction cs with
  | nil => simp
  | cons c cs ih => by_cases h : p c = true <;> simp [h, ih]

/-- Nothing is left exactly of a text that is all white space. -/
theorem trim_eq_nil {cs : List Char} : trim cs = [] ↔ ∀ c ∈ cs, isBlank c = true := by
  constructor
  · intro h
    have hr : ∀ c ∈ cs.dropWhile isBlank, isBlank c = true := by
      intro c hc
      exact dropWhile_eq_nil.1 (List.reverse_eq_nil_iff.1 h) c (List.mem_reverse.2 hc)
    intro c hc
    rw [← List.takeWhile_append_dropWhile (p := isBlank) (l := cs), List.mem_append] at hc
    rcases hc with hc | hc
    · exact List.all_eq_true.1 List.all_takeWhile c hc
    · exact hr c hc
  · intro h
    simp [trim, dropWhile_eq_nil.2 h]

end Conveyor.Text
