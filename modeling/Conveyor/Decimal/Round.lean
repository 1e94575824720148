/-!
# Rounding

Division of natural numbers with the quotient rounded to the nearest one.

* `roundHalfEven_le`, `le_roundHalfEven`: the rounded quotient is within one half of the quotient.
-/

namespace Conveyor.Decimal

/-- `num / den` rounded to the nearest whole number, a tie to the even one. -/
def roundHalfEven (num den : Nat) : Nat :=
  let q := num / den
  let r := num % den
  if 2 * r < den then q
  else if 2 * r = den then q + q % 2
  else q + 1

theorem roundHalfEven_le (num den : Nat) : 2 * (roundHalfEven num den * den) ≤ 2 * num + den := by
  have h := Nat.div_add_mod num den
  have h2 : (num / den) % 2 ≤ 1 := by omega
  rw [Nat.mul_comm den] at h
  simp only [roundHalfEven]
  split
  · omega
  · split
    · have : (num / den + num / den % 2) * den ≤ num / den * den + den := by
        rw [Nat.add_mul]
        exact Nat.add_le_add_left (Nat.le_trans (Nat.mul_le_mul_right den h2) (by omega)) _
      omega
    · rw [Nat.add_mul]
      omega

theorem le_roundHalfEven {num den : Nat} (hd : 0 < den) : 2 * num ≤ 2 * (roundHalfEven num den * den) + den := by
  have h := Nat.div_add_mod num den
  rw [Nat.mul_comm den] at h
  simp only [roundHalfEven]
  split
  · omega
  · split
    · rw [Nat.add_mul]
      omega
    · have := Nat.mod_lt num hd
      rw [Nat.add_mul]
      omega

end Conveyor.Decimal
