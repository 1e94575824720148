import Conveyor.Decimal.Round

/-!
# Floating-point numbers of 64 bits

A finite number is `mantissa * 2 ^ exponent`, with a mantissa below `2 ^ 53` and an exponent not below `-1074`. A
decimal is read as the nearest number, a tie going to the even mantissa; a number is written with the fewest digits
that are read back as it, without an exponent.
-/

namespace Conveyor.Decimal

inductive Binary64 where
  | nan
  | infinity (negative : Bool)
  | finite (negative : Bool) (mantissa : Nat) (exponent : Int)
deriving DecidableEq

namespace Binary64

/-- The least exponent of a finite number. -/
def leastExponent : Int := -1074

/-- The greatest exponent of a finite number. -/
def greatestExponent : Int := 971

/-- The number nearest to `num / den`, both positive. -/
def ofQuotient (negative : Bool) (num den : Nat) : Binary64 :=
  let size : Int := (num.log2 : Int) - den.log2
  -- the quotient lies between `2 ^ (size - 1)` and `2 ^ (size + 1)`
  let below := if 0 ≤ size then num < den <<< size.toNat else num <<< (-size).toNat < den
  let e := max ((if below then size - 1 else size) - 52) leastExponent
  let m := if 0 ≤ e then roundHalfEven num (den <<< e.toNat) else roundHalfEven (num <<< (-e).toNat) den
  let (m, e) := if m = 1 <<< 53 then (1 <<< 52, e + 1) else (m, e)
  if greatestExponent < e then infinity negative else finite negative m e

/-- The number nearest to `digits * 10 ^ exponent`. -/
def ofDecimal (negative : Bool) (digits : Nat) (exponent : Int) : Binary64 :=
  let size : Int := (Nat.toDigits 10 digits).length + exponent
  if digits = 0 ∨ size < -330 then finite negative 0 leastExponent
  else if 310 < size then infinity negative
  else if 0 ≤ exponent then ofQuotient negative (digits * Nat.pow 10 exponent.toNat) 1
  else ofQuotient negative digits (Nat.pow 10 (-exponent).toNat)

/-- Compares `x * 10 ^ u` with `y / den`. -/
def compareScaled (x : Nat) (u : Int) (y den : Nat) : Ordering :=
  if 0 ≤ u then compare (x * Nat.pow 10 u.toNat * den) y else compare (x * den) (y * Nat.pow 10 (-u).toNat)

/-- The fewest digits, as a number with a power of ten, that are read back as `m * 2 ^ e`, with `m` positive. -/
def shortest (m : Nat) (e : Int) : Nat × Int :=
  let den := if e < 2 then 1 <<< (2 - e).toNat else 1
  let scale := if e < 2 then 1 else 1 <<< (e - 2).toNat
  let value := 4 * m * scale
  let high := (4 * m + 2) * scale
  let low := (if m = 1 <<< 52 ∧ leastExponent < e then 4 * m - 1 else 4 * m - 2) * scale
  let inclusive := m % 2 = 0
  -- the value lies between `10 ^ (p - 1)` and `10 ^ p`
  let p : Int := (Nat.toDigits 10 (value * Nat.pow 10 400 / den)).length - 400
  let candidate (n : Nat) : Option (Nat × Int) :=
    let u := p - n
    let c := if 0 ≤ u then value / (den * Nat.pow 10 u.toNat) else value * Nat.pow 10 (-u).toNat / den
    let lowFits := match compareScaled c u low den with
      | .gt => true
      | .eq => decide inclusive
      | .lt => false
    let highFits := match compareScaled (c + 1) u high den with
      | .lt => true
      | .eq => decide inclusive
      | .gt => false
    let lowNearer := compareScaled (2 * c + 1) u (2 * value) den = .gt
    if lowFits && (lowNearer || !highFits) then some (c, u)
    else if highFits then some (if c + 1 = 10 then (1, u + 1) else (c + 1, u))
    else none
  ((List.range 17).findSome? fun n => candidate (n + 1)).getD (m, 0)

/-- The digits of `digits * 10 ^ exponent` without an exponent, and with at least one digit on both sides of a point. -/
def positional (digits : Nat) (exponent : Int) : String :=
  let ds := Nat.toDigits 10 digits
  if 0 ≤ exponent then String.ofList (ds ++ List.replicate exponent.toNat '0') ++ ".0"
  else
    let places := (-exponent).toNat
    let ds := List.replicate (places + 1 - ds.length) '0' ++ ds
    String.ofList (ds.take (ds.length - places) ++ '.' :: ds.drop (ds.length - places))

/-- The text of a number. -/
def text : Binary64 → String
  | nan => "NaN"
  | infinity negative => if negative then "-inf" else "inf"
  | finite negative m e =>
    (if negative then "-" else "") ++
      if m = 0 then "0.0"
      else
        let (digits, exponent) := shortest m e
        positional digits exponent

end Binary64

end Conveyor.Decimal
