/-!
# Binary floating point

The numbers of the 64-bit binary format, as a sign, a significand and a power of two,
and the rounding of a decimal to the nearest of them.  All of it is exact arithmetic on
whole numbers.
-/

namespace ScriptQuote

/-- A 64-bit binary floating-point number.  A finite one is
`significand * 2 ^ exponent`, with a significand below 2 ^ 53 and an exponent
from -1074 to 971. -/
inductive Binary64
  | finite (negative : Bool) (significand : Nat) (exponent : Int)
  | infinity (negative : Bool)
  | nan
deriving DecidableEq

namespace Binary64

/-- The power of two with an exponent. -/
def twoTo (n : Nat) : Nat := Nat.pow 2 n

/-- The power of ten with an exponent. -/
def tenTo (n : Nat) : Nat := Nat.pow 10 n

/-- The quotient rounded to the nearest whole number, a half to the even one. -/
def roundHalfEven (num den : Nat) : Nat :=
  let q := num / den
  let r := num % den
  if 2 * r < den then q
  else if den < 2 * r then q + 1
  else if q % 2 = 0 then q else q + 1

/-- The power of two just below or at `num / den`. -/
def floorLog2 (num den : Nat) : Int :=
  let k : Int := (Nat.log2 num : Int) - (Nat.log2 den : Int)
  if den * twoTo k.toNat ≤ num * twoTo (-k).toNat then k else k - 1

/-- The number nearest to the positive quotient `num / den`. -/
def ofRatio (negative : Bool) (num den : Nat) : Binary64 :=
  let e := max (floorLog2 num den - 52) (-1074)
  let m := roundHalfEven (num * twoTo (-e).toNat) (den * twoTo e.toNat)
  let (m, e) := if m = twoTo 53 then (twoTo 52, e + 1) else (m, e)
  if 971 < e then infinity negative else finite negative m e

/-- The number nearest to `digits * 10 ^ exponent`, where `count` is the number
of decimal digits of `digits`.  Sizes far outside the format are decided without
computing the power. -/
def ofDecimal (negative : Bool) (digits count : Nat) (exponent : Int) : Binary64 :=
  if digits = 0 then finite negative 0 (-1074)
  else if 400 < count + exponent then infinity negative
  else if count + exponent < -400 then finite negative 0 (-1074)
  else ofRatio negative (digits * tenTo exponent.toNat) (tenTo (-exponent).toNat)

end Binary64

end ScriptQuote
