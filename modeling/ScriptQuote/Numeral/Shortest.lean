import ScriptQuote.Numeral.Binary64
import ScriptQuote.Numeral.Decimal

/-!
# Shortest decimals

The decimal with the fewest digits that reads back as a given floating-point number,
and of those the nearest one.  For each count of digits the two neighbours of the
number on that decimal grid are tried; the first grid with a hit decides.

`Display` holds the choices of the written form: where positional notation ends and
how the exponent is written.
-/

namespace ScriptQuote.Shortest

open Binary64 (twoTo tenTo)

/-- A positive decimal `digits * 10 ^ exponent`. -/
structure Approximation where
  digits : Nat
  exponent : Int

/-- The number of decimal digits. -/
def digitCount (n : Nat) : Nat := (Nat.toDigits 10 n).length

/-- The least power of ten above the positive quotient `num / den`. -/
def magnitude (num den : Nat) : Int :=
  if den ≤ num then digitCount (num / den)
  else 1 - (digitCount ((den + num - 1) / num - 1) : Int)

/-- The decimals that read back as `m * 2 ^ e` lie between `low` and `high`, in
quarters of `2 ^ e`; the ends belong to them if `m` is even.  Below a power of
two the gap is half as wide. -/
def low (m : Nat) (e : Int) : Nat :=
  4 * m - (if m = twoTo 52 ∧ -1074 < e then 1 else 2)

/-- The upper end of the same interval. -/
def high (m : Nat) : Nat := 4 * m + 2

/-- The neighbour of `m * 2 ^ e` with digits down to `10 ^ g`, if one reads back. -/
def onGrid (m : Nat) (e g : Int) : Option Approximation :=
  let f := e - 2
  let a := tenTo g.toNat * twoTo (-f).toNat
  let b := twoTo f.toNat * tenTo (-g).toNat
  let inside (c : Nat) : Bool :=
    if m % 2 = 0 then low m e * b ≤ c * a && c * a ≤ high m * b
    else low m e * b < c * a && c * a < high m * b
  let v := 4 * m * b
  let below := v / a
  let above := below + 1
  if inside below then
    if inside above then
      let down := v - below * a
      let up := above * a - v
      if down < up then some ⟨below, g⟩
      else if up < down then some ⟨above, g⟩
      else if below % 2 = 0 then some ⟨below, g⟩ else some ⟨above, g⟩
    else some ⟨below, g⟩
  else if inside above then some ⟨above, g⟩
  else none

/-- The shortest decimal that reads back as the positive number `m * 2 ^ e`.
Seventeen digits always suffice. -/
def ofFinite (m : Nat) (e : Int) : Approximation :=
  let k := magnitude (m * twoTo e.toNat) (twoTo (-e).toNat)
  match (List.range 17).findSome? fun n => onGrid m e (k - (n + 1 : Nat)) with
  | some d => d
  | none => ⟨0, 0⟩

/-- The choices of the written form. -/
structure Display where
  /-- The number is written with an exponent if its decimal point is at or left
  of this place. -/
  leastPoint : Int
  /-- The number is written with an exponent if its decimal point is right of
  this place. -/
  greatestPoint : Int
  /-- The least number of digits of the exponent. -/
  exponentWidth : Nat

/-- Positional from four places after the point to sixteen before it, two digits
of exponent. -/
def plain : Display := ⟨-4, 16, 2⟩

/-- Splits off the zeros at the end, which go into the exponent. -/
def trimmed (d : Approximation) : Text × Int :=
  let ds := Decimal.digits d.digits
  let kept := (ds.reverse.dropWhile (· == CodePoint.ofChar '0')).reverse
  (kept, d.exponent + (ds.length - kept.length : Nat))

/-- A run of zeros. -/
def zeros (n : Nat) : Text := List.replicate n '0'

/-- The written form of a positive decimal. -/
def renderPositive (style : Display) (d : Approximation) : Text :=
  let (ds, e) := trimmed d
  let point : Int := ds.length + e
  if style.leastPoint < point ∧ point ≤ style.greatestPoint then
    if point ≤ 0 then Text.ofString "0." ++ zeros (-point).toNat ++ ds
    else if ds.length ≤ point.toNat then
      ds ++ zeros (point.toNat - ds.length) ++ Text.ofString ".0"
    else ds.take point.toNat ++ Text.ofString "." ++ ds.drop point.toNat
  else
    let x := point - 1
    let xs := Decimal.digits x.natAbs
    ds.take 1 ++ (if ds.length = 1 then [] else CodePoint.ofChar '.' :: ds.drop 1) ++
      Text.ofString (if x < 0 then "e-" else "e+") ++
        zeros (style.exponentWidth - xs.length) ++ xs

/-- The written form of a floating-point number. -/
def render (style : Display) : Binary64 → Text
  | .nan => "nan"
  | .infinity negative => if negative then "-inf" else "inf"
  | .finite negative m e =>
    (if negative then Text.ofString "-" else []) ++
      if m = 0 then Text.ofString "0.0" else renderPositive style (ofFinite m e)

end ScriptQuote.Shortest
