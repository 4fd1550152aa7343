import Groundwork.Decimal.Shortest

/-!
# The float nearest to a decimal

`Decimal.nearest` rounds an exact decimal once, a half going to the even neighbour.
`Decimal.scaled` rounds the digits first and then the product or quotient with a power of ten, which
is how numbers in JSON documents are read.
-/

namespace Groundwork.Decimal

/-- The quotient rounded to the nearest natural number, a half to the even one. -/
def roundDiv (num den : Nat) : Nat :=
  let q := num / den
  let twice := 2 * (num % den)
  if twice < den then q
  else if den < twice then q + 1
  else if q % 2 = 0 then q else q + 1

/-- The float with size nearest to the positive fraction `num / den`. -/
def nearestFraction (num den : Nat) : Float :=
  let guess : Int := max ((Nat.log2 num : Int) - Nat.log2 den - 53) (-1074)
  let scale (power : Int) : Nat × Nat := (num * twoTo (-power), den * twoTo power)
  let power := if Nat.pow 2 53 ≤ (scale guess).1 / (scale guess).2 then guess + 1 else guess
  let mantissa := roundDiv (scale power).1 (scale power).2
  if power + 1075 ≥ 2047 then 1 / 0
  else if mantissa < Nat.pow 2 52 then Float.ofBits mantissa.toUInt64
  else Float.ofBits
    ((power + 1075).toNat * Nat.pow 2 52 + (mantissa - Nat.pow 2 52)).toUInt64

/-- The float nearest to a decimal; infinity if the decimal is too large. -/
def nearest (d : Decimal) : Float :=
  let top := (digitCount d.digits : Int) + d.exponent
  if d.digits = 0 then 0
  else if top > 310 then 1 / 0
  else if top < -330 then 0
  else nearestFraction (d.digits * tenTo d.exponent) (tenTo (-d.exponent))

/-- The digits, which fit a word, as a float times or divided by a power of ten: one rounding for
the digits and one for the scaling.  `none` if the result is too large for a float. -/
def scaled (digits : UInt64) (exponent : Int) : Option Float :=
  let x := digits.toFloat
  if exponent ≥ 0 then
    if exponent ≤ 308 then
      let y := x * nearest ⟨1, exponent⟩
      if y.isInf then none else some y
    else if x == 0 then some x else none
  else if exponent ≥ -308 then some (x / nearest ⟨1, -exponent⟩)
  else
    let y := x / nearest ⟨1, 308⟩
    if exponent ≥ -616 then some (y / nearest ⟨1, -exponent - 308⟩)
    else some 0

end Groundwork.Decimal
