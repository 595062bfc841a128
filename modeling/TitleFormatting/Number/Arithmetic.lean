import TitleFormatting.Fault

/-!
Integer arithmetic on 64-bit numbers. Sums, differences and products wrap; a
division that has no 64-bit result has none here. Products that are divided
again are computed in 128 bits.
-/

namespace TitleFormatting.Number

/-- The quotient of the two numbers exists and fits into 64 bits. -/
def divides (divisor dividend : Int64) : Bool :=
  divisor != 0 && !(dividend == Int64.minValue && divisor == -1)

/-- The quotient rounded toward zero. -/
def quotient? (dividend divisor : Int64) : Option Int64 :=
  if divides divisor dividend then some (dividend / divisor) else none

/-- The remainder, which has the sign of the dividend. -/
def remainder? (dividend divisor : Int64) : Option Int64 :=
  if divides divisor dividend then some (dividend % divisor) else none

/-- The value as a 64-bit number, if it is one. -/
def fit? (value : Int) : Option Int64 :=
  if Int64.minValue.toInt ≤ value && value ≤ Int64.maxValue.toInt then
    some (Int64.ofInt value)
  else none

/-- The nearest 64-bit number. -/
def saturate (value : Int) : Int64 :=
  Int64.ofInt (max Int64.minValue.toInt (min value Int64.maxValue.toInt))

/-- The integer nearest to `dividend / divisor`, the one nearer to zero when
two are equally near. -/
def roundedQuotient (dividend divisor : Int) : Except Fault Int := do
  let quotient := dividend.tdiv divisor
  let product ← signed 128 (quotient * divisor)
  let remainder ← signed 128 (dividend - product)
  let size ← signed 128 remainder.natAbs
  let doubled ← signed 128 (2 * size)
  let divisorSize ← signed 128 divisor.natAbs
  if doubled > divisorSize then
    signed 128 (quotient + dividend.sign * divisor.sign)
  else return quotient

/-- `a * b / c` to the nearest integer; minus one when `c` is zero or the
result does not fit into 64 bits. -/
def scaled (a b c : Int64) : Except Fault Int64 := do
  let product ← signed 128 (a.toInt * b.toInt)
  if c = 0 then return -1
  else
    let rounded ← roundedQuotient product c.toInt
    return (fit? rounded).getD (-1)

end TitleFormatting.Number
