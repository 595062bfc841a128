/-!
Floating-point numbers of 64 bits without a sign. They are kept as exact
multiples of powers of two, and every operation rounds its exact result to the
nearest of them.
-/

namespace TitleFormatting

/-- The number `significand * 2 ^ exponent`. The significand has 53 bits, or
fewer when the exponent is the least one. -/
structure Binary64 where
  significand : Nat
  exponent : Int
deriving DecidableEq, Repr

namespace Binary64

def leastExponent : Int := -1074

def greatestExponent : Int := 971

/-- The least significand with 53 bits. -/
def leastFull : Nat := 0x10000000000000

def zero : Binary64 := ⟨0, leastExponent⟩

def value (x : Binary64) : Rat := x.significand * 2 ^ x.exponent

/-- The nearest natural number, the even one when two are equally near. -/
def roundEven (q : Rat) : Nat :=
  let below := q.floor.toNat
  let rest := q - below
  if rest < 1 / 2 then below
  else if rest = 1 / 2 then below + below % 2
  else below + 1

/-- The exponent of the greatest power of two up to `q`, for a positive
`q`. -/
def binaryOrder (q : Rat) : Int :=
  let estimate : Int := q.num.toNat.log2 - q.den.log2
  if 2 ^ estimate ≤ q then estimate else estimate - 1

/-- The nearest floating-point number, the one with an even significand when
two are equally near. Beyond the largest one there is none. -/
def nearest? (q : Rat) : Option Binary64 :=
  if q ≤ 0 then some zero
  else
    let exponent := max leastExponent (binaryOrder q - 52)
    let significand := roundEven (q / 2 ^ exponent)
    let rounded : Binary64 :=
      if significand = 2 * leastFull then ⟨leastFull, exponent + 1⟩
      else ⟨significand, exponent⟩
    if rounded.exponent ≤ greatestExponent then some rounded else none

/-- The greatest power of ten below the largest number. -/
def greatestPower : Nat := 308

/-- A power of ten, rounded. -/
def powerOfTen (exponent : Nat) : Rat := ((nearest? (10 ^ exponent)).getD zero).value

/-- Multiply by a power of ten in as few roundings as its table of powers
allows: one, unless the exponent is below that of the table. -/
def scaleByTen? (x : Binary64) (exponent : Int) : Option Binary64 :=
  if exponent.natAbs ≤ greatestPower then
    if 0 ≤ exponent then nearest? (x.value * powerOfTen exponent.natAbs)
    else nearest? (x.value / powerOfTen exponent.natAbs)
  else if x = zero then some zero
  else if 0 < exponent then none
  else do
    let reduced ← nearest? (x.value / powerOfTen greatestPower)
    reduced.scaleByTen? (exponent + greatestPower)
termination_by exponent.natAbs
decreasing_by
  rename_i tooFar _ negative
  simp only [greatestPower] at tooFar ⊢
  omega

/-! Shortest decimal numerals. -/

/-- The fraction is read as this floating-point number. -/
def isReadFrom (x : Binary64) (q : Rat) : Bool := nearest? q == some x

/-- An exponent whose power of ten is at most `q`, for a positive `q`; ten
times its successor is greater. -/
def decimalOrder (q : Rat) : Int :=
  if 1 ≤ q then (Nat.toDigits 10 q.floor.toNat).length - 1
  else -(Nat.toDigits 10 (1 / q).floor.toNat).length

/-- The multiple of a power of ten that is read as `x`, the nearest one when
there are two. Only the two neighbours of `x` can be. -/
def onGrid? (x : Binary64) (power : Int) : Option Nat :=
  let scaled := x.value / 10 ^ power
  let below := scaled.floor.toNat
  match x.isReadFrom (below * 10 ^ power), x.isReadFrom ((below + 1 : Nat) * 10 ^ power) with
  | true, true => some (roundEven scaled)
  | true, false => some below
  | false, true => some (below + 1)
  | false, false => none

/-- The powers of ten whose multiples are tried, the coarsest first. Seventeen
digits always suffice. -/
def grids (x : Binary64) : List Int :=
  (List.range 19).map fun (finer : Nat) => decimalOrder x.value + 1 - finer

/-- The digits of the shortest decimal that is read as a positive number, as a
number, and the power of ten that they count. -/
def shortest (x : Binary64) : Nat × Int :=
  (x.grids.findSome? fun power => (x.onGrid? power).map (·, power)).getD (0, 0)

end Binary64

end TitleFormatting
