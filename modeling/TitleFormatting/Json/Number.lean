import TitleFormatting.Number.Binary64
import TitleFormatting.Number.Numeral
import TitleFormatting.Number.Reading

/-!
Numbers of JSON documents: integers that fit into 64 bits are kept exactly,
all others as floating-point numbers.
-/

namespace TitleFormatting

open Number

inductive JsonNumber where
  | integer (value : Int)
  | float (negative : Bool) (magnitude : Binary64)
deriving DecidableEq, Repr

namespace JsonNumber

/-! Reading. -/

/-- The parts of a numeral. A fraction or an exponent that is missing has no
digits. -/
structure Numeral where
  negative : Bool
  whole : List Char
  fraction : List Char
  negativeExponent : Bool
  exponent : List Char
deriving DecidableEq, Repr

namespace Numeral

/-- Digits that begin with a zero only if that is all of them. -/
def isWhole : List Char → Bool
  | [] => false
  | ['0'] => true
  | digits => digits.head? != some '0'

/-- What follows an optional part: the digits after its mark, of which there
has to be one at least. -/
def digitsAfterMark (text : List Char) : Option (List Char × List Char) :=
  let digits := text.takeWhile Char.isDigit
  if digits.isEmpty then none else some (digits, text.dropWhile Char.isDigit)

/-- The fraction at the start of a text. -/
def fraction? : List Char → Option (List Char × List Char)
  | '.' :: rest => digitsAfterMark rest
  | text => some ([], text)

/-- The exponent at the start of a text. -/
def exponent? : List Char → Option (Bool × List Char × List Char)
  | 'e' :: rest | 'E' :: rest =>
    match rest with
    | '-' :: digits => (digitsAfterMark digits).map (true, ·)
    | '+' :: digits => (digitsAfterMark digits).map (false, ·)
    | digits => (digitsAfterMark digits).map (false, ·)
  | text => some (false, [], text)

/-- The parts of a numeral that makes up the whole text. -/
def ofText? (text : List Char) : Option Numeral := do
  let (negative, unsigned) :=
    match text with
    | '-' :: rest => (true, rest)
    | rest => (false, rest)
  let whole := unsigned.takeWhile Char.isDigit
  if !isWhole whole then none
  let (fraction, rest) ← fraction? (unsigned.dropWhile Char.isDigit)
  let (negativeExponent, exponent, rest) ← exponent? rest
  if rest.isEmpty then some { negative, whole, fraction, negativeExponent, exponent }
  else none

/-- The numeral has neither a fraction nor an exponent. -/
def isInteger (numeral : Numeral) : Bool :=
  numeral.fraction.isEmpty && numeral.exponent.isEmpty

/-- The power of ten that the exponent names. -/
def power (numeral : Numeral) : Int :=
  if numeral.negativeExponent then -digitsValue numeral.exponent
  else digitsValue numeral.exponent

end Numeral

/-- The bound of the natural numbers that are kept exactly. -/
def naturalBound : Nat := 0x10000000000000000

/-- The greatest magnitude of the negative integers that are kept exactly. -/
def negativeBound : Nat := 0x8000000000000000

/-- Append digits to a number as long as it fits into 64 bits; also yields the
digits from the first one that does not fit. -/
def appendDigits : Nat → List Char → Nat × List Char
  | significand, [] => (significand, [])
  | significand, digit :: rest =>
    let longer := 10 * significand + digitValue digit
    if longer < naturalBound then appendDigits longer rest else (significand, digit :: rest)

/-- The floating-point number of a numeral. Of its digits those count that fit
into 64 bits; a whole digit that does not fit still counts as a place. -/
def approximation? (numeral : Numeral) : Option Binary64 := do
  let (kept, dropped) := appendDigits 0 numeral.whole
  let (significand, ignored) := appendDigits kept numeral.fraction
  let places : Int := dropped.length - (numeral.fraction.length - ignored.length : Nat)
  let rounded ← Binary64.nearest? significand
  rounded.scaleByTen? (places + numeral.power)

/-- The number of a numeral. Minus zero and integers that do not fit into 64
bits are floating-point numbers; beyond the largest of those there is none. -/
def ofNumeral? (numeral : Numeral) : Option JsonNumber :=
  let magnitude := digitsValue numeral.whole
  let isExact :=
    numeral.isInteger &&
      if numeral.negative then 0 < magnitude && magnitude ≤ negativeBound
      else magnitude < naturalBound
  if isExact then some (.integer (if numeral.negative then -magnitude else magnitude))
  else (approximation? numeral).map (.float numeral.negative)

def ofText? (text : List Char) : Option JsonNumber :=
  (Numeral.ofText? text).bind ofNumeral?

/-! Writing. -/

/-- Decimal places from the first digit on: numbers whose first digit stands
for one of these powers of ten are written without an exponent. -/
def isPositional (power : Int) : Bool := -5 ≤ power && power ≤ 15

/-- A numeral without an exponent. It always has a fraction. -/
def positional (digits : List Char) (power : Int) : List Char :=
  if power < 0 then
    '0' :: '.' :: (List.replicate (-power - 1).toNat '0' ++ digits)
  else
    let places := power.toNat + 1
    let whole := digits.take places ++ List.replicate (places - digits.length) '0'
    let fraction := digits.drop places
    whole ++ '.' :: (if fraction.isEmpty then ['0'] else fraction)

/-- A numeral with an exponent, which always has a sign. -/
def scientific (digits : List Char) (power : Int) : List Char :=
  let fraction := digits.drop 1
  let mantissa := digits.take 1 ++ if fraction.isEmpty then [] else '.' :: fraction
  let sign := if power < 0 then '-' else '+'
  mantissa ++ 'e' :: sign :: Nat.toDigits 10 power.natAbs

/-- The shortest numeral that is read as the number. -/
def floatText (magnitude : Binary64) : List Char :=
  if magnitude = .zero then ['0', '.', '0']
  else
    let (number, unit) := magnitude.shortest
    let digits := Nat.toDigits 10 number
    let power := unit + digits.length - 1
    if isPositional power then positional digits power else scientific digits power

/-- The numeral of a number. -/
def text : JsonNumber → String
  | integer value => String.ofList (decimal value)
  | float negative magnitude =>
    String.ofList (if negative then '-' :: floatText magnitude else floatText magnitude)

end JsonNumber

end TitleFormatting
