import TitleFormatting.Fault

/-!
Writing integers: decimal and hexadecimal numerals, zero padding and Roman
numerals.
-/

namespace TitleFormatting.Number

/-- The decimal numeral of an integer, a minus sign first when it is
negative. -/
def decimal (n : Int) : List Char :=
  if n < 0 then '-' :: Nat.toDigits 10 n.natAbs else Nat.toDigits 10 n.natAbs

/-- The hexadecimal numeral of a natural number in capitals. -/
def hexadecimal (n : Nat) : List Char := (Nat.toDigits 16 n).map Char.toUpper

/-- The widest numeral that zero padding can produce. -/
def widestNumeral : Nat := 65535

/-- The numeral with zeros in front of its digits until it has `width`
characters. -/
def zeroPadded (width : Nat) (numeral : List Char) : List Char :=
  let zeros := List.replicate (width - numeral.length) '0'
  match numeral with
  | '-' :: digits => '-' :: (zeros ++ digits)
  | digits => zeros ++ digits

/-- Roman numerals from the greatest value to the least, subtractive pairs
included. -/
def romanSymbols : List (Nat × List Char) := [
  (1000, ['M']), (900, ['C', 'M']), (500, ['D']), (400, ['C', 'D']),
  (100, ['C']), (90, ['X', 'C']), (50, ['L']), (40, ['X', 'L']), (10, ['X']),
  (9, ['I', 'X']), (5, ['V']), (4, ['I', 'V']), (1, ['I'])]

/-- Write a symbol as often as its value can be taken off a number; also yields
what is left of the number. -/
def writeSymbol (value : Nat) (symbol : List Char) (number : Nat) :
    Except Fault (List Char × Nat) :=
  if _ : 0 < value ∧ value ≤ number then do
    let rest ← difference number value
    let (written, left) ← writeSymbol value symbol rest
    return (symbol ++ written, left)
  else .ok ([], number)
termination_by number
decreasing_by have := rest.property; omega

/-- Each symbol is repeated as often as its value fits into what is left. -/
def romanWith : List (Nat × List Char) → Nat → Except Fault (List Char)
  | [], _ => .ok []
  | (value, symbol) :: symbols, number => do
    let (written, left) ← writeSymbol value symbol number
    let others ← romanWith symbols left
    return written ++ others

/-- The Roman numeral of an integer from 1 to 100000. -/
def roman? (n : Int) : Except Fault (Option (List Char)) :=
  if 1 ≤ n && n ≤ 100000 then do
    let numeral ← romanWith romanSymbols n.toNat
    return some numeral
  else .ok none

end TitleFormatting.Number
