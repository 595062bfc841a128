import TitleFormatting.Text.Blank

/-!
Reading integers out of free text. A text always has a number: whatever cannot
be read counts as zero, leading blanks and punctuation are skipped, and a
number that does not fit is held at the largest one.
-/

namespace TitleFormatting.Number

open Text

/-- An ASCII character that is neither a letter, a digit, a space nor a
control. -/
def isPunctuation (c : Char) : Bool :=
  ('!' ≤ c && c ≤ '/') || (':' ≤ c && c ≤ '@') || ('[' ≤ c && c ≤ '\x60') ||
    ('\x7b' ≤ c && c ≤ '~')

/-- What may stand between the start of a text and its number. -/
def isSkipped (c : Char) : Bool := isBlank c || isPunctuation c

def digitValue (c : Char) : Nat := c.toNat - '0'.toNat

def largest : Nat := 0x7FFFFFFFFFFFFFFF

/-- The digits that a text starts with. -/
def digitRun (text : List Char) : List Char := text.takeWhile Char.isDigit

/-- The value of a digit sequence. -/
def digitsValue (digits : List Char) : Nat :=
  digits.foldl (fun value digit => 10 * value + digitValue digit) 0

/-- The value of a digit sequence, held at the largest number. -/
def cappedValue (digits : List Char) : Nat :=
  digits.foldl (fun value digit => min largest (10 * value + digitValue digit)) 0

/-- The value of a digit sequence, reduced to 32 bits while it is read. -/
def wrappedValue (digits : List Char) : UInt32 :=
  digits.foldl (fun value digit => 10 * value + UInt32.ofNat (digitValue digit)) 0

/-- The number of an unsigned text. -/
def magnitude (text : List Char) : Nat :=
  cappedValue (digitRun (text.dropWhile isSkipped))

/-- The number that the whole text spells, when it spells one that fits: a
sign or none, then digits only. -/
def spelled? (text : List Char) : Option Int :=
  let (negative, digits) :=
    match text with
    | '-' :: rest => (true, rest)
    | '+' :: rest => (false, rest)
    | rest => (false, rest)
  if digits.isEmpty || !digits.all Char.isDigit then none
  else
    let value : Int := digitsValue digits
    let signed := if negative then -value else value
    if -(largest + 1 : Int) ≤ signed && signed ≤ largest then some signed else none

/-- The number of a text: the one it spells exactly or else, after at most one
sign and any noise, the digits that come first. -/
def ofText (text : List Char) : Int64 :=
  let trimmed := trim text
  match spelled? trimmed with
  | some value => Int64.ofInt value
  | none =>
    match trimmed with
    | '-' :: rest => Int64.ofInt (-(magnitude rest : Int))
    | '+' :: rest => Int64.ofInt (magnitude rest)
    | rest => Int64.ofInt (magnitude rest)

/-- The number of a text in which a minus sign is only punctuation. -/
def unsignedOfText (text : List Char) : Int64 := Int64.ofInt (magnitude text)

/-- The number of a text modulo 2 ^ 32, negated when `signed` and the text
starts with a minus sign. -/
def wrappedOfText (text : List Char) (signed : Bool) : UInt32 :=
  let read (rest : List Char) := wrappedValue (digitRun (rest.dropWhile isSkipped))
  match trim text with
  | '-' :: rest => if signed then -(read rest) else read ('-' :: rest)
  | rest => read rest

end TitleFormatting.Number
