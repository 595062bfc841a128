import TitleFormatting.Functions.Argument
import TitleFormatting.Number.Arithmetic
import TitleFormatting.Number.Numeral

/-!
Arithmetic functions. Their results are present and true.
-/

namespace TitleFormatting.Functions

def numberAtom (n : Int64) : Atom := .found (String.ofList (Number.decimal n.toInt))

/-- The numbers combined from left to right; nothing when there are none. -/
def combine (operation : Int64 → Int64 → Int64) (arguments : List Argument) : Atom :=
  match arguments with
  | [] => .absent
  | first :: rest =>
    numberAtom ((rest.map Argument.number).foldl operation first.number)

/-- `$add(a,...)`; without arguments zero. -/
def add (arguments : List Argument) : Atom :=
  numberAtom ((arguments.map Argument.number).foldl (· + ·) 0)

/-- `$sub(a,b,...)`. -/
def sub (arguments : List Argument) : Atom := combine (· - ·) arguments

/-- `$mul(a,...)`; without arguments one. -/
def mul (arguments : List Argument) : Atom :=
  numberAtom ((arguments.map Argument.number).foldl (· * ·) 1)

/-- `$div(a,b,...)`: a divisor that gives no quotient is passed over. -/
def div (arguments : List Argument) : Atom :=
  combine (fun a b => (Number.quotient? a b).getD a) arguments

/-- `$mod(a,b,...)`: a divisor that gives no remainder is passed over. -/
def mod (arguments : List Argument) : Atom :=
  combine (fun a b => (Number.remainder? a b).getD a) arguments

/-- `$min(a,...)`. -/
def minimum (arguments : List Argument) : Atom :=
  combine (fun a b => if b < a then b else a) arguments

/-- `$max(a,...)`. -/
def maximum (arguments : List Argument) : Atom :=
  combine (fun a b => if a < b then b else a) arguments

/-- `$greater(a,b)`: a pure truth value. -/
def greater (arguments : List Argument) : Atom :=
  match arguments with
  | [first, second] => .boolean (second.number < first.number)
  | _ => .absent

/-- `$muldiv(a,b,c)`. -/
def muldiv (arguments : List Argument) : Except Fault Atom :=
  match arguments with
  | [a, b, c] => do
    let result ← Number.scaled a.number b.number c.number
    return numberAtom result
  | _ => .ok .absent

/-- `$rand()`: the number drawn for this call. -/
def rand (draw : UInt32) : Atom :=
  .found (String.ofList (Number.decimal draw.toNat))

end TitleFormatting.Functions
