import TitleFormatting.Atom
import TitleFormatting.Fault
import TitleFormatting.Marker
import TitleFormatting.Number.Reading

/-!
Arguments and results of function calls.
-/

namespace TitleFormatting

structure Argument where
  atom : Atom
  /-- The source of the argument begins with a quote. -/
  quoted : Bool
deriving DecidableEq, Repr

namespace Argument

/-- The rendered text, empty when absent. -/
def text (argument : Argument) : String := argument.atom.text

def characters (argument : Argument) : List Char := argument.text.toList

def truth (argument : Argument) : Bool := argument.atom.truth

def length (argument : Argument) : Nat := argument.characters.length

/-- The argument as a number. Quoted text is never negative. -/
def number (argument : Argument) : Int64 :=
  if argument.quoted then Number.unsignedOfText argument.characters
  else Number.ofText argument.characters

/-- The argument as a number modulo 2 ^ 32. -/
def wrapped (argument : Argument) : UInt32 :=
  Number.wrappedOfText argument.characters (!argument.quoted)

/-- The argument as a count; a negative number counts as zero. -/
def count (argument : Argument) : Nat := argument.number.toInt.toNat

end Argument

/-- Which arguments reach the value of a call. -/
inductive Origin where
  /-- The value is computed from the arguments. -/
  | all
  /-- The value is this argument, passed on unchanged. -/
  | argument (index : Nat)
  /-- No argument reaches the value. -/
  | nothing
deriving DecidableEq, Repr

/-- What a call comes to. -/
inductive Reply where
  | value (atom : Atom) (source : Origin)
  | marker (marker : Marker)
deriving DecidableEq, Repr

namespace Functions

/-- The widest text and the greatest repetition that a function produces. -/
def greatestWidth : Nat := 65536

def operand (arguments : List Argument) (index : Nat) : Except Fault Argument :=
  match arguments[index]? with
  | some argument => .ok argument
  | none => .error (.missingArgument index)

/-- The arguments from an index on. -/
def operandsFrom (arguments : List Argument) (index : Nat) :
    Except Fault (List Argument) :=
  if index ≤ arguments.length then .ok (arguments.drop index)
  else .error (.missingArgument index)

/-- A count held at the greatest width. -/
def widthOf (argument : Argument) : Nat := min argument.count greatestWidth

end Functions

end TitleFormatting
