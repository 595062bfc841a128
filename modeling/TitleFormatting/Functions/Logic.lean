import TitleFormatting.Functions.Argument

/-!
Logical functions. They look at the truth of their arguments only and render
no text.
-/

namespace TitleFormatting.Functions

/-- `$and(...)`: all arguments are true. -/
def allTrue (arguments : List Argument) : Atom := .boolean (arguments.all Argument.truth)

/-- `$or(...)`: some argument is true. -/
def anyTrue (arguments : List Argument) : Atom := .boolean (arguments.any Argument.truth)

/-- `$not(x)`. -/
def negation (arguments : List Argument) : Atom :=
  match arguments with
  | [] => .absent
  | first :: _ => .boolean (!first.truth)

/-- `$xor(...)`: an odd number of arguments are true. -/
def oddTrue (arguments : List Argument) : Atom :=
  .boolean (arguments.countP Argument.truth % 2 == 1)

end TitleFormatting.Functions
