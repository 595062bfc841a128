/-!
Markers: problems of single calls that are written into the output instead of
failing the whole template.
-/

namespace TitleFormatting

/-- A call that could not be carried out. -/
inductive Marker where
  /-- No function has this name and takes this many arguments. -/
  | unknownFunction (name : String) (arity : Nat)
  /-- A control function, named in capitals, does not take this many
  arguments. -/
  | invalidSyntax (function : String) (arity : Nat)
deriving DecidableEq, Repr

namespace Marker

/-- What is written in place of the call. -/
def text : Marker → String
  | unknownFunction _ _ => "[UNKNOWN FUNCTION]"
  | invalidSyntax function _ => "[INVALID $" ++ function ++ " SYNTAX]"

end Marker

end TitleFormatting
