import TitleFormatting.Template.Location

/-!
Structural errors in the source of a template. Each has one cause and the
place of the character to blame, counted from the start of the whole source.
-/

namespace TitleFormatting

inductive SyntaxFault where
  /-- A quote is never closed. -/
  | unterminatedLiteral
  /-- A field reference is never closed; `invalid` is the first character in
  it that does not belong into a field name. -/
  | unterminatedVariable (invalid : Option Char)
  /-- A call is never closed, or its name never reaches a parenthesis. -/
  | unterminatedFunction (name : String)
  /-- A conditional block is never closed. -/
  | unterminatedConditional
  /-- A closing bracket has no opening one. -/
  | unmatchedBracket
  /-- A character that cannot stand in a function name. -/
  | invalidFunctionName (character : Char)
  /-- Blocks and calls are nested deeper than the limit; `opener` opens the
  first one that is too deep. -/
  | depthExceeded (opener : Char) (limit : Nat)
deriving DecidableEq, Repr

structure SyntaxError where
  fault : SyntaxFault
  location : Location
deriving DecidableEq, Repr

namespace SyntaxError

/-- The character to blame. -/
def character (error : SyntaxError) : Char :=
  match error.fault with
  | .unterminatedLiteral => '\''
  | .unterminatedVariable _ => '%'
  | .unterminatedFunction _ => '$'
  | .unterminatedConditional => '['
  | .unmatchedBracket => ']'
  | .invalidFunctionName character => character
  | .depthExceeded opener _ => opener

def message (error : SyntaxError) : String :=
  let position := error.location.position.repr
  match error.fault with
  | .unterminatedLiteral =>
    "unterminated literal: quote at position " ++ position ++ " is never closed"
  | .unterminatedVariable invalid =>
    "unterminated variable: '%' at position " ++ position ++ " is never closed" ++
      match invalid with
      | some c => " (unexpected character '" ++ c.toString ++ "' in name)"
      | none => ""
  | .unterminatedFunction name =>
    "unterminated function: '$' at position " ++ position ++ " ('" ++ name ++
      "') is never closed"
  | .unterminatedConditional =>
    "unterminated conditional: '[' at position " ++ position ++ " is never closed"
  | .unmatchedBracket => "unmatched ']' at position " ++ position
  | .invalidFunctionName character =>
    "invalid character '" ++ character.toString ++
      "' in function name at position " ++ position
  | .depthExceeded _ limit =>
    "nesting deeper than " ++ limit.repr ++ " levels at position " ++ position

end SyntaxError

end TitleFormatting
