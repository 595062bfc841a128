import TitleFormatting.Template.SyntaxError
import TitleFormatting.Text.Utf8

/-!
Diagnostics: errors as they are shown to a person, with the place in the text
and advice.
-/

namespace TitleFormatting

/-- A run of bytes in a text, with a note. -/
structure Label where
  text : String
  offset : Nat
  length : Nat
deriving DecidableEq, Repr

structure Diagnostic where
  message : String
  labels : List Label
  code : String
  help : Option String
deriving DecidableEq, Repr

namespace SyntaxError

/-- Advice on how to mend the template. -/
def help? (error : SyntaxError) : Option String :=
  match error.fault with
  | .unterminatedLiteral =>
    some "close the quote with another ', or write '' for a literal quote"
  | .unterminatedVariable _ =>
    some "close the field name with another %, or quote it as '%'"
  | .unterminatedFunction _ =>
    some "function calls are written $name(arg,...) with balanced parentheses"
  | .unterminatedConditional => some "close the block with ]"
  | .unmatchedBracket => some "write ']' to print a literal bracket"
  | .invalidFunctionName _ =>
    some "function names use letters, digits, and underscores only"
  | .depthExceeded _ _ => none

/-- The error as shown beside the text of the template. The label covers the
character at the error's offset, or nothing at the end of the text. The text
is cut at the offset, which is a fault inside a character. -/
def diagnostic (error : SyntaxError) (shown : String) : Except Fault Diagnostic := do
  let offset := min error.location.offset shown.utf8ByteSize
  let labelled ← Text.textFrom offset shown.toList
  let width := (labelled.head?.map Char.utf8Size).getD 0
  return {
    message := "syntax error: " ++ error.message
    labels := [⟨"here", offset, width⟩]
    code := "titlefmt::syntax"
    help := error.help? }

end SyntaxError

end TitleFormatting
