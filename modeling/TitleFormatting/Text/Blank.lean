/-!
White space as the Unicode property White_Space defines it, and the removal of
it from both ends of a text.
-/

namespace TitleFormatting.Text

/-- The 25 characters with the property White_Space. -/
def isBlank (c : Char) : Bool :=
  ('\t' ≤ c && c ≤ '\r') || c == ' ' || c == '\u0085' || c == '\u00a0' ||
    c == '\u1680' || ('\u2000' ≤ c && c ≤ '\u200a') || c == '\u2028' ||
    c == '\u2029' || c == '\u202f' || c == '\u205f' || c == '\u3000'

/-- The text without the blanks at its end. -/
def dropTrailing (p : Char → Bool) (text : List Char) : List Char :=
  (text.reverse.dropWhile p).reverse

/-- The text without the blanks at either end. -/
def trim (text : List Char) : List Char :=
  dropTrailing isBlank (text.dropWhile isBlank)

end TitleFormatting.Text
