import TitleFormatting.Text.Ranges
import TitleFormatting.Text.Alphanumeric.Table

/-!
Letters and numbers of all scripts.
-/

namespace TitleFormatting.Text

/-- A letter, digit or other number of any script. -/
def isAlphanumeric (c : Char) : Bool :=
  c.isAlphanum || inRanges Alphanumeric.ranges c

end TitleFormatting.Text
