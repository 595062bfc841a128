/-!
Membership of a character in a list of code point runs.
-/

namespace TitleFormatting.Text

/-- The character lies in one of the runs; both ends of a run belong to it. -/
def inRanges (ranges : List (Nat × Nat)) (c : Char) : Bool :=
  ranges.any fun run => run.1 ≤ c.toNat && c.toNat ≤ run.2

end TitleFormatting.Text
