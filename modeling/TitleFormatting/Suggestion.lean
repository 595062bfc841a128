import TitleFormatting.Text.EditDistance

/-!
Names that a misspelled name may stand for.
-/

namespace TitleFormatting.Suggestion

/-- How far a suggestion may be from a name: further for a longer name. -/
def maxDistance (key : String) : Nat := if key.length ≤ 3 then 1 else 2

/-- The order of suggestions: the closer first, and of equally close ones the
alphabetically first. -/
def before (first second : Nat × String) : Bool :=
  first.1 < second.1 || (first.1 == second.1 && first.2 ≤ second.2)

/-- The available names within reach, with their distances. -/
def inReach (key : String) (available : List String) : List (Nat × String) :=
  (available.map fun name => (Text.editDistance key.toList name.toList, name)).filter
    (·.1 ≤ maxDistance key)

/-- At most three available names, the closest first. -/
def closest (key : String) (available : List String) : List String :=
  (((inReach key available).mergeSort before).take 3).map Prod.snd

end TitleFormatting.Suggestion
