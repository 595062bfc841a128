/-!
The edit distance between two texts: how many characters must be inserted,
deleted or exchanged to turn one into the other.
-/

namespace TitleFormatting.Text

/-- The rest of a row of the distance table. `left` is the entry before it,
and the row above is given from the entry above `left` on. -/
def distanceRowFrom (c : Char) (left : Nat) : List Char → List Nat → List Nat
  | d :: other, diagonal :: above :: row =>
    let exchanged := if c = d then diagonal else diagonal + 1
    let entry := min (min (left + 1) (above + 1)) exchanged
    entry :: distanceRowFrom c entry other (above :: row)
  | _, _ => []

/-- The row of the distance table below the given one, for one more character
of the first text. -/
def distanceRow (other : List Char) (row : List Nat) (c : Char) : List Nat :=
  match row with
  | [] => []
  | first :: _ => (first + 1) :: distanceRowFrom c (first + 1) other row

def editDistance (text other : List Char) : Nat :=
  let rows := text.foldl (distanceRow other) (List.range (other.length + 1))
  rows.getLast?.getD 0

end TitleFormatting.Text
