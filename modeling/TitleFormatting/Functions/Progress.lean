import TitleFormatting.Functions.Argument
import TitleFormatting.Number.Arithmetic

/-!
Progress bars made of text cells.
-/

namespace TitleFormatting.Functions

/-- The cell of a position within a bar of `length` cells for a range of
positions; the first cell when there is no quotient or a negative one. -/
def cellOfPosition (position range : Int64) (length : Nat) : Nat :=
  let scaled := Number.saturate (position.toInt * length)
  ((Number.quotient? scaled range).getD 0).toInt.toNat

/-- A bar with a knob in one cell, at most the last one. -/
def knobBar (length cell : Nat) (knob bar : List Char) : List Char :=
  (List.range length).flatMap fun i => if i = min cell (length - 1) then knob else bar

/-- A bar whose first cells are filled. -/
def filledBar (length cell : Nat) (filled empty : List Char) :
    Except Fault (List Char) := do
  let cells := min cell length
  let rest ← difference length cells
  return (List.replicate cells filled).flatten ++ (List.replicate rest empty).flatten

/-- `$progress(pos,range,len,knob,bar)`. -/
def progress (arguments : List Argument) : Atom :=
  match arguments with
  | [position, range, length, knob, bar] =>
    let cell := cellOfPosition position.number range.number (widthOf length)
    .literal (String.ofList
      (knobBar (widthOf length) cell knob.characters bar.characters))
  | _ => .absent

/-- `$progress2(pos,range,len,filled,empty)`. -/
def progress2 (arguments : List Argument) : Except Fault Atom :=
  match arguments with
  | [position, range, length, filled, empty] => do
    let cell := cellOfPosition position.number range.number (widthOf length)
    let bar ← filledBar (widthOf length) cell filled.characters empty.characters
    return .literal (String.ofList bar)
  | _ => .ok .absent

end TitleFormatting.Functions
