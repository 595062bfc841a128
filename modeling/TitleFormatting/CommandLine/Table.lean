/-!
Tables with a border around them and a line below their head.
-/

namespace TitleFormatting.CommandLine

/-- A table: its head and its rows, all of one length. -/
structure Table where
  head : List String
  rows : List (List String)
deriving DecidableEq, Repr

namespace Table

/-- The greatest length of the cells of each column. -/
def widths (table : Table) : List Nat :=
  table.rows.foldl (fun widths row => List.zipWith max widths (row.map String.length))
    (table.head.map String.length)

/-- A cell filled up to a width, with a blank on either side. -/
def cell (width : Nat) (text : String) : String :=
  " " ++ text ++ String.ofList (List.replicate (width - text.length) ' ') ++ " "

/-- A row between its borders. -/
def rowLine (widths : List Nat) (row : List String) : String :=
  "│" ++ " ".intercalate (List.zipWith cell widths row) ++ "│"

/-- A line across the table. Every column takes its width, two blanks and the
blank to the next one, which the last column lacks. -/
def rule (widths : List Nat) (left line right : Char) : String :=
  let inner := widths.foldl (fun total width => total + width + 3) 0 - 1
  String.ofList (left :: (List.replicate inner line ++ [right]))

def text (table : Table) : List String :=
  let widths := table.widths
  rule widths '┌' '─' '┐' :: rowLine widths table.head :: rule widths '╞' '═' '╡' ::
    (table.rows.map (rowLine widths) ++ [rule widths '└' '─' '┘'])

end Table

end TitleFormatting.CommandLine
