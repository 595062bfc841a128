import TitleFormatting.CommandLine.Outcome
import TitleFormatting.CommandLine.Table
import TitleFormatting.Functions.Catalog

/-!
The `functions` command: the catalog of functions.
-/

namespace TitleFormatting.CommandLine

namespace FunctionList

def table : Table where
  head := ["Function", "Arguments", "Family"]
  rows := Catalog.entries.map fun entry =>
    ["$" ++ entry.name, entry.arity.text, entry.family.text]

def arityValue : Arity → JsonValue
  | .exact count => .object [⟨"Exact", .natural count⟩]
  | .range least most => .object [⟨"Range", .array [.natural least, .natural most]⟩]
  | .atLeast count => .object [⟨"AtLeast", .natural count⟩]

def value : JsonValue :=
  .array (Catalog.entries.map fun entry =>
    .object [⟨"name", .string entry.name⟩, ⟨"arity", arityValue entry.arity⟩,
      ⟨"family", .string entry.family.text⟩])

def run (json : Bool) : Outcome :=
  .success (if json then document value else lines table.text)

end FunctionList

end TitleFormatting.CommandLine
