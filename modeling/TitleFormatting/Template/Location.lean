/-!
Places in the source of a template, counted in characters and in UTF-8 bytes.
-/

namespace TitleFormatting

/-- How many characters and how many bytes come before a place. -/
structure Location where
  position : Nat
  offset : Nat
deriving DecidableEq, Repr

namespace Location

def start : Location := ⟨0, 0⟩

/-- The place behind a character. -/
def next (location : Location) (c : Char) : Location :=
  ⟨location.position + 1, location.offset + c.utf8Size⟩

end Location

end TitleFormatting
