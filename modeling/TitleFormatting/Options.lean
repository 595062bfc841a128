import TitleFormatting.Template.Parser

/-!
Settings of the reading and the evaluation of templates.
-/

namespace TitleFormatting

structure Options where
  /-- Field names are looked up as written instead of in upper case. -/
  caseSensitive : Bool := false
  /-- Well-known field names fall back to related fields. -/
  magic : Bool := true
  /-- How deep blocks and argument lists may be nested. -/
  maxDepth : Nat := Template.defaultDepth
deriving DecidableEq, Repr

end TitleFormatting
