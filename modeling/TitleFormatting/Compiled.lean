import TitleFormatting.Evaluation

/-!
Compiled templates: read once and applied to any number of tracks.
-/

namespace TitleFormatting

/-- A template with the source it was read from. -/
structure Compiled where
  source : String
  template : Template

namespace Compiled

/-- Read a template within the nesting limit of the options. -/
def compile (source : String) (options : Options) : Except SyntaxError Compiled := do
  let template ← Template.parse options.maxDepth source
  return ⟨source, template⟩

/-- Apply to a track; also yields the markers that were written into the
result. -/
def applyWithMarkers (compiled : Compiled) (track : Track) (options : Options)
    (draw : Nat → UInt32) : Except Fault (Atom × List Marker) := do
  let (atom, context) ← compiled.template.evaluate { track, options, draw }
  return (atom, context.markers)

def apply (compiled : Compiled) (track : Track) (options : Options)
    (draw : Nat → UInt32) : Except Fault Atom := do
  let (atom, _) ← compiled.applyWithMarkers track options draw
  return atom

end Compiled

end TitleFormatting
