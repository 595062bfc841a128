import TitleFormatting.Marker
import TitleFormatting.Options
import TitleFormatting.Track

/-!
What an evaluation knows and what it has recorded so far.
-/

namespace TitleFormatting

/-- The state of one evaluation of templates on a track. -/
structure Context where
  track : Track
  options : Options
  /-- The random number of a call, by the position of the call. -/
  draw : Nat → UInt32
  /-- The markers recorded so far. -/
  markers : List Marker := []

namespace Context

def add (context : Context) (marker : Marker) : Context :=
  { context with markers := context.markers ++ [marker] }

def extend (context : Context) (markers : List Marker) : Context :=
  { context with markers := context.markers ++ markers }

/-- Take back the markers recorded after the first `count`. -/
def takeBackAfter (context : Context) (count : Nat) : List Marker × Context :=
  (context.markers.drop count, { context with markers := context.markers.take count })

def takeBackAll (context : Context) : List Marker × Context :=
  (context.markers, { context with markers := [] })

end Context

end TitleFormatting
