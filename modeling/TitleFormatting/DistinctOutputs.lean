/-!
Outputs that have been emitted in one run.
-/

namespace TitleFormatting

structure DistinctOutputs where
  outputs : List String

namespace DistinctOutputs

def empty : DistinctOutputs := ⟨[]⟩

/-- Record an output; the flag says whether it is new. -/
def insert (seen : DistinctOutputs) (output : String) : Bool × DistinctOutputs :=
  if seen.outputs.contains output then (false, seen)
  else (true, ⟨output :: seen.outputs⟩)

def size (seen : DistinctOutputs) : Nat := seen.outputs.length

end DistinctOutputs

end TitleFormatting
