import Std.Data.HashMap
import Std.Data.TreeMap
import TitleFormatting.Track.Fields

/-!
Tracks: anything that answers for field names whether it has the field and
what its value is.
-/

namespace TitleFormatting

/-- Read access to the fields of one track. -/
structure Track where
  /-- The value of a field, if the track has it. -/
  get? : String → Option String
  /-- The track has the field, be it with an empty value. -/
  contains : String → Bool

namespace Track

/-- The track whose fields are kept in order. -/
def ofFields (fields : Fields) : Track := ⟨fields.get?, fields.contains⟩

/-- The track whose fields are kept in a hash map. -/
def ofHashMap (fields : Std.HashMap String String) : Track :=
  ⟨fun name => fields[name]?, fields.contains⟩

/-- The track whose fields are kept in a search tree. -/
def ofTreeMap (fields : Std.TreeMap String String) : Track :=
  ⟨fun name => fields[name]?, fields.contains⟩

end Track

end TitleFormatting
