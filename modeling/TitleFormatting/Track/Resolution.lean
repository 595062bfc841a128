import TitleFormatting.Track.Fallback

/-!
The value of a field reference on a track.
-/

namespace TitleFormatting

/-- The name under which a field is kept: in upper case unless names are case
sensitive. -/
def fieldKey (name : String) (caseSensitive : Bool) : String :=
  if caseSensitive then name else Text.upperString name

namespace Track

/-- The field under its own name. -/
def direct (track : Track) (name : String) (options : Options) : Atom :=
  match track.get? (fieldKey name options.caseSensitive) with
  | some value => .found value
  | none => .absent

/-- The value of `%name%`: what the fallback rule of the name yields or, if
that is nothing, the field itself. -/
def resolve (track : Track) (name : String) (options : Options) : Atom :=
  let fallback :=
    if options.magic then
      match FallbackRule.find? (Text.lowerString name) with
      | some rule => rule.apply track options
      | none => .absent
    else .absent
  if fallback.isPresent then fallback else track.direct name options

end Track

end TitleFormatting
