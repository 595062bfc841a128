import TitleFormatting.Atom
import TitleFormatting.Number.Numeral
import TitleFormatting.Options
import TitleFormatting.Text.Blank
import TitleFormatting.Text.Casing
import TitleFormatting.Track

/-!
Fallback rules for well-known field names: `%artist%` on a track without an
artist reads the album artist, then the composer, then the performer.
-/

namespace TitleFormatting

/-- The value of a field given by its upper-case name. When names are case
sensitive, the name is also tried in lower case. -/
def Track.fetch (track : Track) (name : String) (options : Options) : Option String :=
  match track.get? name with
  | some value => some value
  | none =>
    let lowered := Text.lowerString name
    if options.caseSensitive && track.contains lowered then track.get? lowered
    else none

/-- The value of the first of the fields that is present. -/
def Track.fetchFirst (track : Track) (names : List String) (options : Options) :
    Option String :=
  names.findSome? (track.fetch · options)

/-- How a well-known name is resolved. -/
inductive FallbackRule where
  /-- The first of these fields that is present. -/
  | candidates (names : List String)
  /-- The artist, unless the album artist is the same. -/
  | trackArtist
  /-- The track number without what follows a slash; a lone digit gets a zero
  in front. -/
  | trackNumber
deriving DecidableEq, Repr

namespace FallbackRule

/-- The artist of a track whose album artist is missing or different. -/
def artistOf (track : Track) (options : Options) : Atom :=
  match track.fetch "ARTIST" options with
  | none => .absent
  | some artist =>
    if track.fetch "ALBUM ARTIST" options = some artist then .absent
    else .found artist

/-- A track number as it is shown. -/
def shownNumber (raw : List Char) : List Char :=
  let number := Text.trim (raw.takeWhile (· != '/'))
  match number with
  | [digit] => if digit.isDigit then ['0', digit] else [digit]
  | _ => number

/-- The number of a track within its disc. -/
def numberOf (track : Track) (options : Options) : Atom :=
  match track.fetchFirst ["TRACKNUMBER", "TRACK"] options with
  | none => .absent
  | some raw => .found (String.ofList (shownNumber raw.toList))

def apply (rule : FallbackRule) (track : Track) (options : Options) : Atom :=
  match rule with
  | candidates names =>
    match track.fetchFirst names options with
    | some value => .found value
    | none => .absent
  | trackArtist => artistOf track options
  | trackNumber => numberOf track options

/-- The well-known names with their rules. -/
def table : List (String × FallbackRule) := [
  ("artist", candidates ["ARTIST", "ALBUM ARTIST", "COMPOSER", "PERFORMER"]),
  ("album artist", candidates ["ALBUM ARTIST", "ARTIST", "COMPOSER", "PERFORMER"]),
  ("track artist", trackArtist),
  ("album", candidates ["ALBUM", "VENUE"]),
  ("title", candidates ["TITLE"]),
  ("date", candidates ["DATE", "YEAR"]),
  ("discnumber", candidates ["DISCNUMBER", "DISC"]),
  ("totaldiscs", candidates ["TOTALDISCS", "DISCTOTAL"]),
  ("tracknumber", trackNumber),
  ("totaltracks", candidates ["TOTALTRACKS", "TRACKTOTAL"])]

/-- The rule of a name given in lower case. -/
def find? (name : String) : Option FallbackRule := table.lookup name

def names : List String := table.map Prod.fst

end FallbackRule

end TitleFormatting
