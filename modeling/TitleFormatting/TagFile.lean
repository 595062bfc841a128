import TitleFormatting.Diagnostic
import TitleFormatting.Json.Document
import TitleFormatting.Track.Resolution

/-!
Tag files: the fields of many tracks in one JSON document. The document is an
array with one object per track. A field that is set on one track stays set on
the tracks that follow, until it is set again or erased by `null` or an empty
array.
-/

namespace TitleFormatting

/-- What is wrong with a tag file. Tracks are counted from one. -/
inductive TagFileFault where
  | unreadable
  | notJson
  /-- The document is not an array. -/
  | notAnArray
  | notAnObject (track : Nat)
  /-- The value of a field, whose name is given as written, is neither a
  scalar nor null nor an array of scalars. -/
  | unsupportedValue (track : Nat) (field : String)
deriving DecidableEq, Repr

/-- A fault and the name of the file. -/
structure TagFileError where
  fault : TagFileFault
  file : String
deriving DecidableEq, Repr

namespace TagFileError

def message (error : TagFileError) : String :=
  match error.fault with
  | .unreadable => "cannot read tag file " ++ error.file
  | .notJson => "tag file " ++ error.file ++ " is not valid JSON"
  | .notAnArray => "tag file " ++ error.file ++ " must contain an array of tracks"
  | .notAnObject track => "track " ++ track.repr ++ " in " ++ error.file ++ " is not an object"
  | .unsupportedValue track field =>
    "field '" ++ field ++ "' of track " ++ track.repr ++ " in " ++ error.file ++
      " has an unsupported value"

def code (error : TagFileError) : String :=
  match error.fault with
  | .unreadable => "titlefmt::sidecar::io"
  | .notJson => "titlefmt::sidecar::syntax"
  | .notAnArray | .notAnObject _ => "titlefmt::sidecar::shape"
  | .unsupportedValue _ _ => "titlefmt::sidecar::value"

/-- Advice on how to mend the file. -/
def help? (error : TagFileError) : Option String :=
  match error.fault with
  | .unsupportedValue _ _ =>
    some "use a string, number, boolean, null, or an array of those"
  | _ => none

def diagnostic (error : TagFileError) : Diagnostic :=
  { message := error.message, labels := [], code := error.code, help := error.help? }

end TagFileError

/-- What a member of a track's object does to the field. -/
inductive FieldChange where
  | set (value : String)
  | erase
deriving DecidableEq, Repr

namespace FieldChange

/-- The fields after a change of one of them. -/
def apply (change : FieldChange) (name : String) (fields : Fields) : Fields :=
  match change with
  | set value => fields.insert name value
  | erase => fields.erase name

/-- The text of a string, a number or a boolean. -/
def plainText? : JsonValue → Option String
  | .string text => some text
  | .number number => some number.text
  | .bool flag => some (if flag then "true" else "false")
  | .null | .array _ | .object _ => none

/-- The change that a value stands for. Several values are joined. -/
def ofValue? : JsonValue → Option FieldChange
  | .null | .array [] => some erase
  | .array items => (items.mapM plainText?).map fun texts => set (", ".intercalate texts)
  | value => (plainText? value).map set

end FieldChange

namespace TagFile

/-- The fields after one member of the object of a track. -/
def applyMember (caseSensitive : Bool) (track : Nat) (fields : Fields)
    (member : JsonMember) : Except TagFileFault Fields :=
  match FieldChange.ofValue? member.value with
  | some change => .ok (change.apply (fieldKey member.name caseSensitive) fields)
  | none => .error (.unsupportedValue track member.name)

/-- The fields of a track, given those of the track before it. -/
def applyEntry (caseSensitive : Bool) (track : Nat) (fields : Fields) :
    JsonValue → Except TagFileFault Fields
  | .object members => members.foldlM (applyMember caseSensitive track) fields
  | _ => .error (.notAnObject track)

/-- The fields of the tracks from the given one on. -/
def tracksFrom (caseSensitive : Bool) :
    Nat → Fields → List JsonValue → Except TagFileFault (List Fields)
  | _, _, [] => .ok []
  | track, fields, entry :: rest => do
    let fields ← applyEntry caseSensitive track fields entry
    let later ← tracksFrom caseSensitive (track + 1) fields rest
    return fields :: later

/-- The fields of all tracks of a document. -/
def tracksOfValue (caseSensitive : Bool) : JsonValue → Except TagFileFault (List Fields)
  | .array entries => tracksFrom caseSensitive 1 .empty entries
  | _ => .error .notAnArray

/-- The fields of all tracks of a file with this content. -/
def tracks (caseSensitive : Bool) (content : String) : Except TagFileFault (List Fields) :=
  match JsonValue.parse? content with
  | some document => tracksOfValue caseSensitive document
  | none => .error .notJson

/-- Read a tag file. Errors name the file. -/
def load (files : String → Option String) (caseSensitive : Bool) (file : String) :
    Except TagFileError (List Fields) :=
  match files file with
  | some content => (tracks caseSensitive content).mapError (⟨·, file⟩)
  | none => .error ⟨.unreadable, file⟩

end TagFile

end TitleFormatting
