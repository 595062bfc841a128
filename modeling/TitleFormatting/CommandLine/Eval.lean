import TitleFormatting.CommandLine.Invocation
import TitleFormatting.CommandLine.Outcome
import TitleFormatting.Formatter

/-!
The `eval` command: one template on one track, whose fields come from a tag
file, from the command line or from both.
-/

namespace TitleFormatting.CommandLine

/-- The fields of a track with some of them set anew. -/
def withFields (caseSensitive : Bool) (pairs : List (String × String)) (fields : Fields) :
    Fields :=
  pairs.foldl (fun fields pair => fields.insert (fieldKey pair.1 caseSensitive) pair.2) fields

/-- The track with a number, from one on. -/
def selectTrack? (number : Nat) (tracks : List Fields) : Option Fields :=
  if number = 0 then none else tracks[number - 1]?

/-- The failure of a command whose template yields no result. -/
def Failure.ofFormatError (source : String) : FormatError → Failure
  | .malformed error => .malformed error source
  | .halted fault => .halted fault

namespace EvalRequest

/-- The fields that the tag file has for the track, none without a tag
file. -/
def filedFields (request : EvalRequest) (options : Options) (files : String → Option String) :
    Except Failure Fields :=
  match request.tagFile with
  | none => .ok .empty
  | some file => do
    let tracks ← (TagFile.load files options.caseSensitive file).mapError .tagFile
    match selectTrack? request.track tracks with
    | some fields => return fields
    | none => .error (.noSuchTrack request.track file tracks.length)

/-- The fields that the template is evaluated on. -/
def allFields (request : EvalRequest) (options : Options) (files : String → Option String) :
    Except Failure Fields := do
  let fields ← request.filedFields options files
  return withFields options.caseSensitive request.fields fields

/-- The atom of the template and the markers that were written into it. -/
def result (request : EvalRequest) (formatter : Formatter) (files : String → Option String)
    (draw : Nat → UInt32) : Except Failure (Atom × List Marker) := do
  let fields ← request.allFields formatter.options files
  let (result, _) := formatter.formatWithMarkers request.template (.ofFields fields) draw
  result.mapError (.ofFormatError request.template)

def resultValue (atom : Atom) (markers : List Marker) : JsonValue :=
  .object [⟨"value", .string atom.text⟩, ⟨"present", .bool atom.isPresent⟩,
    ⟨"truth", .bool atom.truth⟩, ⟨"markers", .texts (markers.map Marker.text)⟩]

def run (request : EvalRequest) (formatter : Formatter) (files : String → Option String)
    (draw : Nat → UInt32) : Outcome :=
  match request.result formatter files draw with
  | .error failure => failure.outcome ""
  | .ok (atom, markers) =>
    .success (if request.json then document (resultValue atom markers) else lines [atom.text])

end EvalRequest

end TitleFormatting.CommandLine
