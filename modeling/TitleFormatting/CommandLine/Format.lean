import TitleFormatting.CommandLine.Invocation
import TitleFormatting.CommandLine.Outcome
import TitleFormatting.DistinctOutputs
import TitleFormatting.Formatter

/-!
The `format` command: one template on every track of a tag file.
-/

namespace TitleFormatting.CommandLine

/-- The result of a template on the track with a number, from one on. -/
structure FormattedTrack where
  track : Nat
  atom : Atom
deriving DecidableEq, Repr

namespace FormattedTrack

def value (formatted : FormattedTrack) : JsonValue :=
  .object [⟨"track", .natural formatted.track⟩, ⟨"value", .string formatted.atom.text⟩,
    ⟨"truth", .bool formatted.atom.truth⟩]

/-- The results whose text is neither among those seen nor that of an earlier
result. -/
def firstOutputs : DistinctOutputs → List FormattedTrack → List FormattedTrack
  | _, [] => []
  | seen, formatted :: rest =>
    let (isNew, seen) := seen.insert formatted.atom.text
    if isNew then formatted :: firstOutputs seen rest else firstOutputs seen rest

end FormattedTrack

/-- The results of one track after the other, up to the first one on which the
evaluation comes to a halt. -/
structure FormatRun where
  results : List FormattedTrack
  fault : Option Fault
deriving DecidableEq, Repr

namespace FormatRun

/-- Apply a template to tracks, the first of which has the given number. -/
def ofTracks (compiled : Compiled) (options : Options) (draws : Nat → Nat → UInt32) :
    Nat → List Fields → FormatRun
  | _, [] => ⟨[], none⟩
  | track, fields :: rest =>
    match compiled.applyWithMarkers (.ofFields fields) options (draws track) with
    | .error fault => ⟨[], some fault⟩
    | .ok (atom, _) =>
      let later := ofTracks compiled options draws (track + 1) rest
      ⟨⟨track, atom⟩ :: later.results, later.fault⟩

def distinct (run : FormatRun) : FormatRun :=
  { run with results := FormattedTrack.firstOutputs .empty run.results }

end FormatRun

namespace FormatRequest

/-- The results on the tracks of the tag file. The template is compiled once. -/
def result (request : FormatRequest) (formatter : Formatter) (files : String → Option String)
    (draws : Nat → Nat → UInt32) : Except Failure FormatRun := do
  let (reply, _) := formatter.compile request.template
  let cached ← reply.mapError (.malformed · request.template)
  let options := formatter.options
  let tracks ← (TagFile.load files options.caseSensitive request.tagFile).mapError .tagFile
  let run := FormatRun.ofTracks cached.compiled options draws 1 tracks
  return if request.unique then run.distinct else run

/-- Run the command. Lines are printed track by track, a JSON document only
when all tracks are done. -/
def run (request : FormatRequest) (formatter : Formatter) (files : String → Option String)
    (draws : Nat → Nat → UInt32) : Outcome :=
  match request.result formatter files draws with
  | .error failure => failure.outcome ""
  | .ok run =>
    let printed := lines (run.results.map (·.atom.text))
    match run.fault with
    | some fault => (Failure.halted fault).outcome (if request.json then "" else printed)
    | none =>
      .success (if request.json then document (.array (run.results.map (·.value))) else printed)

end FormatRequest

end TitleFormatting.CommandLine
