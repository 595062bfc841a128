import TitleFormatting.CommandLine.Run
import TitleFormatting.Proofs.Json.Printing

/-!
# What commands print

A document that a command prints is read back as the value that it stands for, with the
members in the order of their names.  So what is said of a result is not how it is printed
but what a reader finds: its text and its truth, and the track or the markers that go
with them.
-/

namespace TitleFormatting

/-! ## Lists of texts -/

namespace JsonValue

theorem arranged_texts (items : List String) : (texts items).arranged = texts items := by
  rw [texts, arranged, arrangedItems_eq_map, List.map_map]
  rfl

theorem printable_texts (depth : Nat) (items : List String) :
    Printable (depth + 1) (texts items) := by
  refine .array fun item member => ?_
  obtain ⟨text, -, rfl⟩ := List.mem_map.mp member
  exact .string text

end JsonValue

namespace CommandLine

open JsonValue (Printable arranged arrangedMembers deepest)

/-! ## Documents -/

theorem parse?_document {value : JsonValue} (printable : Printable deepest value) :
    JsonValue.parse? (document value) = some value.arranged :=
  JsonValue.parse?_pretty printable

/-- What a document shows of a result and its markers.  An absent text is shown as an empty
one. -/
def shownResult (atom : Atom) (markers : List Marker) : JsonValue :=
  .object [⟨"markers", .texts (markers.map Marker.text)⟩, ⟨"present", .bool atom.value.isSome⟩,
    ⟨"truth", .bool atom.truth⟩, ⟨"value", .string (atom.value.getD "")⟩]

theorem EvalRequest.parse?_resultValue (atom : Atom) (markers : List Marker) :
    JsonValue.parse? (document (resultValue atom markers)) = some (shownResult atom markers) := by
  have printable : Printable deepest (resultValue atom markers) := by
    refine .object ?_
    simp [Printable.string, Printable.bool, JsonValue.printable_texts]
  have shown : (resultValue atom markers).arranged = shownResult atom markers := by
    simp only [resultValue, arranged, arrangedMembers, JsonMember.insert, String.reduceEq,
      String.reduceLT, reduceIte, JsonValue.arranged_texts]
    rfl
  rw [parse?_document printable, shown]

/-- What a document shows of the result on the track with a number. -/
def shownTrack (track : Nat) (atom : Atom) : JsonValue :=
  .object [⟨"track", .natural track⟩, ⟨"truth", .bool atom.truth⟩,
    ⟨"value", .string (atom.value.getD "")⟩]

theorem FormattedTrack.parse?_values {results : List FormattedTrack}
    (fits : ∀ result ∈ results, result.track < UInt64.size) :
    JsonValue.parse? (document (.array (results.map value))) =
      some (.array (results.map fun result => shownTrack result.track result.atom)) := by
  have printable : Printable deepest (.array (results.map value)) := by
    refine .array fun shown member => ?_
    obtain ⟨result, inside, rfl⟩ := List.mem_map.mp member
    refine .object ?_
    simp [Printable.string, Printable.bool, Printable.natural (fits result inside)]
  have shown (result : FormattedTrack) :
      result.value.arranged = shownTrack result.track result.atom := by
    simp only [value, arranged, arrangedMembers, JsonMember.insert, String.reduceEq,
      String.reduceLT, reduceIte]
    rfl
  rw [parse?_document printable, arranged, JsonValue.arrangedItems_eq_map, List.map_map]
  simp only [Function.comp_def, shown]

/-- What a document shows of a template that was checked. -/
def shownFindings (source : String) : Except SyntaxError (List Warning) → JsonValue
  | .ok warnings =>
    .object [⟨"error", .null⟩, ⟨"position", .null⟩, ⟨"template", .string source⟩,
      ⟨"warnings", .texts (warnings.map Warning.text)⟩]
  | .error error =>
    .object [⟨"error", .string error.message⟩, ⟨"position", .natural error.location.position⟩,
      ⟨"template", .string source⟩, ⟨"warnings", .texts []⟩]

theorem CheckedTemplate.parse?_value {checked : CheckedTemplate}
    (fits : ∀ error, checked.findings = .error error →
      error.location.position < UInt64.size) :
    JsonValue.parse? (document (.array [checked.value])) =
      some (.array [shownFindings checked.source checked.findings]) := by
  obtain ⟨source, findings⟩ := checked
  have printable : Printable deepest (.array [value ⟨source, findings⟩]) := by
    refine .array fun shown member => ?_
    obtain rfl := List.mem_singleton.mp member
    cases findings with
    | ok warnings =>
        refine .object ?_
        simp [Printable.string, Printable.null, JsonValue.printable_texts]
    | error error =>
        refine .object ?_
        simp [Printable.string, Printable.natural (fits error rfl), JsonValue.printable_texts]
  have shown : (value ⟨source, findings⟩).arranged = shownFindings source findings := by
    cases findings <;>
      simp only [value, arranged, arrangedMembers, JsonMember.insert, String.reduceEq,
        String.reduceLT, reduceIte, JsonValue.arranged_texts] <;>
      rfl
  rw [parse?_document printable, arranged, JsonValue.arrangedItems, JsonValue.arrangedItems, shown]

/-! ## Lines -/

theorem toList_lines (texts : List String) :
    (lines texts).toList = texts.flatMap fun text => text.toList ++ ['\n'] := by
  rw [lines, String.toList_join, List.flatMap_map]
  simp only [String.toList_append]
  rfl

/-! ## Results on tracks -/

/-- What a run over tracks prints when it has come to its end. -/
def FormatRequest.printed (json : Bool) (results : List FormattedTrack) : String :=
  if json then document (.array (results.map FormattedTrack.value))
  else lines (results.map fun result => result.atom.text)

/-- The output consists of these results.  Line by line it has their texts, and an absent
text gives an empty line.  A document has their tracks and truths as well, as long as the
numbers of the tracks fit into 64 bits. -/
def Outcome.Emits (outcome : Outcome) (json : Bool) (results : List FormattedTrack) : Prop :=
  if json then
    (∀ result ∈ results, result.track < UInt64.size) →
      JsonValue.parse? outcome.output =
        some (.array (results.map fun result => shownTrack result.track result.atom))
  else
    outcome.output.toList =
      results.flatMap fun result => (result.atom.value.getD "").toList ++ ['\n']

theorem FormatRequest.emits_printed (json : Bool) (results : List FormattedTrack) :
    (Outcome.success (printed json results)).Emits json results := by
  cases json with
  | true =>
      exact FormattedTrack.parse?_values
  | false =>
      refine (toList_lines _).trans ?_
      rw [List.flatMap_map]
      rfl

end CommandLine

end TitleFormatting
