import TitleFormatting.Proofs.CommandLine.Requests
import TitleFormatting.Proofs.CommandLine.Spelling
import TitleFormatting.Proofs.Evaluation.Joining
import TitleFormatting.Proofs.Functions.Calls

/-!
# Commands that agree

The commands for one template read it, load tag files and evaluate it on ways of their
own.  Their outcomes are computed from what they have in common, the template that is read
and its results on the tracks, and are then compared.
-/

namespace TitleFormatting

namespace CommandLine

/-! ## Requests for one template -/

namespace CommandLines

variable {options : Options} {template file : String} {track : Nat}

theorem run_eval (commandLines : CommandLines options template file track) (json : Bool)
    (files : String → Option String) (draws : Nat → Nat → UInt32) :
    run (commandLines.eval json) files draws =
      EvalRequest.run ⟨template, [], some file, track, json⟩ (.after options []) files
        (draws track) := by
  rw [run, commandLines.eval_asks json]
  rfl

theorem run_format (commandLines : CommandLines options template file track) (json : Bool)
    (files : String → Option String) (draws : Nat → Nat → UInt32) :
    run (commandLines.format json) files draws =
      FormatRequest.run ⟨template, file, false, json⟩ (.after options []) files draws := by
  rw [run, commandLines.format_asks json]
  rfl

theorem run_check (commandLines : CommandLines options template file track)
    (json strict : Bool) (files : String → Option String) (draws : Nat → Nat → UInt32) :
    run (commandLines.check json strict) files draws =
      CheckRequest.run ⟨[template], json, strict⟩ options := by
  rw [run, commandLines.check_asks json strict]
  rfl

end CommandLines

theorem exists_selectTrack? {track : Nat} {tracks : List Fields} (positive : 1 ≤ track)
    (within : track ≤ tracks.length) :
    ∃ fields, selectTrack? track tracks = some fields ∧
      tracks[track - 1]? = some fields := by
  have inside : track - 1 < tracks.length := by
    omega
  have nonzero : track ≠ 0 := by
    omega
  refine ⟨tracks[track - 1], ?_, List.getElem?_eq_getElem inside⟩
  rw [selectTrack?, if_neg nonzero, List.getElem?_eq_getElem inside]

/-! ## Agreement -/

/-- The documents for one track and for all tracks.  The first shows the result of the
template on its track and the second the results on all tracks, where the same value and
truth stand in the place of the track. -/
structure DocumentsAgree (parsed : Template) (options : Options) (tracks : List Fields)
    (track : Nat) (atom : Atom) (markers : List Marker) (results : List FormattedTrack)
    (evaluated formatted : String) : Prop where
  comesTo : ∃ fields, tracks[track - 1]? = some fields ∧
    parsed.ComesTo options fields atom markers
  areResults : AreResults parsed options 1 tracks results
  inPlace : results[track - 1]? = some ⟨track, atom⟩
  evaluates : evaluated = document (EvalRequest.resultValue atom markers)
  formats : formatted = FormatRequest.printed true results
  read : JsonValue.parse? evaluated = some (shownResult atom markers)
  /-- Numbers of tracks are read back if they fit into 64 bits. -/
  readInPlace : tracks.length < UInt64.size → ∃ items,
    JsonValue.parse? formatted = some (.array items) ∧ items.length = tracks.length ∧
      items[track - 1]? = some (shownTrack track atom)

/-- The outcomes of a template on one track of a tag file, on all of its tracks, and of
checking the template. -/
structure OutcomesAgree (options : Options) (template : String) (tracks : List Fields)
    (track : Nat) (evaluated formatted : (json : Bool) → Outcome)
    (checked : (json strict : Bool) → Outcome) : Prop where
  /-- Evaluation ends as formatting and as a check that is not strict. -/
  code : ∀ json other : Bool, (evaluated json).status.code = (formatted other).status.code ∧
    (evaluated json).status.code = (checked other false).status.code
  /-- Data are wrong exactly if the check complains about an error. -/
  wrong : ∀ json strict : Bool, (evaluated json).status.code = 65 ↔
    (checked false strict).complaints ≠ []
  /-- The template cannot be read in this case only. -/
  malformed : ∀ strict : Bool, (checked false strict).complaints ≠ [] ↔
    ∃ error, Template.parse options.maxDepth template = .error error
  /-- The document of a check tells of the error or of the warnings. -/
  reported : template.length < UInt64.size → ∀ strict : Bool,
    JsonValue.parse? (checked true strict).output = some (.array [shownFindings template
      ((Template.parse options.maxDepth template).map Template.warnings)])
  printed : (evaluated true).status.code = 0 →
    ∃ parsed atom markers results, Template.parse options.maxDepth template = .ok parsed ∧
      DocumentsAgree parsed options tracks track atom markers results (evaluated true).output
        (formatted true).output
  /-- A strict check that succeeds leaves no markers. -/
  unmarked : ∀ json : Bool, (checked json true).status.code = 0 →
    ∃ atom, JsonValue.parse? (evaluated true).output = some (shownResult atom [])

theorem DocumentsAgree.of_comesTo {parsed : Template} {options : Options}
    {tracks : List Fields} {track : Nat} {fields : Fields} {atom : Atom}
    {markers : List Marker} {results : List FormattedTrack} (positive : 1 ≤ track)
    (found : tracks[track - 1]? = some fields)
    (comes : parsed.ComesTo options fields atom markers)
    (areResults : AreResults parsed options 1 tracks results) :
    DocumentsAgree parsed options tracks track atom markers results
      (document (EvalRequest.resultValue atom markers))
      (FormatRequest.printed true results) := by
  have place : 1 + (track - 1) = track := by
    omega
  have listed : results[track - 1]? = some ⟨track, atom⟩ := by
    obtain ⟨other, otherMarkers, otherComes, listed⟩ := areResults.each (track - 1) fields found
    rwa [(otherComes.unique comes).1, place] at listed
  refine ⟨⟨fields, found, comes⟩, areResults, listed, rfl, rfl,
    EvalRequest.parse?_resultValue atom markers, fun fits => ?_⟩
  have numbered : ∀ result ∈ results, result.track < UInt64.size := by
    intro result member
    have bound := areResults.track_lt member
    omega
  refine ⟨_, FormattedTrack.parse?_values numbered, ?_, ?_⟩
  · rw [List.length_map, areResults.length]
  · rw [List.getElem?_map, listed]
    rfl

namespace OutcomesAgree

variable {options : Options} {template : String} {tracks : List Fields} {track : Nat}
  {evaluated formatted : Bool → Outcome}

theorem of_malformed {error : SyntaxError}
    (failed : Template.parse options.maxDepth template = .error error)
    (evaluates : ∀ json, evaluated json = (Failure.malformed error template).outcome "")
    (formats : ∀ json, formatted json = (Failure.malformed error template).outcome "") :
    OutcomesAgree options template tracks track evaluated formatted
      fun json strict => CheckRequest.run ⟨[template], json, strict⟩ options := by
  obtain ⟨diagnostic, -, complains⟩ := Failure.outcome_malformed failed ""
  rw [complains] at evaluates formats
  have checks (json strict : Bool) :
      (CheckRequest.run ⟨[template], json, strict⟩ options).status = .dataError := by
    obtain ⟨_, -, checked⟩ := CheckRequest.run_of_parse_eq_error json strict failed
    rw [checked]
    cases json <;> rfl
  have complained (strict : Bool) :
      (CheckRequest.run ⟨[template], false, strict⟩ options).complaints ≠ [] := by
    obtain ⟨_, -, checked⟩ := CheckRequest.run_of_parse_eq_error false strict failed
    rw [checked]
    exact List.cons_ne_nil _ _
  constructor
  case code =>
    intro json other
    rw [evaluates, formats, checks]
    exact ⟨rfl, rfl⟩
  case wrong =>
    intro json strict
    rw [evaluates]
    exact iff_of_true rfl (complained strict)
  case malformed =>
    intro strict
    exact iff_of_true (complained strict) ⟨error, failed⟩
  case reported =>
    intro fits strict
    obtain ⟨_, -, checked⟩ := CheckRequest.run_of_parse_eq_error true strict failed
    rw [checked, failed]
    refine CheckedTemplate.parse?_value fun other equality => ?_
    rw [← Except.error.inj equality]
    exact (SyntaxError.position_lt failed).trans fits
  case printed =>
    intro succeeded
    rw [evaluates] at succeeded
    contradiction
  case unmarked =>
    intro json succeeded
    rw [checks] at succeeded
    contradiction

theorem of_wellFormed {parsed : Template} {fields : Fields} {atom : Atom}
    {markers : List Marker} {results : List FormattedTrack} (positive : 1 ≤ track)
    (read : Template.parse options.maxDepth template = .ok parsed)
    (found : tracks[track - 1]? = some fields)
    (comes : parsed.ComesTo options fields atom markers)
    (unmarked : parsed.warnings = [] → markers = [])
    (areResults : AreResults parsed options 1 tracks results)
    (evaluates : ∀ json, evaluated json =
      .success (if json then document (EvalRequest.resultValue atom markers)
        else lines [atom.text]))
    (formats : ∀ json, formatted json = .success (FormatRequest.printed json results)) :
    OutcomesAgree options template tracks track evaluated formatted
      fun json strict => CheckRequest.run ⟨[template], json, strict⟩ options := by
  have uncomplained (strict : Bool) :
      (CheckRequest.run ⟨[template], false, strict⟩ options).complaints = [] := by
    rw [CheckRequest.run_of_parse_eq_ok false strict read]
  constructor
  case code =>
    intro json other
    rw [evaluates, formats, CheckRequest.run_of_parse_eq_ok other false read]
    exact ⟨rfl, rfl⟩
  case wrong =>
    intro json strict
    rw [evaluates, uncomplained]
    exact iff_of_false nofun (fun complained => complained rfl)
  case malformed =>
    intro strict
    rw [uncomplained, read]
    exact iff_of_false (fun complained => complained rfl) nofun
  case reported =>
    intro _ strict
    rw [CheckRequest.run_of_parse_eq_ok true strict read, read]
    exact CheckedTemplate.parse?_value nofun
  case printed =>
    intro _
    rw [evaluates, formats]
    exact ⟨parsed, atom, markers, results, read, .of_comesTo positive found comes areResults⟩
  case unmarked =>
    intro json succeeded
    rw [CheckRequest.run_of_parse_eq_ok json true read] at succeeded
    have unwarned : parsed.warnings = [] := by
      cases warned : parsed.warnings with
      | nil =>
          rfl
      | cons warning rest =>
          rw [warned] at succeeded
          contradiction
    rw [evaluates, unmarked unwarned]
    exact ⟨atom, EvalRequest.parse?_resultValue atom []⟩

end OutcomesAgree

/-- The commands for a template that draws no random numbers and has a result on every
track of a tag file that can be read. -/
theorem CommandLines.agree {options : Options} {template file : String} {track : Nat}
    (commandLines : CommandLines options template file track)
    {files : String → Option String} {tracks : List Fields}
    (loaded : TagFile.load files options.caseSensitive file = .ok tracks)
    (positive : 1 ≤ track) (within : track ≤ tracks.length)
    (undrawn : ∀ parsed, Template.parse options.maxDepth template = .ok parsed →
      ∀ call ∈ parsed.calls, call.isRandom = false)
    (returning : ∀ parsed, Template.parse options.maxDepth template = .ok parsed →
      ∀ fields ∈ tracks, ∃ draw,
        Returns (parsed.evaluate { track := .ofFields fields, options, draw }))
    (evalDraws formatDraws checkDraws : Nat → Nat → UInt32) :
    OutcomesAgree options template tracks track
      (fun json => run (commandLines.eval json) files evalDraws)
      (fun json => run (commandLines.format json) files formatDraws)
      (fun json strict => run (commandLines.check json strict) files checkDraws) := by
  -- Both requests get the same fields, one from its track and one from all tracks.
  obtain ⟨fields, selected, found⟩ := exists_selectTrack? positive within
  have all (json : Bool) :
      EvalRequest.allFields ⟨template, [], some file, track, json⟩ options files = .ok fields :=
    EvalRequest.allFields_of_load rfl loaded selected
  simp only [commandLines.run_eval, commandLines.run_format, commandLines.run_check]
  cases read : Template.parse options.maxDepth template with
  | error error =>
      apply OutcomesAgree.of_malformed read
      · intro json
        exact EvalRequest.run_of_parse_eq_error [] _ (all json) read
      · intro json
        exact FormatRequest.run_of_parse_eq_error [] _ read
  | ok parsed =>
      have comesTo (fields : Fields) (member : fields ∈ tracks) :
          ∃ atom markers, parsed.ComesTo options fields atom markers ∧
            (parsed.warnings = [] → markers = []) := by
        obtain ⟨draw, returned⟩ := returning parsed read fields member
        exact Template.exists_comesTo (undrawn parsed read) returned
      have each (fields : Fields) (member : fields ∈ tracks) :
          ∃ atom markers, parsed.ComesTo options fields atom markers := by
        obtain ⟨atom, markers, comes, -⟩ := comesTo fields member
        exact ⟨atom, markers, comes⟩
      obtain ⟨atom, markers, comes, unmarked⟩ := comesTo fields (List.mem_of_getElem? found)
      obtain ⟨results, areResults, formats⟩ :=
        FormatRequest.run_of_comesTo [] formatDraws loaded read each
      refine OutcomesAgree.of_wellFormed positive read found comes unmarked areResults ?_ formats
      intro json
      exact EvalRequest.run_of_comesTo [] _ (all json) read comes

/-- One field in capitals. -/
def capitals : Template := ⟨[.call "upper" [⟨[.field "mood"]⟩] 0]⟩

theorem isRandom_of_mem_calls_capitals :
    ∀ call ∈ capitals.calls, call.isRandom = false := by
  intro call member
  obtain rfl : call = ⟨"upper", [⟨[.field "mood"]⟩], 0⟩ := by
    simpa [capitals, Template.calls, callsInSegments, Segment.calls, callsInArguments]
      using member
  cbv

theorem warnings_capitals : capitals.warnings = [] := by
  cbv

/-- The template comes to the mood in capitals, and no markers are written. -/
theorem comesTo_capitals (options : Options) (fields : Fields) :
    capitals.ComesTo options fields
      (((Track.ofFields fields).resolve "mood" options).deriveText Text.upper) [] := by
  have member : ⟨"upper", .upper, .exact 1, .string⟩ ∈ Catalog.entries := by
    decide
  have replied (draw : UInt32) (text : Argument) :
      invoke draw "upper" [text] = .ok (.value (text.atom.deriveText Text.upper) .all) :=
    invoke_of_mem draw member rfl
  intro draw
  rw [Template.outcome_eq, Template.markers_eq_nil_of_warnings_eq_nil warnings_capitals]
  simp [capitals, Template.value, segmentsValue, Segment.value, argumentValues, replied,
    Rendered.counted, Reply.atom, Atom.append_absent, bind, Except.bind, Except.map, pure,
    Except.pure]
  rfl

/-- The second track has no mood. -/
theorem CommandLines.agree_sample :
    let options : Options := { magic := false }
    let tracks : List Fields :=
      [⟨[("MOOD", "calm"), ("LIVE", "false"), ("YEAR", "1999")]⟩, ⟨[("YEAR", "1999")]⟩]
    let commandLines : CommandLines options "$upper(%mood%)" "tags.json" 1 :=
      .spelledOut false false _ (by decide) (by decide)
    let evaluated (json : Bool) := run (commandLines.eval json) (fun _ => some TagFile.sample)
      fun _ _ => 0
    let formatted (json : Bool) := run (commandLines.format json) (fun _ => some TagFile.sample)
      fun _ _ => 1
    let checked (json strict : Bool) := run (commandLines.check json strict)
      (fun _ => some TagFile.sample) fun _ _ => 2
    OutcomesAgree options "$upper(%mood%)" tracks 1 evaluated formatted checked ∧
      (checked true true).status.code = 0 ∧
      (checked true true).output =
        "[\n  \x7b\n    \"template\": \"$upper(%mood%)\",\n    \"error\": null,\n" ++
          "    \"position\": null,\n    \"warnings\": []\n  \x7d\n]\n" ∧
      (evaluated true).output =
        "\x7b\n  \"value\": \"CALM\",\n  \"present\": true,\n  \"truth\": true,\n" ++
          "  \"markers\": []\n\x7d\n" ∧
      (formatted true).output =
        "[\n  \x7b\n    \"track\": 1,\n    \"value\": \"CALM\",\n    \"truth\": true\n  \x7d,\n" ++
          "  \x7b\n    \"track\": 2,\n    \"value\": \"\",\n    \"truth\": false\n  \x7d\n]\n" := by
  intro options tracks commandLines evaluated formatted checked
  have loaded : TagFile.load (fun _ => some TagFile.sample) false "tags.json" = .ok tracks :=
    TagFile.load_sample rfl "tags.json"
  have accepted : Template.parse options.maxDepth "$upper(%mood%)" = .ok capitals := by
    rfl
  have only (parsed : Template)
      (read : Template.parse options.maxDepth "$upper(%mood%)" = .ok parsed) :
      capitals = parsed :=
    Except.ok.inj (accepted.symm.trans read)
  have agree : OutcomesAgree options "$upper(%mood%)" tracks 1 evaluated formatted checked := by
    apply commandLines.agree loaded (by decide) (by decide)
    · intro parsed read
      rw [← only parsed read]
      exact isRandom_of_mem_calls_capitals
    · intro parsed read fields _
      rw [← only parsed read]
      exact ⟨fun _ => 0, (comesTo_capitals options fields).returns _⟩
  have checks (strict : Bool) : checked true strict =
      .success (document (.array [CheckedTemplate.value ⟨"$upper(%mood%)", .ok []⟩])) := by
    have ran := CheckRequest.run_of_parse_eq_ok true strict accepted
    rw [warnings_capitals] at ran
    refine (commandLines.run_check true strict _ _).trans (ran.trans ?_)
    cases strict <;> rfl
  have succeeded : (evaluated true).status.code = 0 := by
    rw [(agree.code true true).2, checks false]
    rfl
  have calm : capitals.ComesTo options ⟨[("MOOD", "calm"), ("LIVE", "false"), ("YEAR", "1999")]⟩
      ⟨some "CALM", true⟩ [] :=
    comesTo_capitals options _
  have moodless : capitals.ComesTo options ⟨[("YEAR", "1999")]⟩ .absent [] :=
    comesTo_capitals options _
  refine ⟨agree, ?_, ?_, ?_⟩
  · rw [checks]
    rfl
  · rw [checks]
    rfl
  obtain ⟨parsed, atom, markers, results, read, shows⟩ := agree.printed succeeded
  obtain rfl := only parsed read
  obtain ⟨fields, found, comes⟩ := shows.comesTo
  obtain rfl := Option.some.inj found
  obtain ⟨rfl, rfl⟩ := comes.unique calm
  obtain ⟨first, second, rfl⟩ := List.length_eq_two.mp shows.areResults.length
  obtain ⟨other, others, otherComes, listed⟩ := shows.areResults.each 1 _ rfl
  obtain ⟨rfl, rfl⟩ := otherComes.unique moodless
  obtain rfl := Option.some.inj shows.inPlace
  obtain rfl := Option.some.inj listed
  rw [shows.evaluates, shows.formats]
  exact ⟨rfl, rfl⟩

end CommandLine

end TitleFormatting
