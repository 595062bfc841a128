import TitleFormatting.Proofs.CommandLine.Printed
import TitleFormatting.Proofs.Compilation.Formatter
import TitleFormatting.Proofs.Evaluation.Reads
import TitleFormatting.Proofs.Lint.Agreement
import TitleFormatting.Proofs.Returning
import TitleFormatting.Proofs.TagFile.Carrying
import TitleFormatting.Proofs.Template.Blame

/-!
# What requests come to

One request has a formatter read its template and evaluate it at once, another compiles
the template first and applies it to every track.  What the formatter was asked for before
makes no difference to either.  Both come to what reading the template yields and, where no
random number is drawn, to its result on the fields of a track.
-/

namespace TitleFormatting

/-! ## Results on tracks -/

theorem Compiled.applyWithMarkers_eq_outcome (compiled : Compiled) (track : Track)
    (options : Options) (draw : Nat → UInt32) :
    compiled.applyWithMarkers track options draw =
      compiled.template.outcome { track, options, draw } := by
  rw [applyWithMarkers, Template.outcome]
  cases compiled.template.evaluate { track, options, draw } <;> rfl

/-- A template without warnings writes no markers. -/
theorem Template.markers_eq_nil_of_warnings_eq_nil {template : Template}
    (unwarned : template.warnings = []) (environment : Environment) :
    template.markers environment = [] := by
  have sublist := template.markers_sublist environment
  have matched := template.forall₂_rejections_warnings
  rw [unwarned, List.forall₂_nil_right_iff] at matched
  rwa [matched, List.sublist_nil] at sublist

/-- The template comes to this result on these fields, whatever numbers are drawn. -/
def Template.ComesTo (template : Template) (options : Options) (fields : Fields)
    (atom : Atom) (markers : List Marker) : Prop :=
  ∀ draw, template.outcome { track := .ofFields fields, options, draw } = .ok (atom, markers)

/-- An evaluation that draws no numbers and returns once always returns the same. -/
theorem Template.exists_comesTo {template : Template}
    (undrawn : ∀ call ∈ template.calls, call.isRandom = false) {options : Options}
    {fields : Fields} {draw : Nat → UInt32}
    (returning : Returns (template.evaluate { track := .ofFields fields, options, draw })) :
    ∃ atom markers, template.ComesTo options fields atom markers ∧
      (template.warnings = [] → markers = []) := by
  obtain ⟨⟨atom, after⟩, evaluated⟩ := returning
  refine ⟨atom, after.markers, ?_, ?_⟩
  · intro another
    rw [outcome_drawing undrawn _ options draw another [], outcome, evaluated]
    rfl
  · intro unwarned
    obtain ⟨value, -, recorded⟩ := Template.markers_of_evaluate evaluated
    rw [recorded, markers_eq_nil_of_warnings_eq_nil unwarned, List.append_nil]

theorem Template.ComesTo.unique {template : Template} {options : Options} {fields : Fields}
    {atom otherAtom : Atom} {markers otherMarkers : List Marker}
    (comes : template.ComesTo options fields atom markers)
    (otherComes : template.ComesTo options fields otherAtom otherMarkers) :
    atom = otherAtom ∧ markers = otherMarkers := by
  have draw : Nat → UInt32 := fun _ => 0
  have same := (comes draw).symm.trans (otherComes draw)
  exact Prod.mk.inj (Except.ok.inj same)

theorem Template.ComesTo.returns {template : Template} {options : Options} {fields : Fields}
    {atom : Atom} {markers : List Marker} (comes : template.ComesTo options fields atom markers)
    (draw : Nat → UInt32) :
    Returns (template.evaluate { track := .ofFields fields, options, draw }) := by
  have came := comes draw
  rw [Template.outcome] at came
  cases evaluated : template.evaluate { track := .ofFields fields, options, draw } with
  | error fault =>
      rw [evaluated] at came
      contradiction
  | ok result =>
      exact .ok result

namespace CommandLine

/-- These are the results of a template on tracks, numbered from the given number on. -/
structure AreResults (template : Template) (options : Options) (number : Nat)
    (tracks : List Fields) (results : List FormattedTrack) : Prop where
  length : results.length = tracks.length
  each : ∀ index fields, tracks[index]? = some fields → ∃ atom markers,
    template.ComesTo options fields atom markers ∧
      results[index]? = some (FormattedTrack.mk (number + index) atom)

theorem AreResults.cons {template : Template} {options : Options} {number : Nat}
    {fields : Fields} {tracks : List Fields} {results : List FormattedTrack} {atom : Atom}
    {markers : List Marker} (first : template.ComesTo options fields atom markers)
    (rest : AreResults template options (number + 1) tracks results) :
    AreResults template options number (fields :: tracks) (⟨number, atom⟩ :: results) where
  length := congrArg Nat.succ rest.length
  each index found inside := by
    cases index with
    | zero =>
        obtain rfl : fields = found := by
          simpa using inside
        exact ⟨atom, markers, first, rfl⟩
    | succ index =>
        obtain ⟨other, otherMarkers, comes, listed⟩ := rest.each index found inside
        refine ⟨other, otherMarkers, comes, ?_⟩
        rw [List.getElem?_cons_succ, listed, Nat.add_right_comm, Nat.add_assoc]

theorem AreResults.track_lt {template : Template} {options : Options} {number : Nat}
    {tracks : List Fields} {results : List FormattedTrack}
    (areResults : AreResults template options number tracks results) {result : FormattedTrack}
    (member : result ∈ results) : result.track < number + tracks.length := by
  -- The number is told by the place of the result, and places end where the tracks do.
  obtain ⟨index, inside⟩ := List.mem_iff_getElem?.mp member
  have within : index < tracks.length := by
    rw [← areResults.length]
    exact (List.getElem?_eq_some_iff.mp inside).1
  obtain ⟨atom, markers, -, listed⟩ :=
    areResults.each index _ (List.getElem?_eq_getElem within)
  obtain rfl := Option.some.inj (inside.symm.trans listed)
  exact Nat.add_lt_add_left within number

/-- Where every track has a result, a run over the tracks lists the results in order. -/
theorem FormatRun.ofTracks_eq (compiled : Compiled) {options : Options}
    (draws : Nat → Nat → UInt32) {tracks : List Fields}
    (each : ∀ fields ∈ tracks, ∃ atom markers,
      compiled.template.ComesTo options fields atom markers) (number : Nat) :
    ∃ results, ofTracks compiled options draws number tracks = ⟨results, none⟩ ∧
      AreResults compiled.template options number tracks results := by
  induction tracks generalizing number with
  | nil =>
      refine ⟨[], rfl, rfl, ?_⟩
      intro index fields impossible
      simp at impossible
  | cons first rest inductionHypothesis =>
      obtain ⟨⟨atom, markers, comes⟩, restCome⟩ := List.forall_mem_cons.mp each
      obtain ⟨results, ran, listed⟩ := inductionHypothesis restCome (number + 1)
      refine ⟨⟨number, atom⟩ :: results, ?_, listed.cons comes⟩
      rw [ofTracks, compiled.applyWithMarkers_eq_outcome, comes (draws number)]
      dsimp only
      rw [ran]

/-! ## Requests to a formatter -/

section Requests

variable (options : Options) (history : List Formatter.Request)
  (files : String → Option String)

theorem EvalRequest.result_after_eq (request : EvalRequest) (draw : Nat → UInt32) :
    request.result (.after options history) files draw =
      request.allFields options files >>= fun fields =>
        (Formatter.formatAfresh options request.template (.ofFields fields) draw).mapError
          (.ofFormatError request.template) := by
  have fixed : (Formatter.after options history).options = options := by
    rw [Formatter.after_eq]
  rw [result, fixed]
  refine Except.bind_congr_of_ok fun fields _ => ?_
  rw [← Formatter.formatWithMarkers_after_eq options history]

theorem FormatRequest.result_after_eq (request : FormatRequest)
    (draws : Nat → Nat → UInt32) :
    request.result (.after options history) files draws =
      ((Compiled.compile request.template options).mapError (.malformed · request.template)) >>=
        fun compiled =>
          ((TagFile.load files options.caseSensitive request.tagFile).mapError .tagFile) >>=
            fun tracks =>
              let run := FormatRun.ofTracks compiled options draws 1 tracks
              .ok (if request.unique then run.distinct else run) := by
  have fixed : (Formatter.after options history).options = options := by
    rw [Formatter.after_eq]
  rw [result, fixed, ← Formatter.compile_after_eq options history]
  cases (Formatter.after options history).compile request.template with
  | mk reply behind =>
      cases reply <;> rfl

end Requests

/-! ## Outcomes of requests -/

/-- A template that cannot be read leads to a complaint, whose text there is. -/
theorem Failure.outcome_malformed {limit : Nat} {source : String} {error : SyntaxError}
    (failed : Template.parse limit source = .error error) (output : String) :
    ∃ diagnostic, error.diagnostic source = .ok diagnostic ∧
      (malformed error source).outcome output =
        ⟨.dataError, output, complaintsOf diagnostic⟩ := by
  obtain ⟨diagnostic, diagnosed, -⟩ := SyntaxError.exists_diagnostic failed
  refine ⟨diagnostic, diagnosed, ?_⟩
  rw [outcome, complaints, diagnosed]
  rfl

section Outcomes

variable {options : Options} {files : String → Option String} {parsed : Template}
  {error : SyntaxError}

theorem EvalRequest.run_of_parse_eq_error {request : EvalRequest} {fields : Fields}
    (history : List Formatter.Request) (draw : Nat → UInt32)
    (all : request.allFields options files = .ok fields)
    (failed : Template.parse options.maxDepth request.template = .error error) :
    request.run (.after options history) files draw =
      (Failure.malformed error request.template).outcome "" := by
  rw [run, result_after_eq, all, Except.bind_ok, Formatter.formatAfresh, Compiled.compile,
    failed]
  rfl

theorem EvalRequest.run_of_comesTo {request : EvalRequest} {fields : Fields} {atom : Atom}
    {markers : List Marker} (history : List Formatter.Request) (draw : Nat → UInt32)
    (all : request.allFields options files = .ok fields)
    (read : Template.parse options.maxDepth request.template = .ok parsed)
    (comes : parsed.ComesTo options fields atom markers) :
    request.run (.after options history) files draw =
      .success (if request.json then document (resultValue atom markers)
        else lines [atom.text]) := by
  have compiled : Compiled.compile request.template options = .ok ⟨request.template, parsed⟩ :=
    Compiled.compile_eq_ok_iff.mpr ⟨rfl, read⟩
  have applied := (Compiled.mk request.template parsed).applyWithMarkers_eq_outcome
    (.ofFields fields) options draw
  rw [comes draw] at applied
  rw [run, result_after_eq, all, Except.bind_ok, Formatter.formatAfresh, compiled]
  simp only [applied, Except.mapError]

theorem FormatRequest.run_of_parse_eq_error {request : FormatRequest}
    (history : List Formatter.Request) (draws : Nat → Nat → UInt32)
    (failed : Template.parse options.maxDepth request.template = .error error) :
    request.run (.after options history) files draws =
      (Failure.malformed error request.template).outcome "" := by
  rw [run, result_after_eq, Compiled.compile, failed]
  rfl

theorem FormatRequest.run_of_comesTo {template file : String} {tracks : List Fields}
    (history : List Formatter.Request) (draws : Nat → Nat → UInt32)
    (loaded : TagFile.load files options.caseSensitive file = .ok tracks)
    (read : Template.parse options.maxDepth template = .ok parsed)
    (each : ∀ fields ∈ tracks, ∃ atom markers,
      parsed.ComesTo options fields atom markers) :
    ∃ results, AreResults parsed options 1 tracks results ∧
      ∀ json, FormatRequest.run ⟨template, file, false, json⟩ (.after options history) files
        draws = .success (printed json results) := by
  obtain ⟨results, ran, areResults⟩ :=
    FormatRun.ofTracks_eq ⟨template, parsed⟩ draws each 1
  have compiled : Compiled.compile template options = .ok ⟨template, parsed⟩ :=
    Compiled.compile_eq_ok_iff.mpr ⟨rfl, read⟩
  refine ⟨results, areResults, fun json => ?_⟩
  rw [run, result_after_eq, compiled, loaded]
  simp only [Except.mapError, Except.bind_ok, ran]
  rfl

/-- A check of a template that cannot be read. -/
theorem CheckRequest.run_of_parse_eq_error {template : String} (json strict : Bool)
    (failed : Template.parse options.maxDepth template = .error error) :
    ∃ diagnostic, error.diagnostic template = .ok diagnostic ∧
      CheckRequest.run ⟨[template], json, strict⟩ options =
        if json then
          ⟨.dataError, document (.array [CheckedTemplate.value ⟨template, .error error⟩]), []⟩
        else ⟨.dataError, "", CheckedTemplate.label 1 :: complaintsOf diagnostic⟩ := by
  obtain ⟨diagnostic, diagnosed, -⟩ := SyntaxError.exists_diagnostic failed
  have checked : CheckedTemplate.check options template = ⟨template, .error error⟩ := by
    rw [CheckedTemplate.check, failed]
    rfl
  refine ⟨diagnostic, diagnosed, ?_⟩
  cases json with
  | true =>
      simp [run, status, checked, CheckedTemplate.isMalformed]
  | false =>
      simp [run, status, checked, CheckedTemplate.isMalformed, CheckRun.ofChecked,
        CheckedTemplate.complaints, CheckedTemplate.report, diagnosed, lines, bind, Except.bind,
        pure, Except.pure]

/-- A check of a template that can be read. -/
theorem CheckRequest.run_of_parse_eq_ok {template : String} (json strict : Bool)
    (read : Template.parse options.maxDepth template = .ok parsed) :
    let checked : CheckedTemplate := ⟨template, .ok parsed.warnings⟩
    CheckRequest.run ⟨[template], json, strict⟩ options =
      ⟨if strict && !parsed.warnings.isEmpty then .dataError else .success,
        if json then document (.array [checked.value]) else lines (checked.report 1), []⟩ := by
  have checked : CheckedTemplate.check options template = ⟨template, .ok parsed.warnings⟩ := by
    rw [CheckedTemplate.check, read]
    rfl
  cases json with
  | true =>
      simp [run, status, checked, CheckedTemplate.isMalformed, CheckedTemplate.hasWarnings]
  | false =>
      simp [run, status, checked, CheckedTemplate.isMalformed, CheckedTemplate.hasWarnings,
        CheckRun.ofChecked, CheckedTemplate.complaints]

end Outcomes

end CommandLine

end TitleFormatting
