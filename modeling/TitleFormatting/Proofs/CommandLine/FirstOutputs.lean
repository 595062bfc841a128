import Mathlib.Data.Finset.Card
import TitleFormatting.Proofs.CommandLine.Agreement

/-!
# Outputs that are printed once

What has been emitted is recorded as a set, and an output is new exactly if it is not in
the set.  A run that leaves out what was printed before therefore prints the first of each
text, whatever else the two runs draw or print.  Numbers are given to the tracks before
anything is left out.
-/

namespace TitleFormatting

/-! ## Recorded outputs -/

namespace DistinctOutputs

/-- What is recorded after these outputs, given one after the other. -/
def after (outputs : List String) : DistinctOutputs :=
  outputs.foldl (fun seen output => (seen.insert output).2) empty

/-- These outputs are recorded, each of them once. -/
structure Holds (seen : DistinctOutputs) (outputs : List String) : Prop where
  distinct : seen.outputs.Nodup
  mem_iff : ∀ output, output ∈ seen.outputs ↔ output ∈ outputs

variable {seen : DistinctOutputs} {outputs : List String} {output : String}

theorem insert_of_mem (known : output ∈ seen.outputs) : seen.insert output = (false, seen) :=
  if_pos (List.contains_iff_mem.mpr known)

theorem insert_of_notMem (new : output ∉ seen.outputs) :
    seen.insert output = (true, ⟨output :: seen.outputs⟩) :=
  if_neg fun known => new (List.contains_iff_mem.mp known)

theorem Holds.fst_insert_iff (holds : seen.Holds outputs) :
    (seen.insert output).1 = true ↔ output ∉ outputs := by
  rw [← holds.mem_iff output]
  by_cases known : output ∈ seen.outputs
  · rw [insert_of_mem known]
    simp [known]
  · rw [insert_of_notMem known]
    simp [known]

theorem holds_empty : empty.Holds [] :=
  ⟨List.nodup_nil, fun _ => Iff.rfl⟩

theorem Holds.insert (holds : seen.Holds outputs) (output : String) :
    (seen.insert output).2.Holds (outputs ++ [output]) := by
  by_cases known : output ∈ seen.outputs
  · rw [insert_of_mem known]
    refine ⟨holds.distinct, fun other => ?_⟩
    rw [List.mem_append, List.mem_singleton, holds.mem_iff, or_iff_left_of_imp]
    rintro rfl
    exact (holds.mem_iff other).mp known
  · rw [insert_of_notMem known]
    refine ⟨List.nodup_cons.mpr ⟨known, holds.distinct⟩, fun other => ?_⟩
    rw [List.mem_cons, List.mem_append, List.mem_singleton, holds.mem_iff, or_comm]

theorem holds_after (outputs : List String) : (after outputs).Holds outputs := by
  suffices run : ∀ (more earlier : List String) (seen : DistinctOutputs), seen.Holds earlier →
      (more.foldl (fun seen output => (seen.insert output).2) seen).Holds (earlier ++ more) by
    exact run outputs [] empty holds_empty
  intro more
  induction more with
  | nil =>
      intro earlier seen holds
      rw [List.append_nil]
      exact holds
  | cons output rest inductionHypothesis =>
      intro earlier seen holds
      rw [List.append_cons]
      exact inductionHypothesis _ _ (holds.insert output)

theorem Holds.size_eq (holds : seen.Holds outputs) : seen.size = outputs.toFinset.card := by
  have same : outputs.toFinset = seen.outputs.toFinset := by
    ext output
    rw [List.mem_toFinset, List.mem_toFinset, holds.mem_iff]
  rw [same, List.toFinset_card_of_nodup holds.distinct, size]

end DistinctOutputs

namespace CommandLine

/-! ## The first track of each text -/

/-- No earlier track among the results has the text of this one.  An absent text counts as
an empty one. -/
def FormattedTrack.IsFirstIn (results : List FormattedTrack) (result : FormattedTrack) : Prop :=
  ∀ earlier ∈ results, earlier.track < result.track →
    earlier.atom.value.getD "" ≠ result.atom.value.getD ""

instance (results : List FormattedTrack) (result : FormattedTrack) :
    Decidable (result.IsFirstIn results) :=
  List.decidableBAll _ _

/-- The results whose text no earlier track has. -/
def firstResults (results : List FormattedTrack) : List FormattedTrack :=
  results.filter fun result => decide (result.IsFirstIn results)

/-- The tracks are numbered in the order of the results. -/
def Numbered (results : List FormattedTrack) : Prop :=
  results.Pairwise fun first second => first.track < second.track

namespace FormattedTrack

variable {first result : FormattedTrack} {rest : List FormattedTrack}

theorem isFirstIn_cons_self (numbered : Numbered (first :: rest)) :
    first.IsFirstIn (first :: rest) := by
  intro earlier member before
  rcases List.mem_cons.mp member with rfl | later
  · exact absurd before (Nat.lt_irrefl _)
  · have behind := (List.pairwise_cons.mp numbered).1 earlier later
    exact absurd before behind.not_gt

theorem isFirstIn_cons_iff (numbered : Numbered (first :: rest)) (member : result ∈ rest) :
    result.IsFirstIn (first :: rest) ↔
      first.atom.text ≠ result.atom.text ∧ result.IsFirstIn rest := by
  have before := (List.pairwise_cons.mp numbered).1 result member
  rw [IsFirstIn, List.forall_mem_cons, forall_prop_of_true before]
  rfl

/-- What is left of the results are the first tracks of the texts that are new. -/
theorem firstOutputs_eq {seen : DistinctOutputs} {outputs : List String}
    {results : List FormattedTrack} (holds : seen.Holds outputs) (numbered : Numbered results) :
    firstOutputs seen results =
      results.filter fun result =>
        decide (result.atom.text ∉ outputs ∧ result.IsFirstIn results) := by
  induction results generalizing seen outputs with
  | nil =>
      rfl
  | cons first rest inductionHypothesis =>
      have later := (List.pairwise_cons.mp numbered).2
      have own := isFirstIn_cons_self numbered
      rw [firstOutputs]
      -- The first result is kept or dropped by its text alone.  In both cases its text is
      -- among the outputs for the results behind it.
      by_cases known : first.atom.text ∈ outputs
      · have refused := DistinctOutputs.insert_of_mem ((holds.mem_iff _).mpr known)
        have dropped : ¬ decide (first.atom.text ∉ outputs ∧
            first.IsFirstIn (first :: rest)) = true := by
          simp [known]
        rw [refused, List.filter_cons, if_neg dropped]
        refine (inductionHypothesis holds later).trans (List.filter_congr fun result member => ?_)
        rw [decide_eq_decide, isFirstIn_cons_iff numbered member]
        constructor
        · rintro ⟨new, isFirst⟩
          refine ⟨new, ?_, isFirst⟩
          intro same
          exact new (same ▸ known)
        · rintro ⟨new, -, isFirst⟩
          exact ⟨new, isFirst⟩
      · have accepted :=
          DistinctOutputs.insert_of_notMem (mt (holds.mem_iff first.atom.text).mp known)
        have recorded := holds.insert first.atom.text
        have kept : decide (first.atom.text ∉ outputs ∧
            first.IsFirstIn (first :: rest)) = true :=
          decide_eq_true ⟨known, own⟩
        rw [accepted] at recorded
        rw [accepted, List.filter_cons, if_pos kept]
        refine congrArg (first :: ·) ((inductionHypothesis recorded later).trans
          (List.filter_congr fun result member => ?_))
        rw [decide_eq_decide, isFirstIn_cons_iff numbered member, List.mem_append, not_or,
          List.mem_singleton, and_assoc, ne_comm]

end FormattedTrack

/-! ## Runs over tracks -/

namespace FormatRun

variable {compiled : Compiled} {options : Options}

theorem numbered_ofTracks (compiled : Compiled) (options : Options)
    (draws : Nat → Nat → UInt32) (number : Nat) (tracks : List Fields) :
    (∀ result ∈ (ofTracks compiled options draws number tracks).results,
      number ≤ result.track) ∧
      Numbered (ofTracks compiled options draws number tracks).results := by
  induction tracks generalizing number with
  | nil =>
      exact ⟨List.forall_mem_nil _, .nil⟩
  | cons fields rest inductionHypothesis =>
      rw [ofTracks]
      cases compiled.applyWithMarkers (.ofFields fields) options (draws number) with
      | error fault =>
          exact ⟨List.forall_mem_nil _, .nil⟩
      | ok produced =>
          obtain ⟨least, numbered⟩ := inductionHypothesis (number + 1)
          constructor
          · refine List.forall_mem_cons.mpr ⟨Nat.le_refl _, fun result member => ?_⟩
            exact (Nat.le_succ number).trans (least result member)
          · exact List.pairwise_cons.mpr ⟨least, numbered⟩

theorem ofTracks_drawing (undrawn : ∀ call ∈ compiled.template.calls, call.isRandom = false)
    (options : Options) (draws another : Nat → Nat → UInt32) (number : Nat)
    (tracks : List Fields) :
    ofTracks compiled options another number tracks =
      ofTracks compiled options draws number tracks := by
  induction tracks generalizing number with
  | nil =>
      rfl
  | cons fields rest inductionHypothesis =>
      have same : compiled.applyWithMarkers (.ofFields fields) options (another number) =
          compiled.applyWithMarkers (.ofFields fields) options (draws number) := by
        rw [compiled.applyWithMarkers_eq_outcome, compiled.applyWithMarkers_eq_outcome,
          Template.outcome_drawing undrawn]
      rw [ofTracks, ofTracks, inductionHypothesis, same]

/-- A run that comes to its end has a result for every track. -/
theorem comesTo_of_fault_eq_none
    (undrawn : ∀ call ∈ compiled.template.calls, call.isRandom = false)
    {draws : Nat → Nat → UInt32} {number : Nat} {tracks : List Fields}
    (ended : (ofTracks compiled options draws number tracks).fault = none) :
    ∀ fields ∈ tracks, ∃ atom markers,
      compiled.template.ComesTo options fields atom markers := by
  induction tracks generalizing number with
  | nil =>
      exact List.forall_mem_nil _
  | cons fields rest inductionHypothesis =>
      rw [ofTracks] at ended
      cases applied : compiled.applyWithMarkers (.ofFields fields) options (draws number) with
      | error fault =>
          rw [applied] at ended
          contradiction
      | ok produced =>
          rw [applied] at ended
          refine List.forall_mem_cons.mpr ⟨?_, inductionHypothesis ended⟩
          obtain ⟨result, evaluated, -⟩ := Except.bind_eq_ok_iff.mp applied
          obtain ⟨atom, markers, comes, -⟩ :=
            Template.exists_comesTo undrawn ⟨result, evaluated⟩
          exact ⟨atom, markers, comes⟩

theorem distinct_eq {run : FormatRun} (numbered : Numbered run.results) :
    run.distinct = ⟨firstResults run.results, run.fault⟩ := by
  rw [distinct, FormattedTrack.firstOutputs_eq DistinctOutputs.holds_empty numbered]
  simp only [List.not_mem_nil, not_false_eq_true, true_and]
  rfl

end FormatRun

/-! ## The two commands -/

namespace FormatRequest

variable {options : Options} {template file : String} {json : Bool}
  {files : String → Option String}

/-- Without random numbers, leaving out results is all that the two requests differ in. -/
theorem result_unique (history : List Formatter.Request) (file : String) (json : Bool)
    (files : String → Option String)
    (undrawn : ∀ parsed, Template.parse options.maxDepth template = .ok parsed →
      ∀ call ∈ parsed.calls, call.isRandom = false)
    (draws another : Nat → Nat → UInt32) :
    result ⟨template, file, true, json⟩ (.after options history) files another =
      (result ⟨template, file, false, json⟩ (.after options history) files draws).map
        FormatRun.distinct := by
  rw [result_after_eq, result_after_eq]
  cases compiles : Compiled.compile template options with
  | error error =>
      rfl
  | ok compiled =>
      have read := (Compiled.compile_eq_ok_iff.mp compiles).2
      cases TagFile.load files options.caseSensitive file with
      | error error =>
          rfl
      | ok tracks =>
          have same :=
            FormatRun.ofTracks_drawing (undrawn _ read) options draws another 1 tracks
          simp only [Except.mapError, Except.bind_ok, same]
          rfl

variable {formatter : Formatter}

theorem run_of_result_eq_error {unique : Bool} {draws : Nat → Nat → UInt32}
    {failure : Failure}
    (failed : result ⟨template, file, unique, json⟩ formatter files draws = .error failure) :
    run ⟨template, file, unique, json⟩ formatter files draws = failure.outcome "" := by
  rw [run, failed]

theorem run_of_result_eq_ok {unique : Bool} {draws : Nat → Nat → UInt32}
    {results : List FormattedTrack}
    (ended : result ⟨template, file, unique, json⟩ formatter files draws =
      .ok ⟨results, none⟩) :
    run ⟨template, file, unique, json⟩ formatter files draws =
      .success (printed json results) := by
  rw [run, ended, printed]

theorem run_of_halted {unique : Bool} {draws : Nat → Nat → UInt32}
    {results : List FormattedTrack} {fault : Fault}
    (halted : result ⟨template, file, unique, json⟩ formatter files draws =
      .ok ⟨results, some fault⟩) :
    (run ⟨template, file, unique, json⟩ formatter files draws).status = .halted ∧
      (run ⟨template, file, unique, json⟩ formatter files draws).complaints =
        [fault.message] := by
  rw [run, halted]
  exact ⟨rfl, rfl⟩

theorem status_outcome_ne_success (failure : Failure) (output : String) :
    (failure.outcome output).status ≠ .success := by
  rw [Failure.outcome]
  cases failure.complaints with
  | error fault =>
      exact ExitStatus.noConfusion
  | ok complaints =>
      cases failure <;> exact ExitStatus.noConfusion

/-- What the run of a request rests on. -/
theorem exists_of_result_eq_ok {history : List Formatter.Request}
    {draws : Nat → Nat → UInt32} {run : FormatRun}
    (ran : result ⟨template, file, false, json⟩ (.after options history) files draws =
      .ok run) :
    ∃ parsed tracks, Template.parse options.maxDepth template = .ok parsed ∧
      TagFile.load files options.caseSensitive file = .ok tracks ∧
      run = FormatRun.ofTracks ⟨template, parsed⟩ options draws 1 tracks := by
  rw [result_after_eq] at ran
  cases compiles : Compiled.compile template options with
  | error error =>
      rw [compiles] at ran
      contradiction
  | ok compiled =>
      obtain ⟨source, parsed⟩ := compiled
      obtain ⟨rfl, read⟩ := Compiled.compile_eq_ok_iff.mp compiles
      cases loads : TagFile.load files options.caseSensitive file with
      | error error =>
          rw [compiles, loads] at ran
          contradiction
      | ok tracks =>
          rw [compiles, loads] at ran
          exact ⟨parsed, tracks, read, rfl, (Except.ok.inj ran).symm⟩

end FormatRequest

/-- A run that prints every result and one that leaves out what was printed before. -/
structure PrintsFirsts (options : Options) (template file : String) (json : Bool)
    (files : String → Option String) (plain unique : Outcome) : Prop where
  status : unique.status = plain.status
  complaints : unique.complaints = plain.complaints
  printed : plain.status = .success →
    ∃ (parsed : Template) (tracks : List Fields) (results : List FormattedTrack),
      Template.parse options.maxDepth template = .ok parsed ∧
      TagFile.load files options.caseSensitive file = .ok tracks ∧
      AreResults parsed options 1 tracks results ∧
      plain.output = FormatRequest.printed json results ∧
      unique.output = FormatRequest.printed json (firstResults results) ∧
      plain.Emits json results ∧ unique.Emits json (firstResults results)

theorem FormatRequest.printsFirsts {options : Options} {template file : String} (json : Bool)
    (files : String → Option String)
    (undrawn : ∀ parsed, Template.parse options.maxDepth template = .ok parsed →
      ∀ call ∈ parsed.calls, call.isRandom = false)
    (history : List Formatter.Request) (draws another : Nat → Nat → UInt32) :
    PrintsFirsts options template file json files
      (run ⟨template, file, false, json⟩ (.after options history) files draws)
      (run ⟨template, file, true, json⟩ (.after options history) files another) := by
  have left := result_unique history file json files undrawn draws another
  cases ran : result ⟨template, file, false, json⟩ (.after options history) files draws with
  | error failure =>
      rw [ran] at left
      rw [run_of_result_eq_error ran, run_of_result_eq_error left]
      refine ⟨rfl, rfl, fun succeeded => ?_⟩
      exact absurd succeeded (status_outcome_ne_success failure "")
  | ok formatted =>
      obtain ⟨parsed, tracks, read, loaded, formats⟩ := exists_of_result_eq_ok ran
      have numbered : Numbered formatted.results := by
        rw [formats]
        exact (FormatRun.numbered_ofTracks _ options draws 1 tracks).2
      rw [ran, Except.map, FormatRun.distinct_eq numbered] at left
      obtain ⟨results, fault⟩ := formatted
      cases fault with
      | some fault =>
          obtain ⟨status, complaints⟩ := run_of_halted ran
          obtain ⟨otherStatus, otherComplaints⟩ := run_of_halted left
          refine ⟨otherStatus.trans status.symm, otherComplaints.trans complaints.symm, ?_⟩
          intro succeeded
          rw [status] at succeeded
          contradiction
      | none =>
          rw [run_of_result_eq_ok ran, run_of_result_eq_ok left]
          refine ⟨rfl, rfl, fun _ => ?_⟩
          have comes := FormatRun.comesTo_of_fault_eq_none (undrawn parsed read)
            (congrArg FormatRun.fault formats.symm)
          obtain ⟨others, same, areResults⟩ :=
            FormatRun.ofTracks_eq ⟨template, parsed⟩ draws comes 1
          obtain rfl : results = others :=
            congrArg FormatRun.results (formats.trans same)
          exact ⟨parsed, tracks, results, read, loaded, areResults, rfl, rfl,
            emits_printed json results, emits_printed json (firstResults results)⟩

/-- An output is new exactly if it was not given before, and the size is the number of the
different ones.  So, where no random number is drawn, the run that leaves out what was
printed before ends as the other run does; when they come to their end it prints those of
its results whose text no earlier track has, with their numbers. -/
theorem unique_prints_first_outputs :
    (∀ (before : List String) (output : String),
      ((DistinctOutputs.after before).insert output).1 = true ↔ output ∉ before) ∧
    (∀ outputs, (DistinctOutputs.after outputs).size = outputs.toFinset.card) ∧
    ∀ {options : Options} {template file : String} {json : Bool}
      {plainArguments uniqueArguments : List String},
      Invocation.ofArguments plainArguments =
        .ok ⟨options, .format ⟨template, file, false, json⟩⟩ →
      Invocation.ofArguments uniqueArguments =
        .ok ⟨options, .format ⟨template, file, true, json⟩⟩ →
      (∀ parsed, Template.parse options.maxDepth template = .ok parsed →
        ∀ call ∈ parsed.calls, call.isRandom = false) →
      ∀ (files : String → Option String) (draws another : Nat → Nat → UInt32),
        PrintsFirsts options template file json files
          (run plainArguments files draws) (run uniqueArguments files another) := by
  refine ⟨?recorded, ?counted, ?runs⟩
  case recorded =>
    intro before output
    exact (DistinctOutputs.holds_after before).fst_insert_iff
  case counted =>
    intro outputs
    exact (DistinctOutputs.holds_after outputs).size_eq
  case runs =>
    intro options template file json plainArguments uniqueArguments plainAsks uniqueAsks
      undrawn files draws another
    rw [run, plainAsks, run, uniqueAsks]
    exact FormatRequest.printsFirsts json files undrawn [] draws another

/-- Both tracks of the file have the same mood. -/
theorem unique_prints_first_outputs_sample :
    let arguments (json unique : Bool) : List String := spelledOut "format"
      (lookupFlags true true ++ (flagged "unique" unique ++
        (flagged "json" json ++ [valued "tags" "tags.json"]))) ["$upper(%mood%)"]
    let outcome (json unique : Bool) : Outcome :=
      run (arguments json unique) (fun _ => some TagFile.sample) fun _ _ => if unique then 1 else 0
    (∀ json unique, (outcome json unique).status = .success) ∧
      (outcome false false).output = "CALM\nCALM\n" ∧
      (outcome false true).output = "CALM\n" ∧
      (outcome true false).output =
        "[\n  \x7b\n    \"track\": 1,\n    \"value\": \"CALM\",\n    \"truth\": true\n  \x7d,\n" ++
          "  \x7b\n    \"track\": 2,\n    \"value\": \"CALM\",\n    \"truth\": true\n  \x7d\n]\n" ∧
      (outcome true true).output =
        "[\n  \x7b\n    \"track\": 1,\n    \"value\": \"CALM\",\n    \"truth\": true\n  \x7d\n" ++
          "]\n" := by
  intro arguments outcome
  let options : Options := { caseSensitive := true }
  let sets : List Fields :=
    [⟨[("Mood", "low, true, -7"), ("live", "false"), ("mood", "calm"), ("year", "1999")]⟩,
      ⟨[("Mood", "low, true, -7"), ("mood", "calm"), ("year", "1999")]⟩]
  have loaded : TagFile.load (fun _ => some TagFile.sample) true "tags.json" = .ok sets :=
    TagFile.load_sample rfl "tags.json"
  have accepted : Template.parse options.maxDepth "$upper(%mood%)" = .ok capitals := by
    rfl
  have asks (json unique : Bool) : Invocation.ofArguments (arguments json unique) =
      .ok ⟨options, .format ⟨"$upper(%mood%)", "tags.json", unique, json⟩⟩ :=
    Invocation.ofArguments_format true true (by decide) json "$upper(%mood%)" unique
  have undrawn (parsed : Template)
      (read : Template.parse options.maxDepth "$upper(%mood%)" = .ok parsed) :
      ∀ call ∈ parsed.calls, call.isRandom = false := by
    rw [← Except.ok.inj (accepted.symm.trans read)]
    exact isRandom_of_mem_calls_capitals
  have comes : ∀ fields ∈ sets, capitals.ComesTo options fields ⟨some "CALM", true⟩ [] := by
    refine List.forall_mem_cons.mpr ⟨?_, List.forall_mem_singleton.mpr ?_⟩
    · exact comesTo_capitals options _
    · exact comesTo_capitals options _
  have outputs (json : Bool) :
      (outcome json false).status = .success ∧ (outcome json true).status = .success ∧
        (outcome json false).output = FormatRequest.printed json
          [⟨1, ⟨some "CALM", true⟩⟩, ⟨2, ⟨some "CALM", true⟩⟩] ∧
        (outcome json true).output = FormatRequest.printed json [⟨1, ⟨some "CALM", true⟩⟩] := by
    have prints : PrintsFirsts options "$upper(%mood%)" "tags.json" json
        (fun _ => some TagFile.sample) (outcome json false) (outcome json true) :=
      unique_prints_first_outputs.2.2 (asks json false) (asks json true) undrawn _ _ _
    have succeeded : (outcome json false).status = .success := by
      obtain ⟨results, -, runs⟩ := FormatRequest.run_of_comesTo [] (fun _ _ => 0) loaded accepted
        fun fields member => ⟨_, [], comes fields member⟩
      have asked : outcome json false =
          FormatRequest.run ⟨"$upper(%mood%)", "tags.json", false, json⟩ (.after options [])
            (fun _ => some TagFile.sample) fun _ _ => 0 := by
        change run (arguments json false) _ _ = _
        rw [run, asks json false]
        rfl
      rw [asked, runs json]
      rfl
    obtain ⟨parsed, tracks, results, read, loads, areResults, plain, unique, -, -⟩ :=
      prints.printed succeeded
    obtain rfl := Except.ok.inj (accepted.symm.trans read)
    obtain rfl := Except.ok.inj (loaded.symm.trans loads)
    obtain ⟨first, second, rfl⟩ := List.length_eq_two.mp areResults.length
    have each (index : Nat) (fields : Fields) (found : sets[index]? = some fields) :
        [first, second][index]? = some ⟨1 + index, ⟨some "CALM", true⟩⟩ := by
      obtain ⟨atom, markers, comesTo, listed⟩ := areResults.each index fields found
      obtain ⟨rfl, -⟩ := comesTo.unique (comes fields (List.mem_of_getElem? found))
      exact listed
    obtain rfl := Option.some.inj (each 0 _ rfl)
    obtain rfl := Option.some.inj (each 1 _ rfl)
    exact ⟨succeeded, prints.status.trans succeeded, plain, unique⟩
  refine ⟨?_, ?_, ?_, ?_, ?_⟩
  · intro json unique
    cases unique with
    | false =>
        exact (outputs json).1
    | true =>
        exact (outputs json).2.1
  · rw [(outputs false).2.2.1]
    rfl
  · rw [(outputs false).2.2.2]
    rfl
  · rw [(outputs true).2.2.1]
    rfl
  · rw [(outputs true).2.2.2]
    rfl

end CommandLine

end TitleFormatting
