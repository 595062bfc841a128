import Mathlib
import TitleFormatting.Proofs.Evaluation.Drawing

/-!
# The fields that a template reads

An evaluation looks at a track only through the fields that its template names.  A
name stands for the field itself and, when it has a fallback rule, for the fields
that the rule tries; names that are case sensitive are tried there in lower case as
well.  Two tracks that answer alike on all of these give the same result.
-/

namespace TitleFormatting

/-! ## Names in templates -/

mutual

/-- The names of the fields in a segment, in branches that are not taken as well. -/
def Segment.fields : Segment → List String
  | .literal _ | .quoted _ => []
  | .field name => [name]
  | .call _ arguments _ => fieldsInArguments arguments
  | .conditional body => body.fields

/-- The names of all fields in a template, in the order of its source. -/
def Template.fields : Template → List String
  | ⟨segments⟩ => fieldsInSegments segments

def fieldsInSegments : List Segment → List String
  | [] => []
  | segment :: rest => segment.fields ++ fieldsInSegments rest

def fieldsInArguments : List Template → List String
  | [] => []
  | argument :: rest => argument.fields ++ fieldsInArguments rest

end

/-! ## Fields behind a name -/

/-- The fields that a rule tries, by their upper-case names. -/
def FallbackRule.fields : FallbackRule → List String
  | candidates names => names
  | trackArtist => ["ARTIST", "ALBUM ARTIST"]
  | trackNumber => ["TRACKNUMBER", "TRACK"]

/-- The names under which a rule looks for a field. -/
def Options.spellings (options : Options) (name : String) : List String :=
  if options.caseSensitive then [name, Text.lowerString name] else [name]

/-- The names under which fields are looked up for `%name%`. -/
def Options.namesRead (options : Options) (name : String) : List String :=
  fieldKey name options.caseSensitive ::
    if options.magic then
      match FallbackRule.find? (Text.lowerString name) with
      | some rule => rule.fields.flatMap options.spellings
      | none => []
    else []

/-- The names under which a template looks up fields. -/
def Template.namesRead (template : Template) (options : Options) : List String :=
  template.fields.flatMap options.namesRead

namespace Track

/-- The tracks give the same answers on these names. -/
def AgreeOn (first second : Track) (names : List String) : Prop :=
  ∀ name ∈ names, first.get? name = second.get? name ∧
    first.contains name = second.contains name

variable {first second : Track} {options : Options}

theorem AgreeOn.mono {fewer names : List String} (agreed : first.AgreeOn second names)
    (subset : fewer ⊆ names) : first.AgreeOn second fewer :=
  fun name member => agreed name (subset member)

theorem AgreeOn.of_flatMap {α : Type} {items : List α} {names : α → List String}
    (agreed : first.AgreeOn second (items.flatMap names)) :
    ∀ item ∈ items, first.AgreeOn second (names item) := by
  intro item member name inNames
  exact agreed name (List.mem_flatMap.mpr ⟨item, member, inNames⟩)

theorem fetch_eq_of_agreeOn {name : String}
    (agreed : first.AgreeOn second (options.spellings name)) :
    first.fetch name options = second.fetch name options := by
  rw [Options.spellings] at agreed
  rw [fetch, fetch]
  dsimp only
  by_cases sensitive : options.caseSensitive = true
  · rw [if_pos sensitive] at agreed
    have upper := agreed name List.mem_cons_self
    have lower := agreed (Text.lowerString name)
      (List.mem_cons_of_mem name List.mem_cons_self)
    rw [upper.1, lower.1, lower.2]
  · rw [if_neg sensitive] at agreed
    have upper := agreed name List.mem_cons_self
    rw [Bool.not_eq_true] at sensitive
    rw [upper.1, sensitive, Bool.false_and, Bool.false_and]
    rfl

theorem fetchFirst_congr {names : List String}
    (alike : ∀ name ∈ names, first.fetch name options = second.fetch name options) :
    first.fetchFirst names options = second.fetchFirst names options := by
  rw [fetchFirst, fetchFirst]
  induction names with
  | nil =>
      rfl
  | cons name rest inductionHypothesis =>
      rw [List.forall_mem_cons] at alike
      rw [List.findSome?_cons, List.findSome?_cons, alike.1, inductionHypothesis alike.2]

/-- A rule tries no other fields than its own. -/
theorem apply_congr {rule : FallbackRule}
    (alike : ∀ name ∈ rule.fields,
      first.fetch name options = second.fetch name options) :
    rule.apply first options = rule.apply second options := by
  cases rule with
  | candidates names =>
      have value : first.fetchFirst names options = second.fetchFirst names options :=
        fetchFirst_congr alike
      rw [FallbackRule.apply, FallbackRule.apply, value]
  | trackArtist =>
      have artist := alike "ARTIST" List.mem_cons_self
      have albumArtist :=
        alike "ALBUM ARTIST" (List.mem_cons_of_mem _ List.mem_cons_self)
      rw [FallbackRule.apply, FallbackRule.apply, FallbackRule.artistOf,
        FallbackRule.artistOf, artist, albumArtist]
  | trackNumber =>
      have number : first.fetchFirst ["TRACKNUMBER", "TRACK"] options =
          second.fetchFirst ["TRACKNUMBER", "TRACK"] options :=
        fetchFirst_congr alike
      rw [FallbackRule.apply, FallbackRule.apply, FallbackRule.numberOf,
        FallbackRule.numberOf, number]

theorem direct_eq_of_get?_eq {name : String}
    (alike : first.get? (fieldKey name options.caseSensitive) =
      second.get? (fieldKey name options.caseSensitive)) :
    first.direct name options = second.direct name options := by
  rw [direct, direct, alike]

theorem resolve_eq_of_agreeOn {name : String}
    (agreed : first.AgreeOn second (options.namesRead name)) :
    first.resolve name options = second.resolve name options := by
  have own := agreed (fieldKey name options.caseSensitive) List.mem_cons_self
  have direct : first.direct name options = second.direct name options :=
    direct_eq_of_get?_eq own.1
  have behind := agreed.mono (List.subset_cons_self _ _)
  rw [resolve, resolve, direct]
  by_cases magic : options.magic = true
  · simp only [if_pos magic] at behind ⊢
    cases ruled : FallbackRule.find? (Text.lowerString name) with
    | none =>
        rfl
    | some rule =>
        rw [ruled] at behind
        have applied : rule.apply first options = rule.apply second options :=
          apply_congr fun field member =>
            fetch_eq_of_agreeOn (behind.of_flatMap field member)
        simp only [applied]
  · simp only [if_neg magic]

end Track

/-! ## Evaluation on another track -/

/-- What an evaluation reads when it is done on another track. -/
def Environment.onTrack (environment : Environment) (track : Track) : Environment :=
  { environment with track }

/-- The tracks yield the same for these fields. -/
def Environment.ResolvesAlike (environment : Environment) (track : Track)
    (names : List String) : Prop :=
  ∀ name ∈ names, track.resolve name environment.options =
    environment.track.resolve name environment.options

section Values

variable {environment : Environment} {track : Track}

mutual

theorem Segment.value_onTrack :
    ∀ segment : Segment, environment.ResolvesAlike track segment.fields →
      segment.value (environment.onTrack track) = segment.value environment
  | .literal _, _ | .quoted _, _ => rfl
  | .field name, alike => by
      have resolved := alike name List.mem_cons_self
      exact congrArg (fun atom => Except.ok (Rendered.counted atom)) resolved
  | .call name arguments position, alike => by
      have inner := argumentValues_onTrack arguments alike
      rw [Segment.value, Segment.value, inner]
      rfl
  | .conditional body, alike => by
      have inner := body.value_onTrack alike
      rw [Segment.value, Segment.value, inner]

theorem Template.value_onTrack :
    ∀ template : Template, environment.ResolvesAlike track template.fields →
      template.value (environment.onTrack track) = template.value environment
  | ⟨[]⟩, _ => rfl
  | ⟨segment :: rest⟩, alike => segmentsValue_onTrack (segment :: rest) alike

theorem segmentsValue_onTrack :
    ∀ segments : List Segment,
      environment.ResolvesAlike track (fieldsInSegments segments) →
        segmentsValue (environment.onTrack track) segments =
          segmentsValue environment segments
  | [], _ => rfl
  | segment :: rest, alike => by
      obtain ⟨here, later⟩ := List.forall_mem_append.mp alike
      rw [segmentsValue, segmentsValue, segment.value_onTrack here,
        segmentsValue_onTrack rest later]

theorem argumentValues_onTrack :
    ∀ arguments : List Template,
      environment.ResolvesAlike track (fieldsInArguments arguments) →
        argumentValues (environment.onTrack track) arguments =
          argumentValues environment arguments
  | [], _ => rfl
  | argument :: rest, alike => by
      obtain ⟨here, later⟩ := List.forall_mem_append.mp alike
      rw [argumentValues, argumentValues, argument.value_onTrack here,
        argumentValues_onTrack rest later]

end

mutual

theorem Segment.markers_onTrack :
    ∀ segment : Segment, environment.ResolvesAlike track segment.fields →
      segment.markers (environment.onTrack track) = segment.markers environment
  | .literal _, _ | .quoted _, _ | .field _, _ => rfl
  | .call name arguments position, alike => by
      have values := argumentValues_onTrack arguments alike
      have inner := argumentMarkers_onTrack arguments alike
      have replied : (environment.onTrack track).reply name arguments position =
          environment.reply name arguments position := by
        rw [Environment.reply, Environment.reply, values]
        rfl
      rw [Segment.markers, Segment.markers, replied, inner]
  | .conditional body, alike => body.markers_onTrack alike

theorem Template.markers_onTrack :
    ∀ template : Template, environment.ResolvesAlike track template.fields →
      template.markers (environment.onTrack track) = template.markers environment
  | ⟨segments⟩, alike => segmentsMarkers_onTrack segments alike

theorem segmentsMarkers_onTrack :
    ∀ segments : List Segment,
      environment.ResolvesAlike track (fieldsInSegments segments) →
        segmentsMarkers (environment.onTrack track) segments =
          segmentsMarkers environment segments
  | [], _ => rfl
  | segment :: rest, alike => by
      obtain ⟨here, later⟩ := List.forall_mem_append.mp alike
      rw [segmentsMarkers, segmentsMarkers, segment.markers_onTrack here,
        segmentsMarkers_onTrack rest later]

theorem argumentMarkers_onTrack :
    ∀ arguments : List Template,
      environment.ResolvesAlike track (fieldsInArguments arguments) →
        argumentMarkers (environment.onTrack track) arguments =
          argumentMarkers environment arguments
  | [], _ => rfl
  | argument :: rest, alike => by
      obtain ⟨here, later⟩ := List.forall_mem_append.mp alike
      rw [argumentMarkers, argumentMarkers, argument.markers_onTrack here,
        argumentMarkers_onTrack rest later]

end

end Values

/-! ## Agreeing tracks -/

/-- The atom of a result and all markers that are recorded with it. -/
def Template.outcome (template : Template) (context : Context) :
    Except Fault (Atom × List Marker) :=
  (template.evaluate context).map fun result => (result.1, result.2.markers)

theorem Template.outcome_eq (template : Template) (context : Context) :
    template.outcome context =
      (template.value context.environment).map fun value =>
        (value.atom, context.markers ++ template.markers context.environment) := by
  rw [outcome, template.evaluate_eq context]
  cases template.value context.environment <;> rfl

/-- The result of a template that draws no numbers does not depend on the numbers that
could be drawn. -/
theorem Template.outcome_drawing {template : Template}
    (undrawn : ∀ call ∈ template.calls, call.isRandom = false) (track : Track)
    (options : Options) (draw another : Nat → UInt32) (markers : List Marker) :
    template.outcome ⟨track, options, another, markers⟩ =
      template.outcome ⟨track, options, draw, markers⟩ := by
  have value : template.value ⟨track, options, another⟩ =
      template.value ⟨track, options, draw⟩ :=
    template.value_drawing ⟨track, options, draw⟩ another undrawn
  have recorded : template.markers ⟨track, options, another⟩ =
      template.markers ⟨track, options, draw⟩ :=
    template.markers_drawing ⟨track, options, draw⟩ another undrawn
  rw [outcome_eq, outcome_eq]
  simp only [Context.environment, value, recorded]

/-- Without random calls, the result of a template and its markers depend on what
the track says about the names that the template reads, and on nothing else of it.
It may be any track, and other numbers may be drawn. -/
theorem Template.outcome_eq_of_agreeOn (template : Template) (options : Options)
    (notRandom : ∀ call ∈ template.calls, call.isRandom = false) (first second : Track)
    (agreed : first.AgreeOn second (template.namesRead options))
    (draw another : Nat → UInt32) (markers : List Marker) :
    template.outcome ⟨first, options, draw, markers⟩ =
      template.outcome ⟨second, options, another, markers⟩ := by
  let read : Environment := ⟨second, options, another⟩
  have alike : read.ResolvesAlike first template.fields :=
    fun name member => Track.resolve_eq_of_agreeOn (agreed.of_flatMap name member)
  have value : template.value ⟨first, options, draw⟩ = template.value read :=
    (template.value_drawing (read.onTrack first) draw notRandom).trans
      (template.value_onTrack alike)
  have recorded : template.markers ⟨first, options, draw⟩ = template.markers read :=
    (template.markers_drawing (read.onTrack first) draw notRandom).trans
      (template.markers_onTrack alike)
  rw [outcome_eq, outcome_eq]
  simp only [Context.environment, value, recorded, read]

/-- The template `$if(%artist%,%title%)` reads the artist with its fallback fields,
and the title although its branch is not taken. -/
theorem Template.outcome_eq_of_agreeOn_sample :
    let template : Template :=
      ⟨[.call "if" [⟨[.field "artist"]⟩, ⟨[.field "title"]⟩] 0]⟩
    let options : Options := {}
    let first : Track := .ofFields ⟨[("GENRE", "Rock")]⟩
    let second : Track := .ofHashMap (.insert ∅ "YEAR" "1999")
    template.namesRead options = ["ARTIST", "ARTIST", "ALBUM ARTIST", "COMPOSER",
        "PERFORMER", "TITLE", "TITLE"] ∧
      template.outcome ⟨first, options, fun _ => 0, []⟩ =
        template.outcome ⟨second, options, fun _ => 1, []⟩ := by
  intro template options first second
  have names : template.namesRead options = ["ARTIST", "ARTIST", "ALBUM ARTIST", "COMPOSER",
      "PERFORMER", "TITLE", "TITLE"] := by
    cbv
  have notRandom : ∀ call ∈ template.calls, call.isRandom = false := by
    have called : (Call.mk "if" [⟨[.field "artist"]⟩, ⟨[.field "title"]⟩] 0).isRandom =
        false := by
      cbv
    exact List.forall_mem_singleton.mpr called
  have agreed : first.AgreeOn second (template.namesRead options) := by
    have unset : ∀ name ∈ template.namesRead options,
        (name == "GENRE") = false ∧ "YEAR" ≠ name := by
      rw [names]
      decide
    intro name member
    obtain ⟨notGenre, notYear⟩ := unset name member
    constructor
    · simp [first, second, Track.ofFields, Track.ofHashMap, Fields.get?, List.lookup_cons,
        Std.HashMap.getElem?_insert, notGenre, notYear]
    · simp [first, second, Track.ofFields, Track.ofHashMap, Fields.contains, Fields.get?,
        List.lookup_cons, Std.HashMap.contains_insert, notGenre, beq_false_of_ne notYear]
  exact ⟨names, template.outcome_eq_of_agreeOn options notRandom first second agreed _ _ _⟩

end TitleFormatting
