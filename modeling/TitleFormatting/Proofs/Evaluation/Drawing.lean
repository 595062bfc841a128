import TitleFormatting.Proofs.Evaluation.Markers
import TitleFormatting.Proofs.Template.Source

/-!
# Templates without random numbers

The position of a call serves only to draw its random number, and one function
alone looks at that number. A template that does not call it has the same value
and the same markers wherever it stands and whatever is drawn.
-/

namespace TitleFormatting

/-! ## The calls in segments and arguments -/

theorem mem_callsInSegments_iff {segments : List Segment} {call : Call} :
    call ∈ callsInSegments segments ↔ ∃ segment ∈ segments, call ∈ segment.calls := by
  induction segments with
  | nil =>
      simp [callsInSegments]
  | cons segment rest inductionHypothesis =>
      rw [callsInSegments, List.mem_append, inductionHypothesis, List.exists_mem_cons_iff]

theorem mem_callsInArguments_iff {arguments : List Template} {call : Call} :
    call ∈ callsInArguments arguments ↔ ∃ argument ∈ arguments, call ∈ argument.calls := by
  induction arguments with
  | nil =>
      simp [callsInArguments]
  | cons argument rest inductionHypothesis =>
      rw [callsInArguments, List.mem_append, inductionHypothesis, List.exists_mem_cons_iff]

/-! ## Random calls -/

/-- The call is carried out by the function that returns its random number. -/
def Call.isRandom (call : Call) : Bool :=
  match Catalog.find? call.name call.arguments.length with
  | some entry => entry.builtin == .rand
  | none => false

theorem Functions.run_eq_of_ne_rand {builtin : Builtin} (other : builtin ≠ .rand)
    (draw another : UInt32) (arguments : List Argument) :
    run draw builtin arguments = run another builtin arguments := by
  cases builtin with
  | rand =>
      contradiction
  | _ =>
      rfl

theorem Call.invoke_eq_of_isRandom_eq_false {call : Call}
    (notRandom : call.isRandom = false) {values : List Argument}
    (length : values.length = call.arguments.length) (draw another : UInt32) :
    invoke draw call.name values = invoke another call.name values := by
  rw [isRandom, ← length] at notRandom
  rw [invoke, invoke]
  cases found : Catalog.find? call.name values.length with
  | none =>
      rfl
  | some entry =>
      rw [found] at notRandom
      exact Functions.run_eq_of_ne_rand (by simpa using notRandom) draw another
        values

namespace Environment

/-- What an evaluation reads when other numbers are drawn. -/
def drawing (environment : Environment) (draw : Nat → UInt32) : Environment :=
  { environment with draw }

/-- A call that is not random is replied to by the values of its arguments. -/
theorem reply_drawing {environment : Environment} {draw : Nat → UInt32}
    {name : String} {arguments moved : List Template} {position : Nat}
    (notRandom : (Call.mk name arguments position).isRandom = false)
    (alike : argumentValues (environment.drawing draw) moved =
      argumentValues environment arguments) (start : Nat) :
    (environment.drawing draw).reply name moved start =
      environment.reply name arguments position := by
  rw [reply, reply, alike]
  cases valued : argumentValues environment arguments with
  | error fault =>
      rfl
  | ok values =>
      exact Call.invoke_eq_of_isRandom_eq_false notRandom
        (length_argumentValues valued) _ _

end Environment

theorem Template.startsQuoted_placed (template : Template) (start : Nat) :
    (template.placed start).startsQuoted = template.startsQuoted := by
  rcases template with ⟨_ | ⟨segment, rest⟩⟩
  · rfl
  · cases segment <;> rfl

theorem Segment.value_call (environment : Environment) (name : String)
    (arguments : List Template) (position : Nat) :
    (Segment.call name arguments position).value environment =
      (environment.reply name arguments position).map fun reply =>
        .counted reply.atom := by
  rw [Segment.value, Environment.reply]
  cases argumentValues environment arguments with
  | error fault =>
      rfl
  | ok values =>
      simp only [bind, Except.bind]
      cases invoke (environment.draw position) name values <;> rfl

/-! ## Values -/

section Values

variable (environment : Environment) (draw : Nat → UInt32)

mutual

theorem Segment.value_placed_drawing :
    ∀ (segment : Segment) (start : Nat),
      (∀ call ∈ segment.calls, call.isRandom = false) →
        (segment.placed start).value (environment.drawing draw) =
          segment.value environment
  | .literal _, _, _ | .quoted _, _, _ | .field _, _, _ => rfl
  | .call name arguments position, start, notRandom => by
      rw [Segment.calls, List.forall_mem_cons] at notRandom
      have alike := argumentValues_placed_drawing arguments
        (start + name.toList.length + 2) notRandom.2
      rw [Segment.placed, Segment.value_call, Segment.value_call,
        Environment.reply_drawing notRandom.1 alike]
  | .conditional body, start, notRandom => by
      rw [Segment.placed, Segment.value, Segment.value,
        body.value_placed_drawing (start + 1) notRandom]

theorem Template.value_placed_drawing :
    ∀ (template : Template) (start : Nat),
      (∀ call ∈ template.calls, call.isRandom = false) →
        (template.placed start).value (environment.drawing draw) =
          template.value environment
  | ⟨[]⟩, _, _ => rfl
  | ⟨segment :: rest⟩, start, notRandom =>
      segmentsValue_placed_drawing (segment :: rest) start notRandom

theorem segmentsValue_placed_drawing :
    ∀ (segments : List Segment) (start : Nat),
      (∀ call ∈ callsInSegments segments, call.isRandom = false) →
        segmentsValue (environment.drawing draw) (placedSegments segments start) =
          segmentsValue environment segments
  | [], _, _ => rfl
  | segment :: rest, start, notRandom => by
      rw [callsInSegments, List.forall_mem_append] at notRandom
      rw [placedSegments, segmentsValue, segmentsValue,
        segment.value_placed_drawing start notRandom.1,
        segmentsValue_placed_drawing rest _ notRandom.2]

theorem argumentValues_placed_drawing :
    ∀ (arguments : List Template) (start : Nat),
      (∀ call ∈ callsInArguments arguments, call.isRandom = false) →
        argumentValues (environment.drawing draw)
            (placedArguments arguments start) =
          argumentValues environment arguments
  | [], _, _ => rfl
  | argument :: rest, start, notRandom => by
      rw [callsInArguments, List.forall_mem_append] at notRandom
      rw [placedArguments, argumentValues, argumentValues,
        argument.value_placed_drawing start notRandom.1,
        argumentValues_placed_drawing rest _ notRandom.2,
        argument.startsQuoted_placed]

end

/-! ## Markers -/

mutual

theorem Segment.markers_placed_drawing :
    ∀ (segment : Segment) (start : Nat),
      (∀ call ∈ segment.calls, call.isRandom = false) →
        (segment.placed start).markers (environment.drawing draw) =
          segment.markers environment
  | .literal _, _, _ | .quoted _, _, _ | .field _, _, _ => rfl
  | .call name arguments position, start, notRandom => by
      rw [Segment.calls, List.forall_mem_cons] at notRandom
      have alike := argumentValues_placed_drawing environment draw arguments
        (start + name.toList.length + 2) notRandom.2
      rw [Segment.placed, Segment.markers, Segment.markers,
        Environment.reply_drawing notRandom.1 alike,
        argumentMarkers_placed_drawing arguments _ notRandom.2]
  | .conditional body, start, notRandom => by
      rw [Segment.placed, Segment.markers, Segment.markers,
        body.markers_placed_drawing (start + 1) notRandom]

theorem Template.markers_placed_drawing :
    ∀ (template : Template) (start : Nat),
      (∀ call ∈ template.calls, call.isRandom = false) →
        (template.placed start).markers (environment.drawing draw) =
          template.markers environment
  | ⟨segments⟩, start, notRandom =>
      segmentsMarkers_placed_drawing segments start notRandom

theorem segmentsMarkers_placed_drawing :
    ∀ (segments : List Segment) (start : Nat),
      (∀ call ∈ callsInSegments segments, call.isRandom = false) →
        segmentsMarkers (environment.drawing draw)
            (placedSegments segments start) =
          segmentsMarkers environment segments
  | [], _, _ => rfl
  | segment :: rest, start, notRandom => by
      rw [callsInSegments, List.forall_mem_append] at notRandom
      rw [placedSegments, segmentsMarkers, segmentsMarkers,
        segment.markers_placed_drawing start notRandom.1,
        segmentsMarkers_placed_drawing rest _ notRandom.2]

theorem argumentMarkers_placed_drawing :
    ∀ (arguments : List Template) (start : Nat),
      (∀ call ∈ callsInArguments arguments, call.isRandom = false) →
        argumentMarkers (environment.drawing draw)
            (placedArguments arguments start) =
          argumentMarkers environment arguments
  | [], _, _ => rfl
  | argument :: rest, start, notRandom => by
      rw [callsInArguments, List.forall_mem_append] at notRandom
      rw [placedArguments, argumentMarkers, argumentMarkers,
        argument.markers_placed_drawing start notRandom.1,
        argumentMarkers_placed_drawing rest _ notRandom.2]

end

/-! ## In the same place -/

theorem Template.value_drawing (template : Template)
    (notRandom : ∀ call ∈ template.calls, call.isRandom = false) :
    template.value (environment.drawing draw) = template.value environment := by
  have here := template.value_placed_drawing environment draw 0 notRandom
  have there :=
    template.value_placed_drawing (environment.drawing draw) draw 0 notRandom
  exact there.symm.trans here

theorem Template.markers_drawing (template : Template)
    (notRandom : ∀ call ∈ template.calls, call.isRandom = false) :
    template.markers (environment.drawing draw) = template.markers environment := by
  have here := template.markers_placed_drawing environment draw 0 notRandom
  have there :=
    template.markers_placed_drawing (environment.drawing draw) draw 0 notRandom
  exact there.symm.trans here

/-! ## Copies -/

namespace Template

/-- The template itself, or the same with its calls moved to another place. -/
def IsCopyOf (copy template : Template) : Prop :=
  copy = template ∨ ∃ start, copy = template.placed start

namespace IsCopyOf

variable {copy template : Template}

theorem value_eq (isCopy : copy.IsCopyOf template)
    (notRandom : ∀ call ∈ template.calls, call.isRandom = false) :
    copy.value (environment.drawing draw) = template.value environment := by
  rcases isCopy with rfl | ⟨start, rfl⟩
  · exact copy.value_drawing environment draw notRandom
  · exact template.value_placed_drawing environment draw start notRandom

theorem markers_eq (isCopy : copy.IsCopyOf template)
    (notRandom : ∀ call ∈ template.calls, call.isRandom = false) :
    copy.markers (environment.drawing draw) = template.markers environment := by
  rcases isCopy with rfl | ⟨start, rfl⟩
  · exact copy.markers_drawing environment draw notRandom
  · exact template.markers_placed_drawing environment draw start notRandom

end IsCopyOf

end Template

end Values

end TitleFormatting
