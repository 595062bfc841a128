import TitleFormatting.Proofs.Evaluation.Value

/-!
# The markers of templates

An evaluation cuts the list of recorded markers at every argument, holds the
pieces back and puts some of them in again.  The markers of a template are
defined here bottom up, without a list that is cut: a call passes on the markers
of those arguments that reach its value.  An evaluation appends exactly these to
whatever was recorded before it.
-/

namespace TitleFormatting

/-- The markers of a call with this reply, from those of its arguments. -/
def Reply.markers (ofArguments : List (List Marker)) : Reply → List Marker
  | .value _ .all => ofArguments.flatten
  | .value _ (.argument index) => ofArguments[index]?.getD []
  | .value _ .nothing => []
  | .marker problem => [problem]

mutual

/-- The markers of a segment. A call that comes to a halt has none. -/
def Segment.markers (environment : Environment) : Segment → List Marker
  | .literal _ => []
  | .quoted _ => []
  | .field _ => []
  | .call name arguments position =>
      match environment.reply name arguments position with
      | .ok reply => reply.markers (argumentMarkers environment arguments)
      | .error _ => []
  | .conditional body => body.markers environment

def Template.markers (environment : Environment) : Template → List Marker
  | ⟨segments⟩ => segmentsMarkers environment segments

/-- The markers of segments, one after the other. -/
def segmentsMarkers (environment : Environment) : List Segment → List Marker
  | [] => []
  | segment :: rest =>
      segment.markers environment ++ segmentsMarkers environment rest

/-- The markers of arguments, those of each argument by themselves. -/
def argumentMarkers (environment : Environment) :
    List Template → List (List Marker)
  | [] => []
  | argument :: rest =>
      argument.markers environment :: argumentMarkers environment rest

end

/-! ## Recording in a context -/

namespace Context

@[simp]
theorem environment_draw (context : Context) :
    context.environment.draw = context.draw :=
  rfl

@[simp]
theorem environment_extend (context : Context) (markers : List Marker) :
    (context.extend markers).environment = context.environment :=
  rfl

@[simp]
theorem extend_nil (context : Context) : context.extend [] = context := by
  rw [extend, List.append_nil]

@[simp]
theorem extend_extend (context : Context) (first second : List Marker) :
    (context.extend first).extend second = context.extend (first ++ second) := by
  simp only [extend, List.append_assoc]

theorem takeBackAfter_extend (context : Context) (markers : List Marker) :
    (context.extend markers).takeBackAfter context.markers.length =
      (markers, context) := by
  rw [takeBackAfter, extend, List.drop_left, List.take_left]

/-- A settled call yields its atom and records its markers. -/
theorem settle_eq (context : Context) (held : List HeldArgument) (reply : Reply) :
    context.settle held reply =
      (reply.atom,
        context.extend (reply.markers (held.map HeldArgument.markers))) := by
  cases reply with
  | marker problem =>
      rfl
  | value atom source =>
      cases source with
      | all =>
          rw [settle, Reply.atom, Reply.markers, List.flatMap_def]
      | argument index =>
          rw [settle, Reply.atom, Reply.markers, List.getElem?_map]
      | nothing =>
          rw [settle, Reply.atom, Reply.markers, extend_nil]

end Context

def heldArguments (values : List Argument) (markers : List (List Marker)) :
    List HeldArgument :=
  List.zipWith HeldArgument.mk values markers

theorem length_argumentMarkers (environment : Environment)
    (arguments : List Template) :
    (argumentMarkers environment arguments).length = arguments.length := by
  induction arguments with
  | nil =>
      rfl
  | cons argument rest inductionHypothesis =>
      rw [argumentMarkers, List.length_cons, List.length_cons,
        inductionHypothesis]

theorem map_argument_heldArguments :
    ∀ {values : List Argument} {markers : List (List Marker)},
      values.length = markers.length →
        (heldArguments values markers).map HeldArgument.argument = values
  | [], _, _ => rfl
  | value :: values, piece :: pieces, equality => by
      have inductionHypothesis :=
        map_argument_heldArguments (Nat.succ.inj equality)
      exact congrArg (value :: ·) inductionHypothesis

theorem map_markers_heldArguments :
    ∀ {values : List Argument} {markers : List (List Marker)},
      values.length = markers.length →
        (heldArguments values markers).map HeldArgument.markers = markers
  | [], [], _ => rfl
  | _ :: _, piece :: pieces, equality => by
      have inductionHypothesis :=
        map_markers_heldArguments (Nat.succ.inj equality)
      exact congrArg (piece :: ·) inductionHypothesis

/-! ## Evaluation records the markers -/

mutual

theorem Segment.evaluate_eq (context : Context) :
    ∀ segment : Segment,
      segment.evaluate context =
        (segment.value context.environment).map fun value =>
          (value, context.extend (segment.markers context.environment))
  | .literal text => by
      rw [Segment.evaluate, Segment.value, Segment.markers,
        Context.extend_nil]
      rfl
  | .quoted text => by
      rw [Segment.evaluate, Segment.value, Segment.markers,
        Context.extend_nil]
      rfl
  | .field name => by
      rw [Segment.evaluate, Segment.value, Segment.markers,
        Context.extend_nil]
      rfl
  | .call name arguments position => by
      have inner := evaluateArguments_eq context arguments
      rw [Segment.evaluate, Segment.value, Segment.markers, Environment.reply,
        inner]
      cases valued : argumentValues context.environment arguments with
      | error fault =>
          rfl
      | ok values =>
          have lengths : values.length =
              (argumentMarkers context.environment arguments).length := by
            rw [length_argumentValues valued, length_argumentMarkers]
          simp only [Except.map, bind, Except.bind,
            map_argument_heldArguments lengths, Context.settle_eq,
            map_markers_heldArguments lengths, Context.environment_draw]
          cases invoke (context.draw position) name values <;> rfl
  | .conditional body => by
      have inner := body.evaluateCounting_eq context
      rw [Segment.evaluate, Segment.value, Segment.markers, inner]
      cases body.value context.environment <;> rfl

theorem Template.evaluateCounting_eq (context : Context) :
    ∀ template : Template,
      template.evaluateCounting context =
        (template.value context.environment).map fun value =>
          (value, context.extend (template.markers context.environment))
  | ⟨[]⟩ => by
      rw [Template.evaluateCounting, Template.value, Template.markers,
        segmentsMarkers, Context.extend_nil]
      rfl
  | ⟨segment :: rest⟩ => by
      rw [Template.evaluateCounting, Template.value, Template.markers]
      · exact evaluateSegments_eq context (segment :: rest)
      · simp
      · simp

theorem evaluateSegments_eq (context : Context) :
    ∀ segments : List Segment,
      evaluateSegments segments context =
        (segmentsValue context.environment segments).map fun value =>
          (value, context.extend (segmentsMarkers context.environment segments))
  | [] => by
      rw [evaluateSegments, segmentsValue, segmentsMarkers, Context.extend_nil]
      rfl
  | segment :: rest => by
      have first := segment.evaluate_eq context
      have others := evaluateSegments_eq
        (context.extend (segment.markers context.environment)) rest
      rw [Context.environment_extend] at others
      rw [evaluateSegments, segmentsValue, segmentsMarkers, first]
      cases segment.value context.environment with
      | error fault =>
          rfl
      | ok value =>
          simp only [Except.map, bind, Except.bind, others]
          cases segmentsValue context.environment rest with
          | error fault =>
              rfl
          | ok restValue =>
              simp only [pure, Except.pure, Context.extend_extend]

/-- Arguments are evaluated to what they hold back, and nothing stays
recorded. -/
theorem evaluateArguments_eq (context : Context) :
    ∀ arguments : List Template,
      evaluateArguments context.markers.length arguments context =
        (argumentValues context.environment arguments).map fun values =>
          (heldArguments values (argumentMarkers context.environment arguments),
            context)
  | [] => by
      rw [evaluateArguments, argumentValues]
      rfl
  | argument :: rest => by
      have first := argument.evaluateCounting_eq context
      have others := evaluateArguments_eq context rest
      rw [evaluateArguments, argumentValues, argumentMarkers, first]
      cases argument.value context.environment with
      | error fault =>
          rfl
      | ok value =>
          -- The context is what it was before the argument, so that one cut
          -- serves all arguments.
          simp only [Except.map, bind, Except.bind,
            Context.takeBackAfter_extend, others]
          cases argumentValues context.environment rest <;> rfl

end

/-- An evaluation yields the value of the template and appends its markers to
those recorded before. -/
theorem Template.evaluate_eq (template : Template) (context : Context) :
    template.evaluate context =
      (template.value context.environment).map fun value =>
        (value.atom, context.extend (template.markers context.environment)) := by
  rw [Template.evaluate, template.evaluateCounting_eq context]
  cases template.value context.environment <;> rfl

/-- What is recorded by an evaluation that comes to a result. -/
theorem Template.markers_of_evaluate {template : Template}
    {context after : Context} {atom : Atom}
    (evaluated : template.evaluate context = .ok (atom, after)) :
    ∃ value, template.value context.environment = .ok value ∧
      after.markers =
        context.markers ++ template.markers context.environment := by
  rw [template.evaluate_eq context] at evaluated
  cases valued : template.value context.environment with
  | error fault =>
      simp [valued, Except.map] at evaluated
  | ok value =>
      rw [valued] at evaluated
      obtain ⟨-, rfl⟩ := Prod.mk.inj (Except.ok.inj evaluated)
      exact ⟨value, rfl, rfl⟩

/-- An evaluation comes to a halt only where the function of a call does. -/
theorem Template.exists_call_of_evaluate_eq_error {template : Template}
    {context : Context} {fault : Fault}
    (halted : template.evaluate context = .error fault) :
    ∃ call ∈ template.calls, call.HaltsWith context.environment fault := by
  rw [template.evaluate_eq context] at halted
  cases valued : template.value context.environment with
  | error earlier =>
      rw [valued] at halted
      obtain rfl := Except.error.inj halted
      exact exists_call_of_value_eq_error valued
  | ok value =>
      simp [valued, Except.map] at halted

/-- Markers that were recorded before an evaluation change nothing about its
atom, and the markers of the template are put behind them: none of them is lost,
moved or doubled.  The atom is the value that is defined bottom up. -/
theorem Template.evaluate_behind_recorded (template : Template)
    (context : Context) :
    template.evaluate context =
        (template.evaluate { context with markers := [] }).map (fun result =>
          (result.1, context.extend (template.markers context.environment))) ∧
      (template.evaluate { context with markers := [] }).map Prod.fst =
        (template.value context.environment).map Rendered.atom := by
  have unmarked : ({ context with markers := [] } : Context).environment =
      context.environment :=
    rfl
  rw [template.evaluate_eq context, template.evaluate_eq, unmarked]
  cases template.value context.environment with
  | error fault =>
      exact ⟨rfl, rfl⟩
  | ok value =>
      exact ⟨rfl, rfl⟩

end TitleFormatting
