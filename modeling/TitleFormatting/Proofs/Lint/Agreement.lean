import TitleFormatting.Proofs.Evaluation.Markers
import TitleFormatting.Proofs.Lint.Rejection

/-!
# Warnings and markers agree

Every marker that an evaluation records comes from a call that has a warning, in
the order of the warnings.  Some warned calls record nothing, since they stand
in an argument that does not reach the value of its call.  A warned call that
stands in no argument records its marker in every evaluation.
-/

namespace List

theorem sublistForall₂_of_sublist {α β : Type} {relation : α → β → Prop}
    {kept all : List α} (sublist : kept.Sublist all) :
    ∀ {others : List β}, Forall₂ relation all others →
      SublistForall₂ relation kept others := by
  induction sublist with
  | slnil =>
      intro others related
      exact .nil
  | cons item _ inductionHypothesis =>
      intro others related
      cases related with
      | cons _ restRelated =>
          exact .cons_right (inductionHypothesis restRelated)
  | cons_cons item _ inductionHypothesis =>
      intro others related
      cases related with
      | cons itemRelated restRelated =>
          exact .cons itemRelated (inductionHypothesis restRelated)

end List

namespace TitleFormatting

mutual

/-- The calls in a segment that stand in no argument of another call. -/
def Segment.outerCalls : Segment → List Call
  | .literal _ => []
  | .quoted _ => []
  | .field _ => []
  | .call name arguments position => [⟨name, arguments, position⟩]
  | .conditional body => body.outerCalls

def Template.outerCalls : Template → List Call
  | ⟨segments⟩ => outerCallsInSegments segments

def outerCallsInSegments : List Segment → List Call
  | [] => []
  | segment :: rest => segment.outerCalls ++ outerCallsInSegments rest

end

/-- Whatever the values of its arguments are, the call comes to this marker. -/
def Call.YieldsMarker (call : Call) (marker : Marker) : Prop :=
  ∀ (draw : UInt32) (values : List Argument),
    values.length = call.arguments.length →
      invoke draw call.name values = .ok (.marker marker)

theorem Call.yieldsMarker_of_rejection {call : Call} {marker : Marker}
    (rejected : call.rejection = some marker) : call.YieldsMarker marker := by
  intro draw values lengths
  rw [invoke_eq_marker_iff, lengths]
  exact rejected

/-! ## Every marker comes from a rejected call -/

/-- The arguments that reach a value pass on some of the markers. -/
theorem Reply.markers_value_sublist (ofArguments : List (List Marker))
    (atom : Atom) (source : Origin) :
    ((Reply.value atom source).markers ofArguments).Sublist
      ofArguments.flatten := by
  cases source with
  | all =>
      exact List.Sublist.refl _
  | argument index =>
      rw [Reply.markers]
      cases found : ofArguments[index]? with
      | none =>
          exact List.nil_sublist _
      | some markers =>
          exact List.sublist_flatten_of_mem (List.mem_of_getElem? found)
  | nothing =>
      exact List.nil_sublist _

theorem Call.rejection_of_reply {environment : Environment} {name : String}
    {arguments : List Template} {position : Nat} {marker : Marker}
    (replied :
      environment.reply name arguments position = .ok (.marker marker)) :
    Call.rejection ⟨name, arguments, position⟩ = some marker := by
  rw [Environment.reply, Except.bind_eq_ok_iff] at replied
  obtain ⟨values, valued, invoked⟩ := replied
  rw [invoke_eq_marker_iff, length_argumentValues valued] at invoked
  exact invoked

mutual

theorem Segment.markers_sublist (environment : Environment) :
    ∀ segment : Segment,
      (segment.markers environment).Sublist
        (segment.calls.filterMap Call.rejection)
  | .literal _ => List.nil_sublist _
  | .quoted _ => List.nil_sublist _
  | .field _ => List.nil_sublist _
  | .call name arguments position => by
      have inner := flatten_argumentMarkers_sublist environment arguments
      rw [Segment.markers, Segment.calls]
      cases replied : environment.reply name arguments position with
      | error fault =>
          exact List.nil_sublist _
      | ok reply =>
          cases reply with
          | value atom source =>
              have kept := Reply.markers_value_sublist
                (argumentMarkers environment arguments) atom source
              have shorter := (List.sublist_cons_self
                (⟨name, arguments, position⟩ : Call)
                (callsInArguments arguments)).filterMap Call.rejection
              exact (kept.trans inner).trans shorter
          | marker problem =>
              have rejected := Call.rejection_of_reply replied
              rw [List.filterMap_cons_some rejected]
              exact (List.nil_sublist _).cons_cons problem
  | .conditional body => by
      rw [Segment.markers, Segment.calls]
      exact body.markers_sublist environment

theorem Template.markers_sublist (environment : Environment) :
    ∀ template : Template,
      (template.markers environment).Sublist
        (template.calls.filterMap Call.rejection)
  | ⟨segments⟩ => by
      rw [Template.markers, Template.calls]
      exact segmentsMarkers_sublist environment segments

theorem segmentsMarkers_sublist (environment : Environment) :
    ∀ segments : List Segment,
      (segmentsMarkers environment segments).Sublist
        ((callsInSegments segments).filterMap Call.rejection)
  | [] => List.nil_sublist _
  | segment :: rest => by
      have first := segment.markers_sublist environment
      have others := segmentsMarkers_sublist environment rest
      rw [segmentsMarkers, callsInSegments, List.filterMap_append]
      exact first.append others

theorem flatten_argumentMarkers_sublist (environment : Environment) :
    ∀ arguments : List Template,
      (argumentMarkers environment arguments).flatten.Sublist
        ((callsInArguments arguments).filterMap Call.rejection)
  | [] => List.nil_sublist _
  | argument :: rest => by
      have first := argument.markers_sublist environment
      have others := flatten_argumentMarkers_sublist environment rest
      rw [argumentMarkers, callsInArguments, List.flatten_cons,
        List.filterMap_append]
      exact first.append others

end

/-! ## Every rejected outer call leaves its marker -/

mutual

theorem Segment.outerRejections_sublist {environment : Environment} :
    ∀ {segment : Segment} {value : Rendered},
      segment.value environment = .ok value →
        (segment.outerCalls.filterMap Call.rejection).Sublist
          (segment.markers environment)
  | .literal _, _, _ => List.nil_sublist _
  | .quoted _, _, _ => List.nil_sublist _
  | .field _, _, _ => List.nil_sublist _
  | .call name arguments position, value, valued => by
      rw [Segment.value, Except.bind_eq_ok_iff] at valued
      obtain ⟨values, argumentsValued, valued⟩ := valued
      rw [Except.bind_eq_ok_iff] at valued
      obtain ⟨reply, invoked, _⟩ := valued
      have replied :
          environment.reply name arguments position = .ok reply := by
        rw [Environment.reply, Except.bind_eq_ok_iff]
        exact ⟨values, argumentsValued, invoked⟩
      rw [Segment.outerCalls, Segment.markers, replied]
      cases rejected : Call.rejection ⟨name, arguments, position⟩ with
      | none =>
          rw [List.filterMap_cons_none rejected]
          exact List.nil_sublist _
      | some marker =>
          have yields := Call.yieldsMarker_of_rejection rejected
            (environment.draw position) values
            (length_argumentValues argumentsValued)
          rw [invoked] at yields
          obtain rfl := Except.ok.inj yields
          rw [List.filterMap_cons_some rejected]
          exact List.Sublist.refl _
  | .conditional body, value, valued => by
      rw [Segment.value, Except.bind_eq_ok_iff] at valued
      obtain ⟨bodyValue, bodyValued, _⟩ := valued
      rw [Segment.outerCalls, Segment.markers]
      exact Template.outerRejections_sublist bodyValued

theorem Template.outerRejections_sublist {environment : Environment} :
    ∀ {template : Template} {value : Rendered},
      template.value environment = .ok value →
        (template.outerCalls.filterMap Call.rejection).Sublist
          (template.markers environment)
  | ⟨[]⟩, _, _ => List.nil_sublist _
  | ⟨segment :: rest⟩, value, valued => by
      rw [Template.value] at valued
      · rw [Template.outerCalls, Template.markers]
        exact outerRejectionsInSegments_sublist valued
      · simp

theorem outerRejectionsInSegments_sublist {environment : Environment} :
    ∀ {segments : List Segment} {value : Rendered},
      segmentsValue environment segments = .ok value →
        ((outerCallsInSegments segments).filterMap Call.rejection).Sublist
          (segmentsMarkers environment segments)
  | [], _, _ => List.nil_sublist _
  | segment :: rest, value, valued => by
      rw [segmentsValue, Except.bind_eq_ok_iff] at valued
      obtain ⟨first, firstValued, valued⟩ := valued
      rw [Except.bind_eq_ok_iff] at valued
      obtain ⟨others, restValued, _⟩ := valued
      have firstKept := Segment.outerRejections_sublist firstValued
      have restKept := outerRejectionsInSegments_sublist restValued
      rw [outerCallsInSegments, segmentsMarkers, List.filterMap_append]
      exact firstKept.append restKept

end

/-! ## Markers and warnings -/

/-- The warnings match the markers of the rejected calls one by one. -/
theorem Template.forall₂_rejections_warnings (template : Template) :
    List.Forall₂ Marker.Matches (template.calls.filterMap Call.rejection)
      template.warnings := by
  have same : List.Forall₂ Eq template.calls template.calls :=
    List.forall₂_refl _
  refine List.rel_filterMap ?_ same
  intro call _ equality
  rw [← equality]
  exact Lint.rel_rejection_warning call

theorem Lint.isSome_warning?_eq (call : Call) :
    (Lint.warning? call).isSome = call.rejection.isSome := by
  have related := Lint.rel_rejection_warning call
  revert related
  generalize call.rejection = rejected, Lint.warning? call = warned
  intro related
  cases related with
  | none =>
      rfl
  | some _ =>
      rfl

/-- The calls with a warning are those that are rejected, each with its
marker. -/
theorem forall₂_yieldsMarker (calls : List Call) :
    List.Forall₂ Call.YieldsMarker
      (calls.filter fun call => (Lint.warning? call).isSome)
      (calls.filterMap Call.rejection) := by
  induction calls with
  | nil =>
      exact .nil
  | cons call rest inductionHypothesis =>
      have warned := Lint.isSome_warning?_eq call
      cases rejected : call.rejection with
      | none =>
          rw [rejected, Option.isSome_none] at warned
          simp only [List.filterMap_cons_none rejected, List.filter_cons, warned,
            Bool.false_eq_true, if_false]
          exact inductionHypothesis
      | some marker =>
          rw [rejected, Option.isSome_some] at warned
          simp only [List.filterMap_cons_some rejected, List.filter_cons, warned,
            if_true]
          exact .cons (Call.yieldsMarker_of_rejection rejected)
            inductionHypothesis

/-- Warnings and evaluations agree. A call comes to a marker exactly when it has
a warning, whatever the values of its arguments are. An evaluation has a result
unless the function of a call comes to a halt, and the markers that it records
match some of the warnings, in the same order. Every call with a warning that
stands in no argument of another call records its marker. Without warnings
nothing is ever recorded. -/
theorem Lint.agrees_with_evaluation :
    (∀ (draw : UInt32) (call : Call) (values : List Argument),
      values.length = call.arguments.length →
        ((∃ marker, invoke draw call.name values = .ok (.marker marker)) ↔
          (Lint.warning? call).isSome)) ∧
    (∀ (template : Template) (context : Context) (fault : Fault),
      template.evaluate context = .error fault →
        ∃ call ∈ template.calls, call.HaltsWith context.environment fault) ∧
    (∀ (template : Template) (context after : Context) (atom : Atom),
      template.evaluate context = .ok (atom, after) →
        ∃ recorded : List Marker,
          after.markers = context.markers ++ recorded ∧
          List.SublistForall₂ Marker.Matches recorded template.warnings ∧
          List.SublistForall₂ Call.YieldsMarker
            (template.outerCalls.filter fun call => (Lint.warning? call).isSome)
            recorded) ∧
    (∀ (template : Template) (context after : Context) (atom : Atom),
      template.warnings = [] → template.evaluate context = .ok (atom, after) →
        after.markers = context.markers) := by
  refine ⟨?_, ?_, ?_, ?_⟩
  · intro draw call values lengths
    have invoked (marker : Marker) :
        invoke draw call.name values = .ok (.marker marker) ↔
          call.rejection = some marker := by
      rw [invoke_eq_marker_iff, lengths, Call.rejection]
    simp only [invoked, Lint.isSome_warning?_eq, Option.isSome_iff_exists]
  · intro template context fault halted
    exact Template.exists_call_of_evaluate_eq_error halted
  · intro template context after atom evaluated
    obtain ⟨value, valued, recorded⟩ := Template.markers_of_evaluate evaluated
    refine ⟨template.markers context.environment, recorded, ?_, ?_⟩
    · exact List.sublistForall₂_of_sublist
        (template.markers_sublist context.environment)
        template.forall₂_rejections_warnings
    · rw [List.sublistForall₂_iff]
      exact ⟨template.outerCalls.filterMap Call.rejection,
        forall₂_yieldsMarker template.outerCalls,
        Template.outerRejections_sublist valued⟩
  · intro template context after atom unwarned evaluated
    obtain ⟨_, _, recorded⟩ := Template.markers_of_evaluate evaluated
    have sublist := template.markers_sublist context.environment
    have matched := template.forall₂_rejections_warnings
    rw [unwarned, List.forall₂_nil_right_iff] at matched
    rw [matched, List.sublist_nil] at sublist
    rw [recorded, sublist, List.append_nil]

/-- The template `$If(x)[$nosuch()]`, both of whose calls have a warning. -/
def Lint.sample : Template :=
  ⟨[.call "If" [⟨[.literal "x"]⟩] 0, .conditional ⟨[.call "nosuch" [] 7]⟩]⟩

/-- A track without fields, and nothing recorded yet. -/
def Lint.sampleContext : Context where
  track := .ofFields .empty
  options := {}
  draw _ := 0

theorem Lint.evaluate_sample :
    Lint.sample.evaluate Lint.sampleContext =
      .ok (.literal "[INVALID $IF SYNTAX][UNKNOWN FUNCTION]",
        Lint.sampleContext.extend
          [.invalidSyntax "IF" 1, .unknownFunction "nosuch" 0]) := by
  have broken : Catalog.find? "If" 1 =
      some ⟨"if", .ifThen, .atLeast 0, .control⟩ := by
    have lowered : Catalog.canonicalName "If" = "if" := by
      cbv
    rw [Catalog.find?, lowered]
    decide
  have missing : Catalog.find? "nosuch" 0 = none := by
    have lowered : Catalog.canonicalName "nosuch" = "nosuch" := by
      cbv
    rw [Catalog.find?, lowered]
    decide
  rw [Template.evaluate_eq]
  simp [Lint.sample, Template.value, segmentsValue, Segment.value,
    argumentValues, Template.markers, segmentsMarkers, Segment.markers,
    Environment.reply, invoke, broken, missing, Functions.run,
    Functions.ifThen, Functions.brokenSyntax, Functions.choose, Reply.atom,
    Reply.markers, bind, Except.bind, Except.map, pure, Except.pure]
  rfl

/-- The template `$num(1,65536)`, whose number is padded too widely. -/
def Lint.haltingSample : Template :=
  ⟨[.call "num" [⟨[.literal "1"]⟩, ⟨[.literal "65536"]⟩] 0]⟩

theorem Lint.evaluate_haltingSample :
    Lint.haltingSample.evaluate Lint.sampleContext =
      .error .widthOutOfRange := by
  have valued : argumentValues Lint.sampleContext.environment
      [⟨[.literal "1"]⟩, ⟨[.literal "65536"]⟩] =
        .ok [⟨.literal "1", false⟩, ⟨.literal "65536", false⟩] := by
    rfl
  have invoked : invoke (Lint.sampleContext.draw 0) "num"
      [⟨.literal "1", false⟩, ⟨.literal "65536", false⟩] =
        .error .widthOutOfRange := by
    cbv
  rw [Template.evaluate_eq]
  simp [Lint.haltingSample, Template.value, segmentsValue, Segment.value, valued,
    invoked, bind, Except.bind, Except.map]

theorem Lint.agrees_with_evaluation_sample :
    ((∃ marker,
        invoke 0 "If" [⟨.literal "x", false⟩] = .ok (.marker marker)) ↔
      (Lint.warning? ⟨"If", [⟨[.literal "x"]⟩], 0⟩).isSome) ∧
    (∃ call ∈ Lint.haltingSample.calls,
      call.HaltsWith Lint.sampleContext.environment .widthOutOfRange) ∧
    (∃ recorded : List Marker,
      [.invalidSyntax "IF" 1, .unknownFunction "nosuch" 0] = [] ++ recorded ∧
      List.SublistForall₂ Marker.Matches recorded Lint.sample.warnings ∧
      List.SublistForall₂ Call.YieldsMarker
        (Lint.sample.outerCalls.filter fun call => (Lint.warning? call).isSome)
        recorded) ∧
    (⟨[.literal "x"]⟩ : Template).warnings = [] ∧
    (Lint.sampleContext.extend []).markers = Lint.sampleContext.markers := by
  have agreement := Lint.agrees_with_evaluation
  have unwarned : (⟨[.literal "x"]⟩ : Template).warnings = [] := by
    rfl
  have evaluated : (⟨[.literal "x"]⟩ : Template).evaluate Lint.sampleContext =
      .ok (.literal "x", Lint.sampleContext.extend []) := by
    rw [Template.evaluate_eq]
    rfl
  exact ⟨agreement.1 0 ⟨"If", [⟨[.literal "x"]⟩], 0⟩ [⟨.literal "x", false⟩] rfl,
    agreement.2.1 _ _ _ Lint.evaluate_haltingSample,
    agreement.2.2.1 _ _ _ _ Lint.evaluate_sample, unwarned,
    agreement.2.2.2 _ _ _ _ unwarned evaluated⟩

end TitleFormatting
