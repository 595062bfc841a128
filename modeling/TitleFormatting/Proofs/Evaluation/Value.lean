import TitleFormatting.Evaluation
import TitleFormatting.Proofs.Except

/-!
# The values of templates

What a template yields depends on what an evaluation reads, and on nothing that
it has recorded.  The values are therefore given once more, bottom up and
without a state: the value of a call is what its function replies to the values
of its arguments.
-/

namespace TitleFormatting

/-- What an evaluation reads and never changes. -/
structure Environment where
  track : Track
  options : Options
  /-- The random number of a call, by the position of the call. -/
  draw : Nat → UInt32

/-- What an evaluation in this context reads. -/
def Context.environment (context : Context) : Environment :=
  ⟨context.track, context.options, context.draw⟩

def Reply.atom : Reply → Atom
  | .value atom _ => atom
  | .marker problem => .literal problem.text

mutual

def Segment.value (environment : Environment) : Segment → Except Fault Rendered
  | .literal text => .ok (.text text)
  | .quoted text => .ok (.text text)
  | .field name =>
      .ok (.counted (environment.track.resolve name environment.options))
  | .call name arguments position => do
      let values ← argumentValues environment arguments
      let reply ← invoke (environment.draw position) name values
      return .counted reply.atom
  | .conditional body => do
      let value ← body.value environment
      return value.block

def Template.value (environment : Environment) : Template → Except Fault Rendered
  | ⟨[]⟩ => .ok (.text "")
  | ⟨segments⟩ => segmentsValue environment segments

/-- The joined value of segments. -/
def segmentsValue (environment : Environment) :
    List Segment → Except Fault Rendered
  | [] => .ok ⟨.absent, 0⟩
  | segment :: rest => do
      let first ← segment.value environment
      let others ← segmentsValue environment rest
      return ⟨first.atom ++ others.atom, first.count + others.count⟩

/-- The values of arguments, each by itself. -/
def argumentValues (environment : Environment) :
    List Template → Except Fault (List Argument)
  | [] => .ok []
  | argument :: rest => do
      let value ← argument.value environment
      let others ← argumentValues environment rest
      return ⟨value.atom, argument.startsQuoted⟩ :: others

end

/-- What the function of a call replies to the values of the arguments. -/
def Environment.reply (environment : Environment) (name : String)
    (arguments : List Template) (position : Nat) : Except Fault Reply := do
  let values ← argumentValues environment arguments
  invoke (environment.draw position) name values

theorem length_argumentValues {environment : Environment} :
    ∀ {arguments : List Template} {values : List Argument},
      argumentValues environment arguments = .ok values →
        values.length = arguments.length
  | [], values, valued => by
      rw [argumentValues] at valued
      obtain rfl := Except.ok.inj valued
      rfl
  | argument :: rest, values, valued => by
      rw [argumentValues, Except.bind_eq_ok_iff] at valued
      obtain ⟨value, _, valued⟩ := valued
      rw [Except.bind_eq_ok_iff] at valued
      obtain ⟨others, restValued, valued⟩ := valued
      obtain rfl := Except.ok.inj valued
      have inductionHypothesis := length_argumentValues restValued
      rw [List.length_cons, List.length_cons, inductionHypothesis]

/-! ## Evaluations that come to a halt -/

/-- The function of the call comes to a halt on the values of its arguments. -/
def Call.HaltsWith (call : Call) (environment : Environment) (fault : Fault) :
    Prop :=
  ∃ values, argumentValues environment call.arguments = .ok values ∧
    invoke (environment.draw call.position) call.name values = .error fault

mutual

theorem Segment.exists_call_of_value_eq_error {environment : Environment}
    {fault : Fault} :
    ∀ {segment : Segment}, segment.value environment = .error fault →
      ∃ call ∈ segment.calls, call.HaltsWith environment fault
  | .literal _, halted => by
      simp [Segment.value] at halted
  | .quoted _, halted => by
      simp [Segment.value] at halted
  | .field _, halted => by
      simp [Segment.value] at halted
  | .call name arguments position, halted => by
      rw [Segment.value, Except.bind_eq_error_iff] at halted
      rw [Segment.calls]
      rcases halted with inArguments | ⟨values, valued, halted⟩
      · obtain ⟨call, member, halts⟩ :=
          exists_call_of_argumentValues_eq_error inArguments
        exact ⟨call, List.mem_cons_of_mem _ member, halts⟩
      · rw [Except.bind_eq_error_iff] at halted
        rcases halted with invoked | ⟨reply, _, returned⟩
        · exact ⟨⟨name, arguments, position⟩, List.mem_cons_self,
            values, valued, invoked⟩
        · contradiction
  | .conditional body, halted => by
      rw [Segment.value, Except.bind_eq_error_iff] at halted
      rw [Segment.calls]
      rcases halted with inBody | ⟨value, _, returned⟩
      · exact Template.exists_call_of_value_eq_error inBody
      · contradiction

theorem Template.exists_call_of_value_eq_error {environment : Environment}
    {fault : Fault} :
    ∀ {template : Template}, template.value environment = .error fault →
      ∃ call ∈ template.calls, call.HaltsWith environment fault
  | ⟨[]⟩, halted => by
      simp [Template.value] at halted
  | ⟨segment :: rest⟩, halted => by
      rw [Template.value] at halted
      · rw [Template.calls]
        exact exists_call_of_segmentsValue_eq_error halted
      · simp

theorem exists_call_of_segmentsValue_eq_error {environment : Environment}
    {fault : Fault} :
    ∀ {segments : List Segment},
      segmentsValue environment segments = .error fault →
        ∃ call ∈ callsInSegments segments, call.HaltsWith environment fault
  | [], halted => by
      simp [segmentsValue] at halted
  | segment :: rest, halted => by
      rw [segmentsValue, Except.bind_eq_error_iff] at halted
      rw [callsInSegments]
      rcases halted with inFirst | ⟨first, _, halted⟩
      · obtain ⟨call, member, halts⟩ :=
          Segment.exists_call_of_value_eq_error inFirst
        exact ⟨call, List.mem_append_left _ member, halts⟩
      · rw [Except.bind_eq_error_iff] at halted
        rcases halted with inRest | ⟨others, _, returned⟩
        · obtain ⟨call, member, halts⟩ :=
            exists_call_of_segmentsValue_eq_error inRest
          exact ⟨call, List.mem_append_right _ member, halts⟩
        · contradiction

theorem exists_call_of_argumentValues_eq_error {environment : Environment}
    {fault : Fault} :
    ∀ {arguments : List Template},
      argumentValues environment arguments = .error fault →
        ∃ call ∈ callsInArguments arguments, call.HaltsWith environment fault
  | [], halted => by
      simp [argumentValues] at halted
  | argument :: rest, halted => by
      rw [argumentValues, Except.bind_eq_error_iff] at halted
      rw [callsInArguments]
      rcases halted with inFirst | ⟨value, _, halted⟩
      · obtain ⟨call, member, halts⟩ :=
          Template.exists_call_of_value_eq_error inFirst
        exact ⟨call, List.mem_append_left _ member, halts⟩
      · rw [Except.bind_eq_error_iff] at halted
        rcases halted with inRest | ⟨others, _, returned⟩
        · obtain ⟨call, member, halts⟩ :=
            exists_call_of_argumentValues_eq_error inRest
          exact ⟨call, List.mem_append_right _ member, halts⟩
        · contradiction

end

end TitleFormatting
