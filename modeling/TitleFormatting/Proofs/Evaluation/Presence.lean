import Mathlib
import TitleFormatting.Proofs.Evaluation.Drawing
import TitleFormatting.Proofs.Functions.Presence

/-!
# Truth without a value

Nothing that an evaluation comes to is both absent and true.  The invariant that
carries this through a template says more, since a sequence of segments may have a
text and still count as yielding nothing: what yields nothing is not true.  That is
why a block, which vanishes in this case, is as true as its body.
-/

namespace TitleFormatting

/-- An atom that has a value, or else another. -/
theorem Atom.FalseWhenAbsent.orElse {first second : Atom}
    (secondFalse : second.FalseWhenAbsent) :
    (if first.isPresent then first else second).FalseWhenAbsent := by
  by_cases present : first.isPresent
  · rw [if_pos present]
    intro missing
    rw [isPresent, missing] at present
    contradiction
  · rw [if_neg present]
    exact secondFalse

namespace Track

theorem falseWhenAbsent_direct (track : Track) (name : String) (options : Options) :
    (track.direct name options).FalseWhenAbsent := by
  rw [direct]
  cases track.get? (fieldKey name options.caseSensitive) with
  | some value =>
      exact Atom.falseWhenAbsent_some _ _
  | none =>
      exact Atom.falseWhenAbsent_absent

/-- A field is found or absent, whatever rule its name has. -/
theorem falseWhenAbsent_resolve (track : Track) (name : String) (options : Options) :
    (track.resolve name options).FalseWhenAbsent :=
  (track.falseWhenAbsent_direct name options).orElse

end Track

namespace Rendered

/-- The atom is not true without a value, nor when no field, call or block yields
one. -/
structure TrueByValue (rendered : Rendered) : Prop where
  falseWhenAbsent : rendered.atom.FalseWhenAbsent
  falseWhenUncounted : rendered.count = 0 → rendered.atom.truth = false

theorem trueByValue_text (text : String) : (Rendered.text text).TrueByValue where
  falseWhenAbsent := Atom.falseWhenAbsent_some _ _
  falseWhenUncounted _ := rfl

theorem trueByValue_absent : TrueByValue ⟨.absent, 0⟩ where
  falseWhenAbsent := Atom.falseWhenAbsent_absent
  falseWhenUncounted _ := rfl

theorem trueByValue_counted {atom : Atom} (sound : atom.FalseWhenAbsent) :
    (Rendered.counted atom).TrueByValue where
  falseWhenAbsent := sound
  falseWhenUncounted uncounted := by
    obtain ⟨value, truth⟩ := atom
    cases value with
    | some text =>
        contradiction
    | none =>
        exact sound rfl

namespace TrueByValue

variable {rendered first second : Rendered}

theorem beside (firstSound : first.TrueByValue) (secondSound : second.TrueByValue) :
    TrueByValue ⟨first.atom ++ second.atom, first.count + second.count⟩ where
  falseWhenAbsent := firstSound.falseWhenAbsent.append secondSound.falseWhenAbsent
  falseWhenUncounted uncounted := by
    obtain ⟨firstUncounted, secondUncounted⟩ := Nat.add_eq_zero_iff.mp uncounted
    exact Bool.or_eq_false_iff.mpr ⟨firstSound.falseWhenUncounted firstUncounted,
      secondSound.falseWhenUncounted secondUncounted⟩

theorem block (sound : rendered.TrueByValue) : rendered.block.TrueByValue := by
  rw [Rendered.block]
  split
  · exact trueByValue_absent
  · exact trueByValue_counted sound.falseWhenAbsent

/-- A block that vanishes was not true before. -/
theorem truth_block (sound : rendered.TrueByValue) :
    rendered.block.atom.truth = rendered.atom.truth := by
  rw [Rendered.block]
  split
  · next uncounted =>
      exact (sound.falseWhenUncounted uncounted).symm
  · rfl

end TrueByValue

end Rendered

/-! ## Values -/

section Values

variable (environment : Environment)

mutual

theorem Segment.ensures_value :
    ∀ segment : Segment, Ensures Rendered.TrueByValue (segment.value environment)
  | .literal text | .quoted text => .ok (Rendered.trueByValue_text text)
  | .field name =>
      .ok (Rendered.trueByValue_counted
        (environment.track.falseWhenAbsent_resolve name environment.options))
  | .call name arguments position => by
      rw [Segment.value]
      refine .bind_of (ensures_argumentValues arguments) fun values sound => ?_
      have invoked := Functions.ensures_invoke sound (environment.draw position) name
      exact .bind_of invoked fun reply replied =>
        .ok (Rendered.trueByValue_counted replied)
  | .conditional body => by
      rw [Segment.value]
      exact .bind_of body.ensures_value fun value sound => .ok sound.block

theorem Template.ensures_value :
    ∀ template : Template, Ensures Rendered.TrueByValue (template.value environment)
  | ⟨[]⟩ => .ok (Rendered.trueByValue_text "")
  | ⟨segment :: rest⟩ => ensures_segmentsValue (segment :: rest)

theorem ensures_segmentsValue :
    ∀ segments : List Segment,
      Ensures Rendered.TrueByValue (segmentsValue environment segments)
  | [] => .ok Rendered.trueByValue_absent
  | segment :: rest => by
      rw [segmentsValue]
      exact .bind_of segment.ensures_value fun first firstSound =>
        .bind_of (ensures_segmentsValue rest) fun others othersSound =>
          .ok (firstSound.beside othersSound)

theorem ensures_argumentValues :
    ∀ arguments : List Template,
      Ensures (fun values => ∀ value ∈ values, value.atom.FalseWhenAbsent)
        (argumentValues environment arguments)
  | [] => .ok fun _ member => absurd member List.not_mem_nil
  | argument :: rest => by
      rw [argumentValues]
      exact .bind_of argument.ensures_value fun value sound =>
        .bind_of (ensures_argumentValues rest) fun others othersSound =>
          .ok (List.forall_mem_cons.mpr ⟨sound.falseWhenAbsent, othersSound⟩)

end

end Values

/-! ## Results -/

theorem Template.falseWhenAbsent_of_evaluate {template : Template}
    {context after : Context} {atom : Atom}
    (evaluated : template.evaluate context = .ok (atom, after)) :
    atom.FalseWhenAbsent := by
  rw [template.evaluate_eq context] at evaluated
  have sound := template.ensures_value context.environment
  cases valued : template.value context.environment with
  | error fault =>
      rw [valued] at evaluated
      contradiction
  | ok value =>
      rw [valued] at evaluated
      obtain ⟨rfl, -⟩ := Prod.mk.inj (Except.ok.inj evaluated)
      exact (sound value valued).falseWhenAbsent

/-- A block by itself is as true as its body by itself. -/
theorem Template.truth_conditional (body : Template) (environment : Environment) :
    ((⟨[.conditional body]⟩ : Template).value environment).map (·.atom.truth) =
      (body.value environment).map (·.atom.truth) := by
  have sound := body.ensures_value environment
  rw [Template.value, segmentsValue, segmentsValue, Segment.value]
  · cases valued : body.value environment with
    | error fault =>
        rfl
    | ok value =>
        have truth := (sound value valued).truth_block
        change Except.ok (value.block.atom.truth || false) = _
        rw [Bool.or_false, truth]
        rfl
  · simp

theorem Template.map_truth_evaluate (template : Template) (context : Context) :
    (template.evaluate context).map (·.1.truth) =
      (template.value context.environment).map (·.atom.truth) := by
  rw [template.evaluate_eq context]
  cases template.value context.environment <;> rfl

/-- Nothing absent is true: not the result of an evaluation, not that of a function
on arguments of which none is absent and true, not a field.  And a block without
random calls has the truth of its body, whether it vanishes or not; the body may
stand by itself, away from the block, and other numbers may be drawn for it. -/
theorem absent_never_true :
    (∀ (template : Template) (context after : Context) (atom : Atom),
      template.evaluate context = .ok (atom, after) → atom.FalseWhenAbsent) ∧
    (∀ (draw : UInt32) (name : String) (arguments : List Argument) (reply : Reply),
      (∀ argument ∈ arguments, argument.atom.FalseWhenAbsent) →
        invoke draw name arguments = .ok reply → reply.atom.FalseWhenAbsent) ∧
    (∀ (track : Track) (name : String) (options : Options),
      (track.resolve name options).FalseWhenAbsent) ∧
    ∀ (body inside : Template) (context : Context) (draw : Nat → UInt32),
      (∀ call ∈ body.calls, call.isRandom = false) →
        (inside = body ∨ ∃ start, inside = body.placed start) →
          ((⟨[.conditional inside]⟩ : Template).evaluate context).map (·.1.truth) =
            (body.evaluate { context with draw }).map (·.1.truth) := by
  refine ⟨fun _ _ _ _ => Template.falseWhenAbsent_of_evaluate,
    fun draw name arguments reply sound replied =>
      Functions.ensures_invoke sound draw name reply replied,
    Track.falseWhenAbsent_resolve, fun body inside context draw notRandom here => ?_⟩
  have alike : inside.value context.environment =
      body.value ({ context with draw } : Context).environment := by
    rcases here with rfl | ⟨start, rfl⟩
    · exact (inside.value_drawing context.environment draw notRandom).symm
    · exact body.value_placed_drawing ({ context with draw } : Context).environment
        context.draw start notRandom
  rw [Template.map_truth_evaluate, Template.map_truth_evaluate,
    Template.truth_conditional, alike]

/-- A block that vanishes although its body has a text, `[no. %n%]` on a track
without fields, and a function that hands on an absent argument. -/
theorem absent_never_true_vanishing_block :
    let body : Template := ⟨[.literal "no. ", .field "n"]⟩
    let block : Template := ⟨[.conditional body]⟩
    let options : Options := { caseSensitive := true, magic := false }
    let context : Context := ⟨.ofFields .empty, options, fun _ => 0, []⟩
    let longest : Reply := .value .absent .all
    block.evaluate context = .ok (.absent, context) ∧
      body.evaluate context = .ok (.literal "no. ", context) ∧
      invoke 0 "longest" [⟨.absent, false⟩] = .ok longest ∧
      Atom.absent.FalseWhenAbsent ∧ longest.atom.FalseWhenAbsent ∧
      (block.evaluate context).map (·.1.truth) =
        (body.evaluate context).map (·.1.truth) := by
  intro body block options context longest
  have vanishing : block.evaluate context = .ok (.absent, context) := by
    rw [Template.evaluate_eq]
    rfl
  have written : body.evaluate context = .ok (.literal "no. ", context) := by
    rw [Template.evaluate_eq]
    rfl
  have handedOn : invoke 0 "longest" [⟨.absent, false⟩] = .ok longest := by
    cbv
  have given : ∀ argument ∈ [(⟨.absent, false⟩ : Argument)],
      argument.atom.FalseWhenAbsent :=
    List.forall_mem_singleton.mpr Atom.falseWhenAbsent_absent
  have uncalled : ∀ call ∈ body.calls, call.isRandom = false := by
    intro call member
    contradiction
  exact ⟨vanishing, written, handedOn, absent_never_true.1 _ _ _ _ vanishing,
    absent_never_true.2.1 0 "longest" _ longest given handedOn,
    absent_never_true.2.2.2 body body context context.draw uncalled (.inl rfl)⟩

end TitleFormatting
