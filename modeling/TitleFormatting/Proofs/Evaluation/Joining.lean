import TitleFormatting.Proofs.Evaluation.Drawing
import TitleFormatting.Proofs.Template.Joining

/-!
# The values of joined templates

The values of segments are put together from left to right, and it does not
matter where the sequence is cut. So joined templates have the one value put
behind the other, and likewise the markers.
-/

namespace TitleFormatting

/-! ## Joining atoms -/

namespace Atom

theorem append_def (first second : Atom) : first ++ second = first.append second :=
  rfl

theorem absent_append (atom : Atom) : absent ++ atom = atom :=
  rfl

theorem append_absent (atom : Atom) : atom ++ absent = atom := by
  rcases atom with ⟨_ | text, truth⟩ <;> simp [append_def, append, absent]

theorem append_assoc (first second third : Atom) :
    first ++ second ++ third = first ++ (second ++ third) := by
  rcases first with ⟨_ | first, firstTruth⟩ <;>
    rcases second with ⟨_ | second, secondTruth⟩ <;>
    rcases third with ⟨_ | third, thirdTruth⟩ <;>
    simp [append_def, append, String.append_assoc, Bool.or_assoc]

/-- What is present of two atoms is joined, and nothing is left of two that are
absent. -/
theorem append_eq (first second : Atom) :
    first ++ second =
      { value :=
          if first.value = none ∧ second.value = none then none
          else some (first.text ++ second.text)
        truth := first.truth || second.truth } := by
  rcases first with ⟨_ | first, firstTruth⟩ <;>
    rcases second with ⟨_ | second, secondTruth⟩ <;>
    simp [append_def, append, text]

end Atom

namespace Rendered

/-- The one behind the other. -/
def beside (first second : Rendered) : Rendered :=
  ⟨first.atom ++ second.atom, first.count + second.count⟩

theorem beside_assoc (first second third : Rendered) :
    (first.beside second).beside third = first.beside (second.beside third) := by
  simp only [beside, Atom.append_assoc, Nat.add_assoc]

theorem absent_beside (rendered : Rendered) :
    beside ⟨.absent, 0⟩ rendered = rendered := by
  rw [beside, Atom.absent_append, Nat.zero_add]

end Rendered

/-! ## Values and markers -/

/-- Two results in turn. The first that comes to a halt is the last. -/
def inTurn (first second : Except Fault Rendered) : Except Fault Rendered := do
  let value ← first
  let other ← second
  return value.beside other

theorem inTurn_assoc (first second third : Except Fault Rendered) :
    inTurn (inTurn first second) third = inTurn first (inTurn second third) := by
  cases first with
  | error fault =>
      rfl
  | ok value =>
      cases second with
      | error fault =>
          rfl
      | ok other =>
          cases third with
          | error fault =>
              rfl
          | ok last =>
              exact congrArg Except.ok (Rendered.beside_assoc value other last)

theorem absent_inTurn (result : Except Fault Rendered) :
    inTurn (.ok ⟨.absent, 0⟩) result = result := by
  cases result with
  | error fault =>
      rfl
  | ok value =>
      exact congrArg Except.ok (Rendered.absent_beside value)

section Joined

variable (environment : Environment)

theorem collects_value :
    Collects (segmentsValue environment) (Segment.value environment) inTurn where
  nil := absent_inTurn
  cons _ _ := by
    rw [segmentsValue]
    rfl
  assoc := inTurn_assoc
  literal _ _ := rfl

theorem collects_markers :
    Collects (segmentsMarkers environment) (Segment.markers environment)
      (· ++ ·) where
  nil _ := rfl
  cons _ _ := rfl
  assoc := List.append_assoc
  literal _ _ := rfl

/-- A template with segments has the value of its segments, and is never the
empty text. -/
theorem Template.value_eq_segmentsValue {template : Template}
    (nonempty : template.segments ≠ []) :
    template.value environment = segmentsValue environment template.segments := by
  rcases template with ⟨_ | ⟨segment, rest⟩⟩
  · contradiction
  · rfl

theorem Template.value_join {first second : Template}
    (firstNonempty : first.segments ≠ []) (secondNonempty : second.segments ≠ []) :
    (first.join second).value environment =
      inTurn (first.value environment) (second.value environment) := by
  have nonempty : (first.join second).segments ≠ [] :=
    joinSegments_ne_nil firstNonempty second.segments
  rw [value_eq_segmentsValue environment firstNonempty,
    value_eq_segmentsValue environment secondNonempty,
    value_eq_segmentsValue environment nonempty]
  exact (collects_value environment).joinSegments first.segments second.segments

theorem Template.markers_join (first second : Template) :
    (first.join second).markers environment =
      first.markers environment ++ second.markers environment := by
  rcases first with ⟨first⟩
  rcases second with ⟨second⟩
  exact (collects_markers environment).joinSegments first second

end Joined

end TitleFormatting
