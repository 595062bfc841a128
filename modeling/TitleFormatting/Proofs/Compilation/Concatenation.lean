import Mathlib
import TitleFormatting.Proofs.Compilation.Formatter
import TitleFormatting.Proofs.Evaluation.Joining

/-!
# Formatting one source after the other

Two sources that are written one after the other yield what each of them yields
by itself, the one behind the other, as long as no quotes meet and no random
numbers are drawn.
-/

namespace TitleFormatting

/-! ## Results of sources -/

theorem Compiled.applyWithMarkers_eq (compiled : Compiled) (track : Track)
    (options : Options) (draw : Nat → UInt32) :
    compiled.applyWithMarkers track options draw =
      (compiled.template.value ⟨track, options, draw⟩).map fun value =>
        (value.atom, compiled.template.markers ⟨track, options, draw⟩) := by
  have read : Context.environment { track, options, draw } =
      ⟨track, options, draw⟩ :=
    rfl
  rw [applyWithMarkers, Template.evaluate_eq, read]
  cases compiled.template.value ⟨track, options, draw⟩ with
  | error fault =>
      rfl
  | ok value =>
      rfl

/-- A source yields a result when it can be read and its template has a
value. -/
theorem Formatter.formatAfresh_eq_ok_iff {options : Options} {source : String}
    {track : Track} {draw : Nat → UInt32} {atom : Atom} {markers : List Marker} :
    formatAfresh options source track draw = .ok (atom, markers) ↔
      ∃ template value,
        Template.parse options.maxDepth source = .ok template ∧
        template.value ⟨track, options, draw⟩ = .ok value ∧
        value.atom = atom ∧
        template.markers ⟨track, options, draw⟩ = markers := by
  rw [formatAfresh, Compiled.compile]
  cases Template.parse options.maxDepth source with
  | error error =>
      simp [bind, Except.bind]
  | ok template =>
      simp only [bind, Except.bind, pure, Except.pure,
        Compiled.applyWithMarkers_eq, Except.ok.injEq, exists_and_left,
        exists_eq_left']
      cases template.value ⟨track, options, draw⟩ with
      | error fault =>
          simp [Except.map, Except.mapError]
      | ok value =>
          simp [Except.map, Except.mapError]

/-- Within two limits that it keeps to, a source is read as one template. -/
theorem Template.eq_of_parse_eq_ok {limit other : Nat} {source : String}
    {template again : Template}
    (read : Template.parse limit source = .ok template)
    (readAgain : Template.parse other source = .ok again) : again = template := by
  rcases parse_of_parse_eq_ok other read with same | ⟨_, opener, location, stopped⟩
  · exact Except.ok.inj (readAgain.symm.trans same)
  · rw [readAgain] at stopped
    contradiction

/-- The result of a source that draws no random numbers, given by its template
and for any numbers. -/
theorem Formatter.value_of_formatAfresh_eq_ok {limit : Nat} {options : Options}
    {source : String} {template : Template} {track : Track}
    {draw : Nat → UInt32} {atom : Atom} {markers : List Marker}
    (read : Template.parse limit source = .ok template)
    (notRandom : ∀ call ∈ template.calls, call.isRandom = false)
    (formatted : formatAfresh options source track draw = .ok (atom, markers))
    (another : Nat → UInt32) :
    Template.parse options.maxDepth source = .ok template ∧
      (∃ count,
        template.value ⟨track, options, another⟩ = .ok ⟨atom, count⟩) ∧
      template.markers ⟨track, options, another⟩ = markers := by
  obtain ⟨again, value, readAgain, valued, rfl, rfl⟩ :=
    formatAfresh_eq_ok_iff.mp formatted
  obtain rfl := Template.eq_of_parse_eq_ok read readAgain
  have placed := Template.placed_of_parse read
  have sameValue :=
    again.value_placed_drawing ⟨track, options, draw⟩ another 0 notRandom
  have sameMarkers :=
    again.markers_placed_drawing ⟨track, options, draw⟩ another 0 notRandom
  rw [placed] at sameValue sameMarkers
  exact ⟨readAgain, ⟨value.count, sameValue.trans valued⟩, sameMarkers⟩

/-! ## One source after the other -/

/-- Sources that can be read, do not meet with a quote on either side and draw
no random numbers can be read one after the other, and then the results of both
stand one behind the other: of the values those that are present, and all
markers. -/
theorem Formatter.formatWithMarkers_append {limit : Nat} {first second : String}
    {firstRead secondRead : Template}
    (firstNonempty : first ≠ "") (secondNonempty : second ≠ "")
    (readFirst : Template.parse limit first = .ok firstRead)
    (readSecond : Template.parse limit second = .ok secondRead)
    (firstNotRandom : ∀ call ∈ firstRead.calls, call.isRandom = false)
    (secondNotRandom : ∀ call ∈ secondRead.calls, call.isRandom = false)
    (apart : ¬ (first.toList.getLast? = some '\'' ∧
      second.toList.head? = some '\'')) :
    (∃ read, Template.parse limit (first ++ second) = .ok read) ∧
    ∀ (options : Options) (beforeFirst beforeSecond before : List Request)
      (track : Track) (firstDraw secondDraw draw : Nat → UInt32)
      (firstAtom secondAtom : Atom) (firstMarkers secondMarkers : List Marker),
      ((after options beforeFirst).formatWithMarkers first track firstDraw).1 =
          .ok (firstAtom, firstMarkers) →
        ((after options beforeSecond).formatWithMarkers second track
            secondDraw).1 =
          .ok (secondAtom, secondMarkers) →
        ((after options before).formatWithMarkers (first ++ second) track
            draw).1 =
          .ok
            ({ value :=
                if firstAtom.value = none ∧ secondAtom.value = none then none
                else some (firstAtom.text ++ secondAtom.text)
               truth := firstAtom.truth || secondAtom.truth },
              firstMarkers ++ secondMarkers) := by
  refine ⟨⟨_, Template.parse_append readFirst readSecond apart⟩, ?_⟩
  intro options beforeFirst beforeSecond before track firstDraw secondDraw draw
    firstAtom secondAtom firstMarkers secondMarkers firstFormatted
    secondFormatted
  rw [formatWithMarkers_after_eq] at firstFormatted secondFormatted
  rw [formatWithMarkers_after_eq, ← Atom.append_eq]
  -- Neither result depends on what was drawn: both are taken with the numbers
  -- that are drawn for the whole.
  obtain ⟨firstReads, ⟨firstCount, firstValued⟩, rfl⟩ :=
    value_of_formatAfresh_eq_ok readFirst firstNotRandom firstFormatted draw
  obtain ⟨secondReads, ⟨secondCount, secondValued⟩, rfl⟩ :=
    value_of_formatAfresh_eq_ok readSecond secondNotRandom secondFormatted draw
  have notRandom : ∀ call ∈ (firstRead.join secondRead).calls,
      call.isRandom = false := by
    rw [Template.calls_join, List.forall_mem_append]
    exact ⟨firstNotRandom, secondNotRandom⟩
  have valued := Template.value_join ⟨track, options, draw⟩
    (Template.segments_ne_nil_of_parse firstNonempty readFirst)
    (Template.segments_ne_nil_of_parse secondNonempty readSecond)
  rw [firstValued, secondValued] at valued
  have moved := (firstRead.join secondRead).value_placed_drawing
    ⟨track, options, draw⟩ draw 0 notRandom
  have movedMarkers := (firstRead.join secondRead).markers_placed_drawing
    ⟨track, options, draw⟩ draw 0 notRandom
  refine formatAfresh_eq_ok_iff.mpr ⟨_, _,
    Template.parse_append firstReads secondReads apart, moved.trans valued, rfl,
    ?_⟩
  rw [← Template.markers_join]
  exact movedMarkers

/-- Plain text meets at the seam, and what the first source leaves false the
second makes true. -/
theorem Formatter.formatWithMarkers_append_sample :
    let track := Track.ofFields ⟨[("t", "w")]⟩
    let options : Options := { caseSensitive := true, magic := false }
    Template.parse 1 "$foo()y" = .ok ⟨[.call "foo" [] 0, .literal "y"]⟩ ∧
      Template.parse 1 "z[%t%]" =
        .ok ⟨[.literal "z", .conditional ⟨[.field "t"]⟩]⟩ ∧
      (Call.mk "foo" [] 0).isRandom = false ∧
      ((after options []).formatWithMarkers "$foo()y" track fun _ => 1).1 =
        .ok (⟨some "[UNKNOWN FUNCTION]y", false⟩,
          [.unknownFunction "foo" 0]) ∧
      ((after options []).formatWithMarkers "z[%t%]" track fun _ => 2).1 =
        .ok (⟨some "zw", true⟩, []) ∧
      ((after options []).formatWithMarkers ("$foo()y" ++ "z[%t%]") track
          fun _ => 7).1 =
        .ok (⟨some "[UNKNOWN FUNCTION]yzw", true⟩,
          [.unknownFunction "foo" 0]) := by
  intro track options
  have readFirst : Template.parse 1 "$foo()y" =
      .ok ⟨[.call "foo" [] 0, .literal "y"]⟩ :=
    rfl
  have readSecond : Template.parse 1 "z[%t%]" =
      .ok ⟨[.literal "z", .conditional ⟨[.field "t"]⟩]⟩ :=
    rfl
  have notRandom : (Call.mk "foo" [] 0).isRandom = false := by
    cbv
  have firstNotRandom :
      ∀ call ∈ Template.calls ⟨[.call "foo" [] 0, .literal "y"]⟩,
        call.isRandom = false :=
    List.forall_mem_singleton.mpr notRandom
  have secondNotRandom :
      ∀ call ∈ Template.calls ⟨[.literal "z", .conditional ⟨[.field "t"]⟩]⟩,
        call.isRandom = false :=
    List.forall_mem_nil _
  have firstFormatted : ((after options []).formatWithMarkers "$foo()y" track
      fun _ => 1).1 =
        .ok (⟨some "[UNKNOWN FUNCTION]y", false⟩, [.unknownFunction "foo" 0]) := by
    cbv
  have secondFormatted : ((after options []).formatWithMarkers "z[%t%]" track
      fun _ => 2).1 = .ok (⟨some "zw", true⟩, []) := by
    rw [formatWithMarkers_after_eq]
    exact formatAfresh_eq_ok_iff.mpr
      ⟨_, ⟨⟨some "zw", true⟩, 1⟩, rfl, rfl, rfl, rfl⟩
  obtain ⟨_, joined⟩ := formatWithMarkers_append (by decide) (by decide)
    readFirst readSecond firstNotRandom secondNotRandom (by decide)
  exact ⟨readFirst, readSecond, notRandom, firstFormatted, secondFormatted,
    joined options [] [] [] track (fun _ => 1) (fun _ => 2) (fun _ => 7) _ _ _ _
      firstFormatted secondFormatted⟩

end TitleFormatting
