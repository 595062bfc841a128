import TitleFormatting.Proofs.Template.Assembling

/-!
# Templates and their sources

Reading loses nothing: what is read is written back as the very source, with
every call at its position. Canonical templates are exactly what can be read,
and each has one source.
-/

namespace TitleFormatting

/-! ## Calls stand where their positions say -/

/-- The call is written in the source at its position. -/
def Call.StandsIn (call : Call) (source : List Char) : Prop :=
  ∃ before after,
    source = before ++ call.segment.characters ++ after ∧
      before.length = call.position

mutual

theorem Segment.characters_placed :
    ∀ (segment : Segment) (start : Nat),
      (segment.placed start).characters = segment.characters
  | .literal _, _ | .quoted _, _ | .field _, _ => rfl
  | .call name arguments _, start => by
      rw [Segment.placed, Segment.characters, Segment.characters,
        argumentCharacters_placedArguments arguments]
  | .conditional body, start => by
      rw [Segment.placed, Segment.characters, Segment.characters,
        body.characters_placed]

theorem Template.characters_placed :
    ∀ (template : Template) (start : Nat),
      (template.placed start).characters = template.characters
  | ⟨segments⟩, start => by
      rw [Template.placed, Template.characters, Template.characters,
        segmentCharacters_placedSegments segments]

theorem segmentCharacters_placedSegments :
    ∀ (segments : List Segment) (start : Nat),
      segmentCharacters (placedSegments segments start) =
        segmentCharacters segments
  | [], _ => rfl
  | segment :: rest, start => by
      rw [placedSegments, segmentCharacters, segmentCharacters,
        segment.characters_placed, segmentCharacters_placedSegments rest]

theorem argumentCharacters_placedArguments :
    ∀ (arguments : List Template) (start : Nat),
      argumentCharacters (placedArguments arguments start) =
        argumentCharacters arguments
  | [], _ => rfl
  | [last], start => last.characters_placed start
  | argument :: next :: rest, start => by
      have inner :=
        argumentCharacters_placedArguments (next :: rest)
          (start + argument.characters.length + 1)
      rw [placedArguments] at inner
      rw [placedArguments, placedArguments, argumentCharacters,
        argumentCharacters, argument.characters_placed, inner]

end

mutual

/-- The calls of a placed segment stand in every source that has the segment
behind as many characters. -/
theorem Segment.standsIn_of_mem_calls_placed :
    ∀ (segment : Segment) (before after : List Char),
      ∀ call ∈ (segment.placed before.length).calls,
        call.StandsIn (before ++ segment.characters ++ after)
  | .literal _, _, _, _, member | .quoted _, _, _, _, member
  | .field _, _, _, _, member => by
      simp [Segment.placed, Segment.calls] at member
  | .call name arguments _, before, after, call, member => by
      simp only [Segment.placed, Segment.calls, List.mem_cons] at member
      rcases member with rfl | inner
      · refine ⟨before, after, ?_, rfl⟩
        simp only [Call.segment, Segment.characters]
        rw [argumentCharacters_placedArguments]
      · have opened :
            (before ++ '$' :: name.toList ++ ['(']).length =
              before.length + name.toList.length + 2 := by
          simp only [List.length_append, List.length_cons, List.length_nil]
          omega
        rw [← opened] at inner
        have stands :=
          standsIn_of_mem_calls_placedArguments arguments
            (before ++ '$' :: name.toList ++ ['(']) (')' :: after) call inner
        simpa [Segment.characters] using stands
  | .conditional body, before, after, call, member => by
      have opened : (before ++ ['[']).length = before.length + 1 := by
        simp
      rw [Segment.placed, Segment.calls, ← opened] at member
      have stands :=
        body.standsIn_of_mem_calls_placed (before ++ ['[']) (']' :: after)
          call member
      simpa [Segment.characters] using stands

theorem Template.standsIn_of_mem_calls_placed :
    ∀ (template : Template) (before after : List Char),
      ∀ call ∈ (template.placed before.length).calls,
        call.StandsIn (before ++ template.characters ++ after)
  | ⟨segments⟩, before, after, call, member =>
      standsIn_of_mem_calls_placedSegments segments before after call member

theorem standsIn_of_mem_calls_placedSegments :
    ∀ (segments : List Segment) (before after : List Char),
      ∀ call ∈ callsInSegments (placedSegments segments before.length),
        call.StandsIn (before ++ segmentCharacters segments ++ after)
  | [], _, _, _, member => by
      simp [placedSegments, callsInSegments] at member
  | segment :: rest, before, after, call, member => by
      rw [placedSegments, callsInSegments, ← List.length_append,
        List.mem_append] at member
      rcases member with inFirst | inRest
      · have stands :=
          segment.standsIn_of_mem_calls_placed before
            (segmentCharacters rest ++ after) call inFirst
        simpa [segmentCharacters] using stands
      · have stands :=
          standsIn_of_mem_calls_placedSegments rest
            (before ++ segment.characters) after call inRest
        simpa [segmentCharacters] using stands

theorem standsIn_of_mem_calls_placedArguments :
    ∀ (arguments : List Template) (before after : List Char),
      ∀ call ∈ callsInArguments (placedArguments arguments before.length),
        call.StandsIn (before ++ argumentCharacters arguments ++ after)
  | [], _, _, _, member => by
      simp [placedArguments, callsInArguments] at member
  | [last], before, after, call, member => by
      simp only [placedArguments, callsInArguments, List.append_nil] at member
      exact last.standsIn_of_mem_calls_placed before after call member
  | argument :: next :: rest, before, after, call, member => by
      rw [placedArguments, callsInArguments, List.mem_append] at member
      rcases member with inFirst | inRest
      · have stands :=
          argument.standsIn_of_mem_calls_placed before
            (',' :: argumentCharacters (next :: rest) ++ after) call inFirst
        simpa [argumentCharacters] using stands
      · have passed :
            (before ++ argument.characters ++ [',']).length =
              before.length + argument.characters.length + 1 := by
          simp only [List.length_append, List.length_cons, List.length_nil]
        rw [← passed] at inRest
        have stands :=
          standsIn_of_mem_calls_placedArguments (next :: rest)
            (before ++ argument.characters ++ [',']) after call inRest
        simpa [argumentCharacters] using stands

end

theorem Template.standsIn_source_of_mem_calls_placed (template : Template) :
    ∀ call ∈ (template.placed 0).calls,
      call.StandsIn template.source.toList := by
  intro call member
  have stands := template.standsIn_of_mem_calls_placed [] [] call member
  simpa [Template.source] using stands

/-! ## Round trips -/

/-- Placing changes nothing in a template that was read. -/
theorem Template.placed_of_parse {limit : Nat} {source : String}
    {template : Template} (accepted : Template.parse limit source = .ok template) :
    template.placed 0 = template := by
  obtain ⟨canonical, fits, written⟩ := isCanonical_of_parse accepted
  have again := parse_source canonical fits
  rw [written, accepted] at again
  exact (Except.ok.inj again).symm

/-- A template that is read from a source is written back as that source, has
every call at its position in the source, keeps to the nesting limit and is
canonical. -/
theorem Template.source_eq_of_parse {limit : Nat} {source : String}
    {template : Template} (accepted : Template.parse limit source = .ok template) :
    template.source = source ∧
      template.placed 0 = template ∧
      (∀ call ∈ template.calls, call.StandsIn source.toList) ∧
      template.nesting ≤ limit ∧
      template.IsCanonical := by
  obtain ⟨canonical, fits, written⟩ := isCanonical_of_parse accepted
  have placed := placed_of_parse accepted
  refine ⟨written, placed, ?_, fits, canonical⟩
  intro call member
  rw [← placed] at member
  rw [← written]
  exact template.standsIn_source_of_mem_calls_placed call member

/-- A template with segments of every kind: quotes at the front and at the end
of quoted text, text that quotes interrupt between parentheses, an empty
argument, and a call without arguments inside a block inside an argument. -/
def Template.sample : Template :=
  ⟨[.literal "a", .quoted "''b", .literal "c",
    .call "f" [⟨[.literal "(x,", .quoted "q", .literal ")y"]⟩, ⟨[]⟩,
      ⟨[.conditional ⟨[.call "g" [] 23, .field "e", .literal ")"]⟩]⟩] 9,
    .quoted "d'"]⟩

theorem Template.source_eq_of_parse_sample :
    Template.parse 3 "a'''''b'c$f((x,'q')y,,[$g()%e%)])'d'''" = .ok sample ∧
      sample.source = "a'''''b'c$f((x,'q')y,,[$g()%e%)])'d'''" ∧
      sample.placed 0 = sample ∧
      (∀ call ∈ sample.calls,
        call.StandsIn "a'''''b'c$f((x,'q')y,,[$g()%e%)])'d'''".toList) ∧
      sample.nesting ≤ 3 ∧
      sample.IsCanonical := by
  have accepted :
      Template.parse 3 "a'''''b'c$f((x,'q')y,,[$g()%e%)])'d'''" = .ok sample :=
    rfl
  exact ⟨accepted, source_eq_of_parse accepted⟩

/-- A canonical template within the limit is read back from its source with
every call at its position in it. Templates that share a source differ in
positions only, and what can be read is what canonical templates are written
as. -/
theorem Template.canonicalReadsBack (limit : Nat) :
    (∀ template : Template,
      template.IsCanonical → template.nesting ≤ limit →
        Template.parse limit template.source = .ok (template.placed 0) ∧
          ∀ call ∈ (template.placed 0).calls,
            call.StandsIn template.source.toList) ∧
    (∀ first second : Template,
      first.IsCanonical → second.IsCanonical → first.source = second.source →
        first.placed 0 = second.placed 0) ∧
    (∀ source : String,
      (∃ template, Template.parse limit source = .ok template) ↔
        ∃ template : Template,
          template.IsCanonical ∧ template.nesting ≤ limit ∧
            template.source = source) := by
  refine ⟨?_, ?_, ?_⟩
  · intro template canonical fits
    exact ⟨parse_source canonical fits,
      template.standsIn_source_of_mem_calls_placed⟩
  · intro first second firstCanonical secondCanonical shared
    have firstRead :=
      parse_source firstCanonical (Nat.le_max_left first.nesting second.nesting)
    have secondRead :=
      parse_source secondCanonical (Nat.le_max_right first.nesting second.nesting)
    rw [shared, secondRead] at firstRead
    exact (Except.ok.inj firstRead).symm
  · intro source
    constructor
    · rintro ⟨template, accepted⟩
      exact ⟨template, isCanonical_of_parse accepted⟩
    · rintro ⟨template, canonical, fits, rfl⟩
      exact ⟨template.placed 0, parse_source canonical fits⟩

theorem Template.canonicalReadsBack_sample :
    sample.IsCanonical ∧ sample.nesting ≤ 3 ∧
      Template.parse 3 sample.source = .ok (sample.placed 0) ∧
      (sample.placed 7).IsCanonical ∧
      (sample.placed 7).source = sample.source ∧
      (sample.placed 7).placed 0 = sample.placed 0 := by
  have canonical : sample.IsCanonical := by
    decide
  have fits : sample.nesting ≤ 3 := by
    decide
  have movedCanonical : (sample.placed 7).IsCanonical := by
    decide
  have shared : (sample.placed 7).source = sample.source := by
    rfl
  have readsBack := canonicalReadsBack 3
  exact ⟨canonical, fits, (readsBack.1 sample canonical fits).1, movedCanonical,
    shared, readsBack.2.1 _ _ movedCanonical canonical shared⟩

end TitleFormatting
