import TitleFormatting.Proofs.Template.Failure
import TitleFormatting.Proofs.Template.Limit

/-!
# Where a limit cuts

The openings of a template are its brackets and the dollar signs of its calls, each
with the level of nesting on which its contents lie.  A limit cuts a source at the
first opening that leads below it.  Apart from that it changes nothing: what fails
within a limit fails within every lower one, with the same error or too deep.
-/

namespace TitleFormatting

open Token (placeFrom placeFrom_append)

/-! ## Openings -/

/-- A bracket, or the dollar sign of a call, as it stands in a source. -/
structure Opening where
  character : Char
  /-- How many blocks and argument lists the contents lie in. -/
  level : Nat
  location : Location

mutual

/-- The openings of a segment that lies this deep and stands here, in the order of
the source. -/
def Segment.openings : Segment → Nat → Location → List Opening
  | .literal _, _, _ | .quoted _, _, _ | .field _, _, _ => []
  | .call name arguments _, depth, here =>
      ⟨'$', depth + 1, here⟩ ::
        argumentOpenings arguments (depth + 1) (here.after ('$' :: name.toList ++ ['(']))
  | .conditional body, depth, here =>
      ⟨'[', depth + 1, here⟩ :: body.openings (depth + 1) (here.next '[')

def Template.openings : Template → Nat → Location → List Opening
  | ⟨segments⟩, depth, here => segmentOpenings segments depth here

def segmentOpenings : List Segment → Nat → Location → List Opening
  | [], _, _ => []
  | segment :: rest, depth, here =>
      segment.openings depth here ++
        segmentOpenings rest depth (here.after segment.characters)

/-- The openings of arguments with a comma behind each but the last. -/
def argumentOpenings : List Template → Nat → Location → List Opening
  | [], _, _ => []
  | argument :: rest, depth, here =>
      argument.openings depth here ++
        argumentOpenings rest depth ((here.after argument.characters).next ',')

end

namespace Opening

/-- The opening is written in these characters, which stand here, and leads no deeper
than this. -/
structure LiesIn (opening : Opening) (deepest : Nat) (here : Location)
    (characters : List Char) : Prop where
  level : opening.level ≤ deepest
  written : ∃ before after, characters = before ++ opening.character :: after ∧
    opening.location = here.after before

variable {opening : Opening} {deepest : Nat} {here : Location} {characters : List Char}

theorem LiesIn.within {front : List Char}
    (inner : opening.LiesIn deepest (here.after front) characters) {deeper : Nat}
    (atMost : deepest ≤ deeper) (back : List Char) :
    opening.LiesIn deeper here (front ++ characters ++ back) := by
  obtain ⟨before, after, split, location⟩ := inner.written
  refine ⟨inner.level.trans atMost, front ++ before, after ++ back, ?_, ?_⟩
  · rw [split]
    simp only [List.append_assoc, List.cons_append]
  · rw [location, Location.after_append]

theorem LiesIn.position (lies : opening.LiesIn deepest here characters) :
    here.position ≤ opening.location.position ∧
      opening.location.position < here.position + characters.length := by
  obtain ⟨before, after, split, location⟩ := lies.written
  rw [location, Location.position_after, split, List.length_append, List.length_cons]
  omega

end Opening

mutual

theorem Segment.liesIn_of_mem_openings :
    ∀ (segment : Segment) (depth : Nat) (here : Location),
      ∀ opening ∈ segment.openings depth here,
        opening.LiesIn (depth + segment.nesting) here segment.characters
  | .literal _, _, _, _, member | .quoted _, _, _, _, member | .field _, _, _, _, member => by
      simp [Segment.openings] at member
  | .call name arguments _, depth, here, opening, member => by
      rw [Segment.openings, List.mem_cons] at member
      rw [Segment.nesting]
      rcases member with rfl | inside
      · have level : depth + 1 ≤ depth + (argumentNesting arguments + 1) := by
          omega
        exact ⟨level, [], _, rfl, rfl⟩
      · have inner := liesIn_of_mem_argumentOpenings arguments (depth + 1) _ opening inside
        have atMost : depth + 1 + argumentNesting arguments ≤
            depth + (argumentNesting arguments + 1) := by
          omega
        simpa [Segment.characters] using inner.within atMost [')']
  | .conditional body, depth, here, opening, member => by
      rw [Segment.openings, List.mem_cons] at member
      rw [Segment.nesting]
      rcases member with rfl | inside
      · have level : depth + 1 ≤ depth + (body.nesting + 1) := by
          omega
        exact ⟨level, [], _, rfl, rfl⟩
      · have inner := body.liesIn_of_mem_openings (depth + 1) (here.after ['[']) opening inside
        exact inner.within (by omega) [']']

theorem Template.liesIn_of_mem_openings :
    ∀ (template : Template) (depth : Nat) (here : Location),
      ∀ opening ∈ template.openings depth here,
        opening.LiesIn (depth + template.nesting) here template.characters
  | ⟨segments⟩, depth, here, opening, member =>
      liesIn_of_mem_segmentOpenings segments depth here opening member

theorem liesIn_of_mem_segmentOpenings :
    ∀ (segments : List Segment) (depth : Nat) (here : Location),
      ∀ opening ∈ segmentOpenings segments depth here,
        opening.LiesIn (depth + segmentNesting segments) here (segmentCharacters segments)
  | [], _, _, _, member => by
      simp [segmentOpenings] at member
  | segment :: rest, depth, here, opening, member => by
      rw [segmentOpenings, List.mem_append] at member
      rw [segmentNesting, segmentCharacters]
      rcases member with inFirst | inRest
      · have inner : opening.LiesIn _ (here.after []) _ :=
          segment.liesIn_of_mem_openings depth here opening inFirst
        exact inner.within (by omega) (segmentCharacters rest)
      · have inner := liesIn_of_mem_segmentOpenings rest depth _ opening inRest
        have atMost : depth + segmentNesting rest ≤
            depth + max segment.nesting (segmentNesting rest) := by
          omega
        simpa using inner.within atMost []

theorem liesIn_of_mem_argumentOpenings :
    ∀ (arguments : List Template) (depth : Nat) (here : Location),
      ∀ opening ∈ argumentOpenings arguments depth here,
        opening.LiesIn (depth + argumentNesting arguments) here
          (argumentCharacters arguments)
  | [], _, _, _, member => by
      simp [argumentOpenings] at member
  | [last], depth, here, opening, member => by
      rw [argumentOpenings, argumentOpenings, List.append_nil] at member
      have inner : opening.LiesIn _ (here.after []) _ :=
        last.liesIn_of_mem_openings depth here opening member
      have atMost : depth + last.nesting ≤ depth + argumentNesting [last] := by
        rw [argumentNesting]
        omega
      simpa [argumentCharacters] using inner.within atMost []
  | argument :: next :: rest, depth, here, opening, member => by
      rw [argumentOpenings, List.mem_append] at member
      rw [argumentNesting, argumentCharacters]
      rcases member with inFirst | inRest
      · have inner : opening.LiesIn _ (here.after []) _ :=
          argument.liesIn_of_mem_openings depth here opening inFirst
        exact inner.within (by omega) _
      · have placed : (here.after argument.characters).next ',' =
            here.after (argument.characters ++ [',']) := by
          simp
        rw [placed] at inRest
        have inner := liesIn_of_mem_argumentOpenings (next :: rest) depth _ opening inRest
        have atMost : depth + argumentNesting (next :: rest) ≤
            depth + max argument.nesting (argumentNesting (next :: rest)) := by
          omega
        simpa using inner.within atMost []

end

mutual

/-- The openings are listed from left to right. -/
theorem Segment.pairwise_openings :
    ∀ (segment : Segment) (depth : Nat) (here : Location),
      (segment.openings depth here).Pairwise fun first second =>
        first.location.position < second.location.position
  | .literal _, _, _ | .quoted _, _, _ | .field _, _, _ => List.Pairwise.nil
  | .call name arguments _, depth, here => by
      rw [Segment.openings, List.pairwise_cons]
      refine ⟨?_, pairwise_argumentOpenings arguments (depth + 1) _⟩
      intro inner member
      have lies := liesIn_of_mem_argumentOpenings arguments (depth + 1) _ inner member
      have behind := lies.position.1
      simp only [Location.position_after, List.length_append, List.length_cons] at behind
      change here.position < inner.location.position
      omega
  | .conditional body, depth, here => by
      rw [Segment.openings, List.pairwise_cons]
      refine ⟨?_, body.pairwise_openings (depth + 1) _⟩
      intro inner member
      have lies := body.liesIn_of_mem_openings (depth + 1) _ inner member
      have behind := lies.position.1
      rw [Location.position_next] at behind
      exact behind

theorem Template.pairwise_openings :
    ∀ (template : Template) (depth : Nat) (here : Location),
      (template.openings depth here).Pairwise fun first second =>
        first.location.position < second.location.position
  | ⟨segments⟩, depth, here => pairwise_segmentOpenings segments depth here

theorem pairwise_segmentOpenings :
    ∀ (segments : List Segment) (depth : Nat) (here : Location),
      (segmentOpenings segments depth here).Pairwise fun first second =>
        first.location.position < second.location.position
  | [], _, _ => List.Pairwise.nil
  | segment :: rest, depth, here => by
      rw [segmentOpenings, List.pairwise_append]
      refine ⟨segment.pairwise_openings depth here, pairwise_segmentOpenings rest depth _, ?_⟩
      intro first inFirst second inRest
      have before := (segment.liesIn_of_mem_openings depth here first inFirst).position.2
      have behind := (liesIn_of_mem_segmentOpenings rest depth _ second inRest).position.1
      rw [Location.position_after] at behind
      omega

theorem pairwise_argumentOpenings :
    ∀ (arguments : List Template) (depth : Nat) (here : Location),
      (argumentOpenings arguments depth here).Pairwise fun first second =>
        first.location.position < second.location.position
  | [], _, _ => List.Pairwise.nil
  | argument :: rest, depth, here => by
      rw [argumentOpenings, List.pairwise_append]
      refine ⟨argument.pairwise_openings depth here,
        pairwise_argumentOpenings rest depth _, ?_⟩
      intro first inFirst second inRest
      have before := (argument.liesIn_of_mem_openings depth here first inFirst).position.2
      have behind := (liesIn_of_mem_argumentOpenings rest depth _ second inRest).position.1
      rw [Location.position_next, Location.position_after] at behind
      omega

end

/-! ## Where reading stops -/

/-- The result is the error of the first opening that leads deeper than the limit, and
it leads just one level deeper. -/
def StopsAt (limit : Nat) (openings : List Opening) {α : Type}
    (result : Except SyntaxError α) : Prop :=
  ∃ opening, openings.find? (fun opening => limit < opening.level) = some opening ∧
    opening.level = limit + 1 ∧
    result = .error ⟨.depthExceeded opening.character limit, opening.location⟩

namespace StopsAt

variable {limit : Nat} {openings more : List Opening} {α β : Type}

theorem head {character : Char} {level : Nat} {location : Location}
    (deeper : level = limit + 1) :
    StopsAt limit (⟨character, level, location⟩ :: openings)
      (.error ⟨.depthExceeded character limit, location⟩ : Except SyntaxError α) := by
  refine ⟨⟨character, level, location⟩, ?_, deeper, rfl⟩
  apply List.find?_cons_of_pos
  exact decide_eq_true (Nat.lt_of_succ_le deeper.ge)

theorem bind {action : Except SyntaxError α} (stops : StopsAt limit openings action)
    (next : α → Except SyntaxError β) : StopsAt limit openings (action >>= next) := by
  obtain ⟨opening, first, level, rfl⟩ := stops
  exact ⟨opening, first, level, rfl⟩

theorem append {result : Except SyntaxError α} (stops : StopsAt limit openings result)
    (more : List Opening) : StopsAt limit (openings ++ more) result := by
  obtain ⟨opening, first, level, rfl⟩ := stops
  refine ⟨opening, ?_, level, rfl⟩
  rw [List.find?_append, first, Option.some_or]

theorem behind {result : Except SyntaxError α} (stops : StopsAt limit more result)
    (fits : ∀ opening ∈ openings, opening.level ≤ limit) :
    StopsAt limit (openings ++ more) result := by
  obtain ⟨opening, first, level, rfl⟩ := stops
  refine ⟨opening, ?_, level, rfl⟩
  have none : openings.find? (fun opening => limit < opening.level) = none := by
    rw [List.find?_eq_none]
    intro other member
    have atMost := fits other member
    simpa using atMost
  rw [List.find?_append, none, Option.none_or, first]

theorem behind_opening {result : Except SyntaxError α} {character : Char} {level : Nat}
    {location : Location} (stops : StopsAt limit openings result) (fits : level ≤ limit) :
    StopsAt limit (⟨character, level, location⟩ :: openings) result :=
  stops.behind (List.forall_mem_singleton.mpr fits)

end StopsAt

mutual

/-- The tokens of a segment that is nested too deep are refused at an opening. -/
theorem Segment.stopsAt_tokens (limit : Nat) :
    ∀ (segment : Segment), segment.IsCanonical →
      ∀ (here : Location) (frames : List Frame) (draft : Draft),
        frames.length ≤ limit → limit < frames.length + segment.nesting →
        StopsAt limit (segment.openings frames.length here)
          ((placeFrom here segment.tokens).foldlM (Assembly.step limit) ⟨draft, frames⟩)
  | .literal _, _, _, _, _, fits, tooDeep | .quoted _, _, _, _, _, fits, tooDeep
  | .field _, _, _, _, _, fits, tooDeep => by
      rw [Segment.nesting] at tooDeep
      omega
  | .call name arguments _, canonical, here, frames, draft, fits, tooDeep => by
      simp only [Segment.IsCanonical] at canonical
      rw [Segment.nesting] at tooDeep
      rw [Segment.tokens, placeFrom, List.foldlM_cons, Segment.openings]
      simp only [Assembly.step, Assembly.openFrame]
      by_cases room : frames.length < limit
      · have inner := stopsAt_argumentTokens limit arguments canonical.2.2
          (here.after ('$' :: name.toList ++ ['('])) frames name [] here draft
          [.plain ')'] room (by omega)
        simp only [if_pos room, bind, Except.bind]
        exact inner.behind_opening room
      · rw [if_neg room]
        apply StopsAt.bind
        apply StopsAt.head
        omega
  | .conditional body, canonical, here, frames, draft, fits, tooDeep => by
      simp only [Segment.IsCanonical] at canonical
      rw [Segment.nesting] at tooDeep
      rw [Segment.tokens, placeFrom, List.foldlM_cons, Segment.openings]
      simp only [Assembly.step, Assembly.openFrame]
      by_cases room : frames.length < limit
      · have inner := body.stopsAt_tokens limit canonical (here.next '[')
          (⟨.block, here, draft⟩ :: frames) 0 room
          (by simp only [List.length_cons]; omega)
          (Assembly.foldlM_countParentheses_block _ _ _ _ _)
        simp only [if_pos room, bind, Except.bind]
        rw [placeFrom_append, List.foldlM_append]
        exact (inner.bind _).behind_opening room
      · rw [if_neg room]
        apply StopsAt.bind
        apply StopsAt.head
        omega

theorem Template.stopsAt_tokens (limit : Nat) :
    ∀ (template : Template), template.IsCanonical →
      ∀ (here : Location) (frames : List Frame) (after : Nat),
        frames.length ≤ limit → limit < frames.length + template.nesting →
        template.plainCharacters.foldlM (Assembly.countParentheses frames) 0 =
          some after →
        StopsAt limit (template.openings frames.length here)
          ((placeFrom here template.tokens).foldlM (Assembly.step limit)
            ⟨.empty, frames⟩)
  | ⟨segments⟩, canonical, here, frames, after, fits, tooDeep, counted => by
      simp only [Template.IsCanonical] at canonical
      exact stopsAt_segmentTokens limit segments canonical.1 canonical.2 here frames []
        0 after fits tooDeep (by simp) counted

theorem stopsAt_segmentTokens (limit : Nat) :
    ∀ (segments : List Segment),
      segments.IsChain (fun first second => first.joins second = false) →
      SegmentsCanonical segments →
      ∀ (here : Location) (frames : List Frame) (before : List Segment)
        (count after : Nat),
        frames.length ≤ limit → limit < frames.length + segmentNesting segments →
        (∀ last ∈ before.head?, ∀ first ∈ segments.head?, last.joins first = false) →
        (segments.flatMap Segment.plainCharacters).foldlM
            (Assembly.countParentheses frames) count = some after →
        StopsAt limit (segmentOpenings segments frames.length here)
          ((placeFrom here (segmentTokens segments)).foldlM (Assembly.step limit)
            ⟨⟨before, count⟩, frames⟩)
  | [], _, _, _, _, _, _, _, fits, tooDeep, _, _ => by
      rw [segmentNesting] at tooDeep
      omega
  | segment :: rest, chain, canonical, here, frames, before, count, after, fits,
      tooDeep, separate, counted => by
      simp only [SegmentsCanonical] at canonical
      rw [segmentNesting] at tooDeep
      rw [segmentTokens, placeFrom_append, List.foldlM_append,
        segment.flatMap_characters_tokens, segmentOpenings]
      by_cases firstFits : frames.length + segment.nesting ≤ limit
      · obtain ⟨separateHead, separateRest⟩ := List.isChain_cons.mp chain
        rw [List.flatMap_cons, List.foldlM_append] at counted
        obtain ⟨middle, first, others⟩ := Option.bind_eq_some_iff.mp counted
        have shallow : ∀ opening ∈ segment.openings frames.length here,
            opening.level ≤ limit := by
          intro opening member
          have lies := segment.liesIn_of_mem_openings frames.length here opening member
          exact lies.level.trans firstFits
        rw [segment.foldlM_step_tokens limit canonical.1 here frames before count
          middle firstFits (fun last member => separate last member segment rfl) first]
        apply StopsAt.behind _ shallow
        apply stopsAt_segmentTokens limit rest separateRest canonical.2 _ frames _ middle
          after fits (by omega) _ others
        intro last lastMember next nextMember
        obtain rfl : segment.placed here.position = last := by
          simpa using lastMember
        rw [Segment.joins_placed]
        exact separateHead next nextMember
      · apply StopsAt.append
        apply StopsAt.bind
        exact segment.stopsAt_tokens limit canonical.1 here frames _ fits (by omega)

/-- The tokens of the arguments that are left, with whatever is behind them. -/
theorem stopsAt_argumentTokens (limit : Nat) :
    ∀ (arguments : List Template), ArgumentsCanonical arguments →
      ∀ (here : Location) (frames : List Frame) (name : String)
        (finished : List Template) (location : Location) (outer : Draft)
        (behind : List Token),
        frames.length + 1 ≤ limit →
        limit < frames.length + 1 + argumentNesting arguments →
        StopsAt limit (argumentOpenings arguments (frames.length + 1) here)
          ((placeFrom here (argumentTokens arguments ++ behind)).foldlM
            (Assembly.step limit)
            ⟨.empty, ⟨.call name finished, location, outer⟩ :: frames⟩)
  | [], _, _, _, _, _, _, _, _, fits, tooDeep => by
      rw [argumentNesting] at tooDeep
      omega
  | [argument], canonical, here, frames, name, finished, location, outer, behind, fits,
      tooDeep => by
      rw [ArgumentsCanonical] at canonical
      rw [argumentNesting, argumentNesting] at tooDeep
      rw [argumentTokens, placeFrom_append, List.foldlM_append, argumentOpenings]
      apply StopsAt.append
      apply StopsAt.bind
      exact argument.stopsAt_tokens limit canonical.1.1 here
        (⟨.call name finished, location, outer⟩ :: frames) 0 fits
        (by simp only [List.length_cons]; omega)
        (by rw [Assembly.countParentheses_call]; exact canonical.1.2)
  | argument :: next :: rest, canonical, here, frames, name, finished, location, outer,
      behind, fits, tooDeep => by
      rw [ArgumentsCanonical] at canonical
      rw [argumentNesting] at tooDeep
      have counted : argument.plainCharacters.foldlM
          (Assembly.countParentheses (⟨.call name finished, location, outer⟩ :: frames)) 0 =
            some 0 := by
        rw [Assembly.countParentheses_call]
        exact canonical.1.2
      rw [argumentTokens, List.append_assoc, placeFrom_append, List.foldlM_append,
        argument.flatMap_characters_tokens, argumentOpenings]
      by_cases firstFits : frames.length + 1 + argument.nesting ≤ limit
      · have shallow : ∀ opening ∈ argument.openings (frames.length + 1) here,
            opening.level ≤ limit := by
          intro opening member
          have lies := argument.liesIn_of_mem_openings (frames.length + 1) here opening
            member
          exact lies.level.trans firstFits
        have taken := argument.foldlM_step_tokens limit canonical.1.1 here
          (⟨.call name finished, location, outer⟩ :: frames) 0
          (by simp only [List.length_cons]; omega) counted
        rw [Draft.empty, taken]
        simp only [List.cons_append, placeFrom, List.foldlM_cons, Assembly.step, bind,
          Except.bind]
        rw [Assembly.takePlain_comma, List.reverse_reverse]
        apply StopsAt.behind _ shallow
        exact stopsAt_argumentTokens limit (next :: rest) canonical.2
          ((here.after argument.characters).next ',') frames name _ location outer behind
          fits (by omega)
      · apply StopsAt.append
        apply StopsAt.bind
        exact argument.stopsAt_tokens limit canonical.1.1 here
          (⟨.call name finished, location, outer⟩ :: frames) 0 fits
          (by simp only [List.length_cons]; omega) counted

end

namespace Template

/-- A canonical template that is nested deeper than the limit is refused at its first
opening that leads deeper. -/
theorem stopsAt_parse_source {limit : Nat} {template : Template}
    (canonical : template.IsCanonical) (tooDeep : limit < template.nesting) :
    StopsAt limit (template.openings 0 .start)
      (Template.parse limit template.source) := by
  have scanned : Token.scan template.source.toList =
      ⟨placeFrom .start template.tokens, none⟩ := by
    rw [Template.source, String.toList_ofList, ← template.flatMap_characters_tokens]
    exact Token.scanFrom_flatMap_characters _ (template.lexical_tokens canonical)
  have stops := template.stopsAt_tokens limit canonical .start [] 0 (Nat.zero_le limit)
    (by simpa using tooDeep) (Assembly.foldlM_countParentheses_nil 0 _)
  rw [Template.parse, scanned]
  exact stops.bind _

/-- The opening is the leftmost one of a template that leads to this level, and its
character stands at its place in the source. -/
structure IsLeftmost (template : Template) (level : Nat) (opening : Opening) : Prop where
  member : opening ∈ template.openings 0 .start
  reaches : opening.level = level
  leftmost : ∀ other ∈ template.openings 0 .start, other.level = level →
    opening.location.position ≤ other.location.position
  written : ∃ before after,
    template.source.toList = before ++ opening.character :: after ∧
      opening.location = Location.start.after before

theorem isLeftmost_of_find?_eq_some {template : Template} {limit : Nat} {opening : Opening}
    (first : (template.openings 0 .start).find? (fun opening => limit < opening.level) =
      some opening)
    (level : opening.level = limit + 1) : template.IsLeftmost (limit + 1) opening := by
  have sorted := template.pairwise_openings 0 .start
  obtain ⟨-, before, after, split, shallow⟩ := List.find?_eq_some_iff_append.mp first
  have member : opening ∈ template.openings 0 .start := List.mem_of_find?_eq_some first
  have lies := template.liesIn_of_mem_openings 0 .start opening member
  refine ⟨member, level, ?_, ?_⟩
  · intro other otherMember otherLevel
    rw [split] at otherMember sorted
    rcases List.mem_append.mp otherMember with earlier | later
    · have atMost := shallow other earlier
      rw [otherLevel] at atMost
      simp at atMost
    · have behind := (List.pairwise_cons.mp (List.pairwise_append.mp sorted).2.1).1
      rcases List.mem_cons.mp later with rfl | behindMember
      · exact Nat.le_refl _
      · exact (behind other behindMember).le
  · rw [Template.source, String.toList_ofList]
    exact lies.written

end Template

/-! ## Errors within a lower limit -/

/-- A token that is refused within a limit is refused within every lower one. -/
theorem Assembly.step_eq_error_of_lower {limit higher : Nat} (atMost : limit ≤ higher)
    {assembly : Assembly} {placed : PlacedToken} {error : SyntaxError}
    (refused : step higher assembly placed = .error error) :
    step limit assembly placed = .error error ∨
      ∃ opener, step limit assembly placed =
        .error ⟨.depthExceeded opener limit, placed.location⟩ := by
  obtain ⟨token, location⟩ := placed
  have tooDeep {opener : Opener} {character : Char}
      (stopped : assembly.openFrame higher opener character location = .error error) :
      assembly.openFrame limit opener character location =
        .error ⟨.depthExceeded character limit, location⟩ := by
    unfold openFrame at stopped ⊢
    by_cases room : assembly.frames.length < higher
    · rw [if_pos room] at stopped
      contradiction
    · apply if_neg
      omega
  cases token with
  | plain c | quoted text | field name =>
      contradiction
  | closeBlock =>
      exact Or.inl refused
  | openCall name =>
      exact Or.inr ⟨'$', tooDeep refused⟩
  | openBlock =>
      exact Or.inr ⟨'[', tooDeep refused⟩

/-- The error of a refused token is placed where the token is. -/
theorem Assembly.location_of_step_eq_error {limit : Nat} {assembly : Assembly}
    {placed : PlacedToken} {error : SyntaxError}
    (refused : step limit assembly placed = .error error) :
    error.location = placed.location := by
  rcases step_eq_error refused with ⟨-, rfl⟩ | ⟨-, rfl⟩ | ⟨-, -, rfl⟩ <;> rfl

namespace Template

variable {limit higher : Nat}

/-- Tokens that are taken within a limit are taken within a lower one, unless a source
that begins with them is nested too deep there already. -/
theorem taken_or_failsWith {tokens : List Token} {after : Assembly}
    (lexical : Token.Lexical tokens) (rest : List Char)
    (taken : (placeFrom .start tokens).foldlM (Assembly.step higher) .start = .ok after) :
    (placeFrom .start tokens).foldlM (Assembly.step limit) .start = .ok after ∨
      ∃ opener location,
        FailsWith limit (tokens.flatMap Token.characters ++ rest)
          ⟨.depthExceeded opener limit, location⟩ ∧
        location.position ≤ (tokens.flatMap Token.characters).length := by
  rcases Assembly.foldlM_step_of_eq_ok limit taken with
    same | ⟨-, opener, location, stopped⟩
  · exact Or.inl same
  · right
    obtain ⟨before, placed, behind, middle, split, ran, refused⟩ :=
      Except.exists_step_of_foldlM_eq_error stopped
    obtain ⟨first, token, second, rfl, rfl, rfl⟩ :=
      Token.exists_of_placeFrom_eq_append_cons split
    have place := Assembly.location_of_step_eq_error refused
    have parted : first ++ token :: second = (first ++ [token]) ++ second := by
      rw [List.append_assoc, List.singleton_append]
    rw [parted] at lexical ⊢
    refine ⟨opener, location, ?_, ?_⟩
    · rw [List.flatMap_append, List.append_assoc]
      exact .refused _ lexical.of_append_left ran refused
    · rw [show location = _ from place]
      simp [Location.start]

/-- An error of depth carries the limit that the source was read within. -/
theorem FailsWith.depth_eq {source : List Char} {error : SyntaxError} {character : Char}
    {depth : Nat} (fails : FailsWith limit source error)
    (exceeded : error.fault = .depthExceeded character depth) : depth = limit := by
  cases fails with
  | refused rest lexical taken refuses =>
      rcases Assembly.step_eq_error refuses with ⟨-, rfl⟩ | ⟨-, rfl⟩ | ⟨-, -, rfl⟩
      · contradiction
      · exact (SyntaxFault.depthExceeded.inj exceeded).2.symm
      · exact (SyntaxFault.depthExceeded.inj exceeded).2.symm
  | broken splits taken breaks =>
      obtain rfl := exceeded
      cases breaks
  | unfinished lexical taken =>
      rename_i tokens draft frame frames
      obtain ⟨opener, place, outer⟩ := frame
      cases opener <;> contradiction

/-- What fails within a limit fails within every lower one, with the same error or
because it is nested too deep there. -/
theorem FailsWith.of_lower {source : List Char} {error : SyntaxError}
    (atMost : limit ≤ higher) (fails : FailsWith higher source error) :
    FailsWith limit source error ∨
      ∃ opener location,
        FailsWith limit source ⟨.depthExceeded opener limit, location⟩ ∧
        ∀ character depth, error.fault = .depthExceeded character depth →
          location.position ≤ error.location.position := by
  cases fails with
  | refused rest lexical taken refuses =>
      rename_i tokens token assembly
      have place := Assembly.location_of_step_eq_error refuses
      have position : error.location.position =
          (tokens.flatMap Token.characters).length := by
        rw [place]
        simp [Location.start]
      rcases taken_or_failsWith lexical.of_append_left (token.characters ++ rest) taken with
        same | ⟨opener, location, stopped, earlier⟩
      · rcases Assembly.step_eq_error_of_lower atMost refuses with
          alike | ⟨opener, stopped⟩
        · exact Or.inl (.refused rest lexical same alike)
        · right
          refine ⟨opener, _, .refused rest lexical same stopped, ?_⟩
          intro character depth _
          rw [place]
      · right
        refine ⟨opener, location, ?_, ?_⟩
        · simpa using stopped
        · intro character depth _
          rw [position]
          exact earlier
  | broken splits taken breaks =>
      rename_i rest skipped tokens assembly fault
      rcases taken_or_failsWith splits.lexical rest taken with
        same | ⟨opener, location, stopped, earlier⟩
      · exact Or.inl (.broken splits same breaks)
      · right
        rw [← splits.written] at stopped
        refine ⟨opener, location, stopped, ?_⟩
        intro character depth _
        simp only [Location.position_after, List.length_append]
        omega
  | unfinished lexical taken =>
      rename_i tokens draft frame frames
      rcases taken_or_failsWith lexical [] taken with
        same | ⟨opener, location, stopped, -⟩
      · exact Or.inl (.unfinished lexical same)
      · right
        rw [List.append_nil] at stopped
        refine ⟨opener, location, stopped, ?_⟩
        obtain ⟨frameOpener, place, outer⟩ := frame
        intro character depth exceeded
        cases frameOpener <;> contradiction

/-- Within a lower limit a template is read alike when its nesting keeps to it, and else
it is refused at the leftmost opening that leads one level deeper.  An error stays what it
is unless the source is nested too deep for the lower limit, and what is nested too deep
for the higher limit is nested too deep for the lower one, at the same place or before. -/
theorem parse_within_lower_limit (atMost : limit ≤ higher) (source : String) :
    (∀ template, Template.parse higher source = .ok template →
      (template.nesting ≤ limit → Template.parse limit source = .ok template) ∧
      (limit < template.nesting →
        ∃ opening, template.IsLeftmost (limit + 1) opening ∧
          Template.parse limit source =
            .error ⟨.depthExceeded opening.character limit, opening.location⟩)) ∧
    (∀ error, Template.parse higher source = .error error →
      (∀ character depth, error.fault ≠ .depthExceeded character depth) →
      Template.parse limit source = .error error ∨
        ∃ opener location,
          Template.parse limit source =
            .error ⟨.depthExceeded opener limit, location⟩) ∧
    (∀ character depth location,
      Template.parse higher source =
        .error ⟨.depthExceeded character depth, location⟩ →
      ∃ opener earlier,
        Template.parse limit source = .error ⟨.depthExceeded opener limit, earlier⟩ ∧
          earlier.position ≤ location.position) := by
  refine ⟨?read, ?wrong, ?tooDeep⟩
  case read =>
    intro template accepted
    constructor
    · exact parse_of_nesting_le accepted
    · intro deeper
      obtain ⟨canonical, -, written⟩ := isCanonical_of_parse accepted
      obtain ⟨opening, first, level, stopped⟩ := stopsAt_parse_source canonical deeper
      rw [written] at stopped
      exact ⟨opening, isLeftmost_of_find?_eq_some first level, stopped⟩
  case wrong =>
    intro error failed _
    rcases (parse_eq_error_iff.mp failed).of_lower atMost with
      same | ⟨opener, location, stopped, -⟩
    · exact Or.inl (parse_eq_error_iff.mpr same)
    · exact Or.inr ⟨opener, location, parse_eq_error_iff.mpr stopped⟩
  case tooDeep =>
    intro character depth location failed
    rcases (parse_eq_error_iff.mp failed).of_lower atMost with
      same | ⟨opener, earlier, stopped, notLater⟩
    · obtain rfl : depth = limit := same.depth_eq rfl
      exact ⟨character, location, parse_eq_error_iff.mpr same, Nat.le_refl _⟩
    · exact ⟨opener, earlier, parse_eq_error_iff.mpr stopped, notLater character depth rfl⟩

theorem parse_within_lower_limit_sample :
    1 ≤ 2 ∧
      Template.parse 2 "a[$f()]" = .ok ⟨[.literal "a", .conditional ⟨[.call "f" [] 2]⟩]⟩ ∧
      (∃ opening,
        (⟨[.literal "a", .conditional ⟨[.call "f" [] 2]⟩]⟩ : Template).IsLeftmost 2 opening ∧
          Template.parse 1 "a[$f()]" =
            .error ⟨.depthExceeded opening.character 1, opening.location⟩) ∧
      Template.parse 2 "[[[" = .error ⟨.depthExceeded '[' 2, ⟨2, 2⟩⟩ ∧
      ∃ opener earlier,
        Template.parse 1 "[[[" = .error ⟨.depthExceeded opener 1, earlier⟩ ∧
          earlier.position ≤ 2 := by
  have atMost : 1 ≤ 2 := by
    decide
  have accepted : Template.parse 2 "a[$f()]" =
      .ok ⟨[.literal "a", .conditional ⟨[.call "f" [] 2]⟩]⟩ := by
    rfl
  have failed : Template.parse 2 "[[[" = .error ⟨.depthExceeded '[' 2, ⟨2, 2⟩⟩ := by
    rfl
  have first := (parse_within_lower_limit atMost "a[$f()]").1 _ accepted
  have second := (parse_within_lower_limit atMost "[[[").2.2 _ _ _ failed
  exact ⟨atMost, accepted, first.2 (by decide), failed, second⟩

end Template

end TitleFormatting
