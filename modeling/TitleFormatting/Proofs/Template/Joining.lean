import TitleFormatting.Proofs.Template.RoundTrip

/-!
# Templates one after the other

Two sources that are written one after the other are read as the segments of
the first and then those of the second. Only plain text that meets becomes one
segment, and the calls of the second move on. A quote on either side of the
seam is the exception: the two together are neither an end nor a beginning.
-/

namespace TitleFormatting

/-! ## Joining segments -/

/-- A segment and those behind it. Plain text takes in the plain text that it
meets. -/
def Segment.followedBy : Segment → List Segment → List Segment
  | .literal text, .literal more :: rest => .literal (text ++ more) :: rest
  | segment, rest => segment :: rest

def joinSegments (first second : List Segment) : List Segment :=
  first.foldr Segment.followedBy second

def Template.join (first second : Template) : Template :=
  ⟨joinSegments first.segments second.segments⟩

/-! ## What does not see the seam -/

/-- What is collected from segments is combined from the parts of single ones, in
any grouping, and plain text counts as much as its pieces. -/
structure Collects {Result : Type} (collect : List Segment → Result)
    (part : Segment → Result) (combine : Result → Result → Result) : Prop where
  nil : ∀ result, combine (collect []) result = result
  cons : ∀ segment rest,
    collect (segment :: rest) = combine (part segment) (collect rest)
  assoc : ∀ first second third,
    combine (combine first second) third = combine first (combine second third)
  literal : ∀ text more,
    part (.literal (text ++ more)) =
      combine (part (.literal text)) (part (.literal more))

namespace Collects

variable {Result : Type} {collect : List Segment → Result}
  {part : Segment → Result} {combine : Result → Result → Result}

theorem append (collects : Collects collect part combine)
    (first second : List Segment) :
    collect (first ++ second) = combine (collect first) (collect second) := by
  induction first with
  | nil =>
      rw [List.nil_append, collects.nil]
  | cons segment rest inductionHypothesis =>
      rw [List.cons_append, collects.cons, inductionHypothesis, collects.cons,
        collects.assoc]

theorem followedBy (collects : Collects collect part combine) (segment : Segment)
    (rest : List Segment) :
    collect (segment.followedBy rest) = combine (part segment) (collect rest) := by
  fun_cases Segment.followedBy segment rest with
  | case1 text more rest =>
      rw [collects.cons, collects.literal, collects.cons, collects.assoc]
  | case2 =>
      exact collects.cons segment rest

theorem joinSegments (collects : Collects collect part combine)
    (first second : List Segment) :
    collect (joinSegments first second) =
      combine (collect first) (collect second) := by
  induction first with
  | nil =>
      exact (collects.nil _).symm
  | cons segment rest inductionHypothesis =>
      rw [collects.cons, collects.assoc, ← inductionHypothesis]
      exact collects.followedBy segment (TitleFormatting.joinSegments rest second)

end Collects

theorem collects_characters :
    Collects segmentCharacters Segment.characters (· ++ ·) where
  nil _ := rfl
  cons _ _ := rfl
  assoc := List.append_assoc
  literal _ _ := String.toList_append

theorem collects_nesting : Collects segmentNesting Segment.nesting max where
  nil := Nat.zero_max
  cons _ _ := rfl
  assoc := Nat.max_assoc
  literal _ _ := rfl

theorem collects_calls : Collects callsInSegments Segment.calls (· ++ ·) where
  nil _ := rfl
  cons _ _ := rfl
  assoc := List.append_assoc
  literal _ _ := rfl

theorem Template.calls_join (first second : Template) :
    (first.join second).calls = first.calls ++ second.calls := by
  rcases first with ⟨first⟩
  rcases second with ⟨second⟩
  exact collects_calls.joinSegments first second

theorem joinSegments_ne_nil {first : List Segment} (nonempty : first ≠ [])
    (second : List Segment) : joinSegments first second ≠ [] := by
  obtain ⟨segment, rest, rfl⟩ := List.exists_cons_of_ne_nil nonempty
  rw [joinSegments, List.foldr_cons]
  fun_cases Segment.followedBy segment (rest.foldr Segment.followedBy second) <;>
    simp

/-! ## Canonical templates -/

theorem Segment.isQuoted_of_mem_head?_followedBy {segment head : Segment}
    {rest : List Segment} (member : head ∈ (segment.followedBy rest).head?) :
    head.isQuoted = segment.isQuoted := by
  fun_cases Segment.followedBy segment rest with
  | case1 text more rest =>
      obtain rfl : Segment.literal (text ++ more) = head := by
        simpa [Segment.followedBy] using member
      rfl
  | case2 rest segment different =>
      obtain rfl : segment = head := by
        simpa [Segment.followedBy] using member
      rfl

theorem segmentsCanonical_followedBy {segment : Segment} {rest : List Segment}
    (canonical : segment.IsCanonical) (restCanonical : SegmentsCanonical rest) :
    SegmentsCanonical (segment.followedBy rest) := by
  fun_cases Segment.followedBy segment rest with
  | case1 text more rest =>
      obtain ⟨nonempty, plain⟩ := canonical
      obtain ⟨⟨_, morePlain⟩, othersCanonical⟩ := restCanonical
      refine ⟨?_, othersCanonical⟩
      rw [Segment.IsCanonical, String.toList_append]
      exact ⟨List.append_ne_nil_of_left_ne_nil nonempty _,
        List.forall_mem_append.mpr ⟨plain, morePlain⟩⟩
  | case2 =>
      exact ⟨canonical, restCanonical⟩

theorem segmentsCanonical_joinSegments {first second : List Segment}
    (firstCanonical : SegmentsCanonical first)
    (secondCanonical : SegmentsCanonical second) :
    SegmentsCanonical (joinSegments first second) := by
  induction first with
  | nil =>
      exact secondCanonical
  | cons segment rest inductionHypothesis =>
      exact segmentsCanonical_followedBy firstCanonical.1
        (inductionHypothesis firstCanonical.2)

theorem Segment.kinds_of_joins {first second : Segment}
    (joined : first.joins second = true) :
    (∃ text more, first = .literal text ∧ second = .literal more) ∨
      (first.isQuoted ∧ second.isQuoted) := by
  fun_cases Segment.joins first second with
  | case1 text more =>
      exact Or.inl ⟨text, more, rfl, rfl⟩
  | case2 text more =>
      exact Or.inr ⟨rfl, rfl⟩
  | case3 =>
      simp [Segment.joins] at joined

theorem isChain_followedBy {segment : Segment} {rest : List Segment}
    (chain : rest.IsChain fun first second => first.joins second = false)
    (apart : ∀ next ∈ rest.head?, segment.isQuoted → ¬ next.isQuoted) :
    (segment.followedBy rest).IsChain fun first second =>
      first.joins second = false := by
  fun_cases Segment.followedBy segment rest with
  | case1 text more rest =>
      cases rest with
      | nil =>
          exact List.isChain_singleton _
      | cons next others =>
          have alike : (Segment.literal (text ++ more)).joins next =
              (Segment.literal more).joins next := by
            cases next <;> rfl
          rw [List.isChain_cons_cons] at chain ⊢
          rwa [alike]
  | case2 segment rest different =>
      refine List.isChain_cons.mpr ⟨?_, chain⟩
      intro next member
      obtain ⟨others, rfl⟩ := List.head?_eq_some_iff.mp member
      cases joined : segment.joins next with
      | false =>
          rfl
      | true =>
          rcases Segment.kinds_of_joins joined with
            ⟨text, more, rfl, rfl⟩ | ⟨quoted, nextQuoted⟩
          · exact (different text more others rfl rfl).elim
          · exact absurd nextQuoted (apart next rfl quoted)

theorem isChain_joinSegments {first second : List Segment}
    (firstChain : first.IsChain fun first second => first.joins second = false)
    (secondChain : second.IsChain fun first second => first.joins second = false)
    (apart : ∀ last ∈ first.getLast?, ∀ next ∈ second.head?,
      last.isQuoted → ¬ next.isQuoted) :
    (joinSegments first second).IsChain fun first second =>
      first.joins second = false := by
  induction first with
  | nil =>
      exact secondChain
  | cons segment rest inductionHypothesis =>
      cases rest with
      | nil =>
          exact isChain_followedBy secondChain (apart segment rfl)
      | cons inner others =>
          -- What stands behind the segment is as quoted as the next segment was.
          rw [List.isChain_cons_cons] at firstChain
          rw [List.getLast?_cons_cons] at apart
          refine isChain_followedBy (inductionHypothesis firstChain.2 apart) ?_
          intro next member quoted nextQuoted
          rw [Segment.isQuoted_of_mem_head?_followedBy member] at nextQuoted
          rw [joins_of_isQuoted quoted nextQuoted] at firstChain
          simp at firstChain

theorem Template.isCanonical_join {first second : Template}
    (firstCanonical : first.IsCanonical) (secondCanonical : second.IsCanonical)
    (apart : ∀ last ∈ first.segments.getLast?, ∀ next ∈ second.segments.head?,
      last.isQuoted → ¬ next.isQuoted) :
    (first.join second).IsCanonical := by
  rcases first with ⟨first⟩
  rcases second with ⟨second⟩
  obtain ⟨firstChain, firstCanonical⟩ := firstCanonical
  obtain ⟨secondChain, secondCanonical⟩ := secondCanonical
  exact ⟨isChain_joinSegments firstChain secondChain apart,
    segmentsCanonical_joinSegments firstCanonical secondCanonical⟩

/-! ## Quotes at the seam -/

theorem head?_quotedCharacters {text : List Char} (nonempty : text ≠ []) :
    (quotedCharacters text).head? = some '\'' := by
  obtain ⟨c, rest, rfl⟩ := List.exists_cons_of_ne_nil nonempty
  by_cases quote : c = '\'' <;> simp [quotedCharacters, quote]

theorem getLast?_quotedCharacters {text : List Char} (nonempty : text ≠ []) :
    (quotedCharacters text).getLast? = some '\'' := by
  induction text with
  | nil =>
      contradiction
  | cons c rest inductionHypothesis =>
      by_cases quote : c = '\''
      · rw [quotedCharacters, if_pos quote]
        by_cases last : rest = []
        · rw [last]
          rfl
        · rw [List.getLast?_cons_cons, List.getLast?_cons,
            inductionHypothesis last]
          rfl
      · rw [quotedCharacters, if_neg quote, List.getLast?_append]
        rfl

/-- A quoted segment at the end is written with a quote at the end. -/
theorem getLast?_segmentCharacters {segments : List Segment} {last : Segment}
    (canonical : SegmentsCanonical segments)
    (member : last ∈ segments.getLast?) (quoted : last.isQuoted) :
    (segmentCharacters segments).getLast? = some '\'' := by
  obtain ⟨before, rfl⟩ := List.getLast?_eq_some_iff.mp member
  have lastCanonical := segmentsCanonical_iff.mp canonical last (by simp)
  cases last with
  | quoted text =>
      rw [collects_characters.append, List.getLast?_append, segmentCharacters,
        segmentCharacters, List.append_nil, Segment.characters,
        getLast?_quotedCharacters lastCanonical, Option.some_or]
  | literal text | field name | call name arguments position
  | conditional body =>
      simp [Segment.isQuoted] at quoted

theorem head?_segmentCharacters {segments : List Segment} {first : Segment}
    (canonical : SegmentsCanonical segments)
    (member : first ∈ segments.head?) (quoted : first.isQuoted) :
    (segmentCharacters segments).head? = some '\'' := by
  obtain ⟨rest, rfl⟩ := List.head?_eq_some_iff.mp member
  cases first with
  | quoted text =>
      rw [segmentCharacters, List.head?_append, Segment.characters,
        head?_quotedCharacters canonical.1, Option.some_or]
  | literal text | field name | call name arguments position
  | conditional body =>
      simp [Segment.isQuoted] at quoted

theorem Template.segments_ne_nil_of_parse {limit : Nat} {source : String}
    {template : Template} (nonempty : source ≠ "")
    (read : Template.parse limit source = .ok template) :
    template.segments ≠ [] := by
  obtain ⟨_, _, rfl⟩ := isCanonical_of_parse read
  intro none
  rw [← template.mk_segments, none] at nonempty
  exact nonempty rfl

/-- What is written one after the other is read as one after the other, unless
quotes meet. -/
theorem Template.parse_append {limit : Nat} {first second : String}
    {firstRead secondRead : Template}
    (readFirst : Template.parse limit first = .ok firstRead)
    (readSecond : Template.parse limit second = .ok secondRead)
    (apart : ¬ (first.toList.getLast? = some '\'' ∧
      second.toList.head? = some '\'')) :
    Template.parse limit (first ++ second) =
      .ok ((firstRead.join secondRead).placed 0) := by
  obtain ⟨firstCanonical, firstFits, rfl⟩ := isCanonical_of_parse readFirst
  obtain ⟨secondCanonical, secondFits, rfl⟩ := isCanonical_of_parse readSecond
  rcases firstRead with ⟨firstSegments⟩
  rcases secondRead with ⟨secondSegments⟩
  have canonical : (Template.join ⟨firstSegments⟩ ⟨secondSegments⟩).IsCanonical := by
    refine isCanonical_join firstCanonical secondCanonical ?_
    intro last lastMember next nextMember quoted nextQuoted
    refine apart ⟨?_, ?_⟩
    · rw [source, String.toList_ofList]
      exact getLast?_segmentCharacters firstCanonical.2 lastMember quoted
    · rw [source, String.toList_ofList]
      exact head?_segmentCharacters secondCanonical.2 nextMember nextQuoted
  have fits : (Template.join ⟨firstSegments⟩ ⟨secondSegments⟩).nesting ≤ limit := by
    have nesting := collects_nesting.joinSegments firstSegments secondSegments
    exact nesting.le.trans (Nat.max_le.mpr ⟨firstFits, secondFits⟩)
  have written : (Template.join ⟨firstSegments⟩ ⟨secondSegments⟩).source =
      (Template.mk firstSegments).source ++ (Template.mk secondSegments).source := by
    rw [source, source, source, ← String.ofList_append]
    exact congrArg String.ofList (collects_characters.joinSegments _ _)
  rw [← written]
  exact parse_source canonical fits

end TitleFormatting
