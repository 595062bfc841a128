import TitleFormatting.Proofs.Evaluation.Interchange

/-!
# Blocks that show and blocks that vanish

A block shows its body exactly when a field, a call or a block directly in the body has
a value by itself.  An evaluation decides this by a count that is kept beside the atom,
and the two never disagree.  So a block that holds nothing but a block is the inner
block, and can be replaced by it wherever it stands.
-/

namespace TitleFormatting

/-! ## What shows in a template -/

theorem Atom.isPresent_append (first second : Atom) :
    (first ++ second).isPresent = (first.isPresent || second.isPresent) := by
  rcases first with ⟨_ | first, firstTruth⟩ <;>
    rcases second with ⟨_ | second, secondTruth⟩ <;> rfl

/-- The segment is a field, a call or a block, and evaluates to a value by itself. -/
def Segment.Shows (context : Context) (segment : Segment) : Prop :=
  segment.isText = false ∧
    ∃ atom recorded, (⟨[segment]⟩ : Template).outcome context = .ok (atom, recorded) ∧
      atom.isPresent = true

/-- A field, a call or a block directly in the template has a value. -/
def Template.ShowsSomething (context : Context) (template : Template) : Prop :=
  ∃ segment ∈ template.segments, segment.Shows context

theorem Segment.shows_iff_of_value {context : Context} {segment : Segment}
    {value : Rendered} (valued : segment.value context.environment = .ok value) :
    segment.Shows context ↔ segment.isText = false ∧ value.atom.isPresent = true := by
  rw [Shows, Template.outcome_eq, Template.value_singleton, valued]
  simp [Except.map]

/-- A segment counts when it shows. -/
theorem Segment.count_ne_zero_iff {context : Context} {segment : Segment}
    {value : Rendered} (valued : segment.value context.environment = .ok value) :
    value.count ≠ 0 ↔ segment.Shows context := by
  have counts (atom : Atom) :
      (Rendered.counted atom).count ≠ 0 ↔ (Rendered.counted atom).atom.isPresent = true := by
    simp [Rendered.counted]
  rw [shows_iff_of_value valued]
  cases segment with
  | literal text | quoted text =>
      obtain rfl := Except.ok.inj valued
      simp [Rendered.text, isText]
  | field name =>
      obtain rfl := Except.ok.inj valued
      simpa [isText] using counts _
  | call name arguments position =>
      rw [value_call] at valued
      cases replied : context.environment.reply name arguments position with
      | error fault =>
          rw [replied] at valued
          contradiction
      | ok reply =>
          rw [replied] at valued
          obtain rfl := Except.ok.inj valued
          simpa [isText] using counts _
  | conditional body =>
      rw [Segment.value, Except.bind_eq_ok_iff] at valued
      obtain ⟨inner, -, returned⟩ := valued
      obtain rfl := Except.ok.inj returned
      rw [Rendered.block]
      split
      · simp [Atom.isPresent, Atom.absent]
      · simpa [isText] using counts inner.atom

section Counting

variable {context : Context}

/-- Segments count when one of them shows, and then their atom is present. -/
theorem count_segmentsValue_ne_zero {segments : List Segment} {value : Rendered}
    (valued : segmentsValue context.environment segments = .ok value) :
    (value.count ≠ 0 ↔ ∃ segment ∈ segments, segment.Shows context) ∧
      (value.count ≠ 0 → value.atom.isPresent = true) := by
  induction segments generalizing value with
  | nil =>
      obtain rfl := Except.ok.inj valued
      simp
  | cons segment rest inductionHypothesis =>
      rw [segmentsValue, Except.bind_eq_ok_iff] at valued
      obtain ⟨first, firstValued, valued⟩ := valued
      rw [Except.bind_eq_ok_iff] at valued
      obtain ⟨others, othersValued, returned⟩ := valued
      obtain rfl := Except.ok.inj returned
      obtain ⟨counts, present⟩ := inductionHypothesis othersValued
      have firstCounts := segment.count_ne_zero_iff firstValued
      have firstShows := Segment.shows_iff_of_value firstValued
      have either : first.count + others.count ≠ 0 ↔ first.count ≠ 0 ∨ others.count ≠ 0 := by
        omega
      simp only [either]
      constructor
      · rw [firstCounts, counts, List.exists_mem_cons_iff]
      · rw [Atom.isPresent_append, Bool.or_eq_true]
        exact Or.imp (fun counted => (firstShows.mp (firstCounts.mp counted)).2) present

theorem Template.count_value_ne_zero {template : Template} {value : Rendered}
    (valued : template.value context.environment = .ok value) :
    (value.count ≠ 0 ↔ template.ShowsSomething context) ∧
      (value.count ≠ 0 → value.atom.isPresent = true) := by
  rcases template with ⟨_ | ⟨segment, rest⟩⟩
  · obtain rfl := Except.ok.inj valued
    simp [Rendered.text, ShowsSomething]
  · exact count_segmentsValue_ne_zero valued

end Counting

/-! ## Blocks -/

namespace Template

/-- A template that is one block with this body. -/
def block (body : Template) : Template := ⟨[.conditional body]⟩

theorem value_block (environment : Environment) (body : Template) :
    body.block.value environment = (body.value environment).map Rendered.block := by
  rw [block, value_singleton, Segment.value]
  cases body.value environment <;> rfl

theorem markers_block (environment : Environment) (body : Template) :
    body.block.markers environment = body.markers environment := by
  rw [block, markers_singleton, Segment.markers]

/-- A block that shows yields the atom of its body, and any other nothing. -/
theorem atom_block_of_value {context : Context} {body : Template} {value : Rendered}
    (valued : body.value context.environment = .ok value) :
    (value.block.atom.isPresent = true ↔ body.ShowsSomething context) ∧
      (value.block.atom.isPresent = true → value.block.atom = value.atom) ∧
      (value.block.atom.isPresent = false → value.block.atom = .absent) := by
  obtain ⟨counts, present⟩ := count_value_ne_zero valued
  rw [← counts, Rendered.block]
  by_cases uncounted : value.count = 0
  · simp [uncounted, Atom.isPresent, Atom.absent]
  · have shown := present uncounted
    simp [uncounted, Rendered.counted, shown]

/-- A block is not changed by a block around it. -/
theorem value_block_block (environment : Environment) (body : Template) :
    body.block.block.value environment = body.block.value environment := by
  have again : ∀ value, body.value environment = .ok value →
      value.block.block = value.block := by
    intro value valued
    let context : Context := ⟨environment.track, environment.options, environment.draw, []⟩
    have present := (@count_value_ne_zero context body value valued).2
    rw [Rendered.block]
    by_cases uncounted : value.count = 0
    · simp [uncounted, Rendered.block]
    · simp [uncounted, Rendered.block, Rendered.counted, present uncounted]
  rw [value_block, value_block]
  cases valued : body.value environment with
  | error fault =>
      rfl
  | ok value =>
      exact congrArg Except.ok (again value valued)

end Template

/-! ## Surroundings -/

/-- A template with a hole that a segment fits in, directly or inside of blocks and
arguments. -/
inductive Surroundings where
  | among (before after : List Segment)
  | inBlock (inner : Surroundings) (before after : List Segment)
  | inArgument (inner : Surroundings) (name : String)
      (earlier later : List Template) (position : Nat) (before after : List Segment)

/-- The template with a segment in its hole. -/
def Surroundings.fill (segment : Segment) : Surroundings → Template
  | among before after => ⟨before ++ segment :: after⟩
  | inBlock inner before after =>
      ⟨before ++ .conditional (inner.fill segment) :: after⟩
  | inArgument inner name earlier later position before after =>
      ⟨before ++ .call name (earlier ++ inner.fill segment :: later) position :: after⟩

/-- Segments that no surroundings can tell apart: they have the same value and the same
markers, and neither of them alone is quoted. -/
structure Segment.Alike (environment : Environment) (first second : Segment) : Prop where
  value : first.value environment = second.value environment
  markers : first.markers environment = second.markers environment
  quoted : first.isQuoted = second.isQuoted

structure Template.Alike (environment : Environment) (first second : Template) : Prop where
  value : first.value environment = second.value environment
  markers : first.markers environment = second.markers environment
  quoted : first.startsQuoted = second.startsQuoted

namespace Template.Alike

variable {environment : Environment} {first second : Template}

theorem outcome_eq (context : Context) (alike : Alike context.environment first second) :
    first.outcome context = second.outcome context := by
  rw [Template.outcome_eq, Template.outcome_eq, alike.value, alike.markers]

theorem conditional (alike : Alike environment first second) :
    Segment.Alike environment (.conditional first) (.conditional second) where
  value := by
    rw [Segment.value, Segment.value, alike.value]
  markers := alike.markers
  quoted := rfl

theorem argumentValues_eq (alike : Alike environment first second)
    (earlier later : List Template) :
    argumentValues environment (earlier ++ first :: later) =
      argumentValues environment (earlier ++ second :: later) := by
  induction earlier with
  | nil =>
      rw [List.nil_append, List.nil_append, argumentValues, argumentValues, alike.value,
        alike.quoted]
  | cons argument rest inductionHypothesis =>
      rw [List.cons_append, List.cons_append, argumentValues, argumentValues,
        inductionHypothesis]

theorem argumentMarkers_eq (alike : Alike environment first second)
    (earlier later : List Template) :
    argumentMarkers environment (earlier ++ first :: later) =
      argumentMarkers environment (earlier ++ second :: later) := by
  induction earlier with
  | nil =>
      rw [List.nil_append, List.nil_append, argumentMarkers, argumentMarkers, alike.markers]
  | cons argument rest inductionHypothesis =>
      rw [List.cons_append, List.cons_append, argumentMarkers, argumentMarkers,
        inductionHypothesis]

theorem call (alike : Alike environment first second) (name : String)
    (earlier later : List Template) (position : Nat) :
    Segment.Alike environment (.call name (earlier ++ first :: later) position)
      (.call name (earlier ++ second :: later) position) := by
  have replied : environment.reply name (earlier ++ first :: later) position =
      environment.reply name (earlier ++ second :: later) position := by
    rw [Environment.reply, Environment.reply, alike.argumentValues_eq]
  refine ⟨?_, ?_, rfl⟩
  · rw [Segment.value_call, Segment.value_call, replied]
  · rw [Segment.markers, Segment.markers, replied, alike.argumentMarkers_eq]

end Template.Alike

theorem Segment.Alike.among {environment : Environment} {first second : Segment}
    (alike : Alike environment first second) (before after : List Segment) :
    Template.Alike environment ⟨before ++ first :: after⟩ ⟨before ++ second :: after⟩ where
  value := by
    have nonempty (segment : Segment) :
        (Template.mk (before ++ segment :: after)).segments ≠ [] := by
      simp
    rw [Template.value_eq_segmentsValue environment (nonempty first),
      Template.value_eq_segmentsValue environment (nonempty second),
      (collects_value environment).append, (collects_value environment).append,
      (collects_value environment).cons, (collects_value environment).cons, alike.value]
  markers := by
    rw [Template.markers, Template.markers, (collects_markers environment).append,
      (collects_markers environment).append, (collects_markers environment).cons,
      (collects_markers environment).cons, alike.markers]
  quoted := by
    have startsQuoted (segment : Segment) (rest : List Segment) :
        (Template.mk (segment :: rest)).startsQuoted = segment.isQuoted := by
      cases segment <;> rfl
    cases before with
    | nil =>
        rw [List.nil_append, List.nil_append, startsQuoted, startsQuoted, alike.quoted]
    | cons segment rest =>
        rw [List.cons_append, List.cons_append, startsQuoted, startsQuoted]

namespace Surroundings

variable {first second : Segment}

theorem alike_fill {environment : Environment}
    (alike : Segment.Alike environment first second) (surroundings : Surroundings) :
    Template.Alike environment (surroundings.fill first) (surroundings.fill second) := by
  induction surroundings with
  | among before after =>
      exact alike.among before after
  | inBlock inner before after inductionHypothesis =>
      exact inductionHypothesis.conditional.among before after
  | inArgument inner name earlier later position before after inductionHypothesis =>
      have alikeCalls := inductionHypothesis.call name earlier later position
      exact alikeCalls.among before after

/-- Apart from calls with arguments, the calls around a hole stay what they are. -/
theorem mem_calls_fill (shared : first.calls = second.calls) {call : Call}
    (surroundings : Surroundings) (member : call ∈ (surroundings.fill second).calls) :
    call ∈ (surroundings.fill first).calls ∨ call.arguments ≠ [] := by
  have among {one other : Segment} {before after : List Segment}
      (replaced : call ∈ other.calls → call ∈ one.calls ∨ call.arguments ≠ [])
      (member : call ∈ callsInSegments (before ++ other :: after)) :
      call ∈ callsInSegments (before ++ one :: after) ∨ call.arguments ≠ [] := by
    simp only [mem_callsInSegments_iff, List.mem_append, List.mem_cons] at member ⊢
    grind
  induction surroundings with
  | among before after =>
      refine among (fun inside => Or.inl ?_) member
      rwa [shared]
  | inBlock inner before after inductionHypothesis =>
      refine among (fun inside => ?_) member
      rw [Segment.calls] at inside ⊢
      exact inductionHypothesis inside
  | inArgument inner name earlier later position before after inductionHypothesis =>
      refine among (fun inside => ?_) member
      rw [Segment.calls, List.mem_cons] at inside ⊢
      rcases inside with rfl | inArguments
      · simp
      · simp only [mem_callsInArguments_iff, List.mem_append, List.mem_cons] at inArguments ⊢
        grind

theorem drawsNothing_fill (shared : first.calls = second.calls) {surroundings : Surroundings}
    (drawsNothing : (surroundings.fill first).DrawsNothing) :
    (surroundings.fill second).DrawsNothing := by
  intro call member
  rcases mem_calls_fill shared surroundings member with kept | arguments
  · exact drawsNothing call kept
  · exact Template.isRandom_eq_false arguments

end Surroundings

/-! ## Suppression -/

namespace Template

variable {body copy : Template}

/-- A copy yields and records the same, whatever numbers are drawn. -/
theorem IsCopyOf.value_and_markers_eq (isCopy : copy.IsCopyOf body)
    (drawsNothing : body.DrawsNothing) (context : Context) (draw : Nat → UInt32) :
    copy.value ({ context with draw } : Context).environment =
        body.value context.environment ∧
      copy.markers ({ context with draw } : Context).environment =
        body.markers context.environment :=
  ⟨isCopy.value_eq context.environment draw drawsNothing,
    isCopy.markers_eq context.environment draw drawsNothing⟩

theorem IsCopyOf.outcome_eq (isCopy : copy.IsCopyOf body) (drawsNothing : body.DrawsNothing)
    (context : Context) (draw : Nat → UInt32) :
    copy.outcome { context with draw } = body.outcome context := by
  obtain ⟨value, markers⟩ := isCopy.value_and_markers_eq drawsNothing context draw
  rw [Template.outcome_eq, Template.outcome_eq, value, markers]

/-- The outcome of a block, from the value of the body by itself. -/
theorem outcome_block_eq (isCopy : copy.IsCopyOf body) (drawsNothing : body.DrawsNothing)
    (context : Context) (draw : Nat → UInt32) :
    copy.block.outcome { context with draw } =
      (body.value context.environment).map fun value =>
        (value.block.atom, context.markers ++ body.markers context.environment) := by
  obtain ⟨value, markers⟩ := isCopy.value_and_markers_eq drawsNothing context draw
  rw [outcome_eq, value_block, markers_block, value, markers]
  cases body.value context.environment <;> rfl

theorem alike_block_block (isCopy : copy.IsCopyOf body) {other : Template}
    (isOther : other.IsCopyOf body) (drawsNothing : body.DrawsNothing)
    (environment : Environment) :
    Segment.Alike environment (.conditional copy.block) (.conditional other) := by
  have value : copy.value environment = other.value environment :=
    (isCopy.value_eq environment environment.draw drawsNothing).trans
      (isOther.value_eq environment environment.draw drawsNothing).symm
  have markers : copy.markers environment = other.markers environment :=
    (isCopy.markers_eq environment environment.draw drawsNothing).trans
      (isOther.markers_eq environment environment.draw drawsNothing).symm
  refine ⟨?_, ?_, rfl⟩
  · have unwrapped := copy.value_block_block environment
    rw [block, block, value_singleton, value_singleton] at unwrapped
    rw [block, unwrapped, Segment.value, Segment.value, value]
  · rw [Segment.markers, Segment.markers, markers_block, markers]

/-- A block without random calls yields a value exactly when a field, a call or a block
directly in its body does; then it yields what the body yields, and otherwise nothing.
It records what the body records, and halts where the body halts.  A block around the
block changes nothing of this, whatever templates, blocks and arguments the two stand
in.  The body may be moved and other numbers may be drawn; when nothing around it draws
a number, then everything may be moved. -/
theorem block_shows_exactly (drawsNothing : body.DrawsNothing) :
    (∀ (copy : Template) (context : Context) (draw : Nat → UInt32), copy.IsCopyOf body →
      (∀ fault, body.outcome context = .error fault →
        copy.block.outcome { context with draw } = .error fault) ∧
      ∀ atom recorded, body.outcome context = .ok (atom, recorded) →
        ∃ shown, copy.block.outcome { context with draw } = .ok (shown, recorded) ∧
          (shown.isPresent = true ↔ body.ShowsSomething context) ∧
          (shown.isPresent = true → shown = atom) ∧
          (shown.isPresent = false → shown = .absent)) ∧
    (∀ (surroundings : Surroundings) (context : Context) (copy other : Template),
      copy.IsCopyOf body → other.IsCopyOf body →
        (surroundings.fill (.conditional copy.block)).outcome context =
          (surroundings.fill (.conditional other)).outcome context) ∧
    ∀ (surroundings : Surroundings) (track : Track) (options : Options) (start other : Nat),
      (surroundings.fill (.conditional body)).DrawsNothing →
        Interchangeable track options
          ((surroundings.fill (.conditional body.block)).placed start)
          ((surroundings.fill (.conditional body)).placed other) := by
  refine ⟨?exact, ?nested, ?moved⟩
  case exact =>
    intro copy context draw isCopy
    rw [outcome_block_eq isCopy drawsNothing, outcome_eq]
    cases valued : body.value context.environment with
    | error fault =>
        refine ⟨fun other halted => ?_, fun atom recorded yielded => ?_⟩
        · exact halted
        · contradiction
    | ok value =>
        refine ⟨fun other halted => ?_, fun atom recorded yielded => ?_⟩
        · contradiction
        · obtain ⟨rfl, rfl⟩ := Prod.mk.inj (Except.ok.inj yielded)
          exact ⟨value.block.atom, rfl, atom_block_of_value valued⟩
  case nested =>
    intro surroundings context copy other isCopy isOther
    have alike := alike_block_block isCopy isOther drawsNothing context.environment
    exact (surroundings.alike_fill alike).outcome_eq context
  case moved =>
    intro surroundings track options start other steady draw another markers
    have same : body.IsCopyOf body := Or.inl rfl
    have doubledSteady :
        (surroundings.fill (.conditional body.block)).DrawsNothing := by
      refine Surroundings.drawsNothing_fill ?_ steady
      rw [block, Segment.calls, Segment.calls, calls, callsInSegments, callsInSegments,
        Segment.calls, List.append_nil]
    let context : Context := ⟨track, options, another, markers⟩
    have alike := surroundings.alike_fill
      (alike_block_block same same drawsNothing context.environment)
    calc
      _ = (surroundings.fill (.conditional body.block)).outcome context :=
        IsCopyOf.outcome_eq (Or.inr ⟨start, rfl⟩) doubledSteady context draw
      _ = (surroundings.fill (.conditional body)).outcome context := alike.outcome_eq context
      _ = _ := (IsCopyOf.outcome_eq (Or.inr ⟨other, rfl⟩) steady context another).symm

/-- On a track with an artist and no number, the block `[by %artist%$nosuch()]` shows the
artist and the marker of the call, also with a block around it that stands in an
argument, and `[no. %n%]` vanishes. -/
theorem block_shows_exactly_sample :
    let body : Template := ⟨[.literal "by ", .field "artist", .call "nosuch" [] 0]⟩
    let vanishing : Template := ⟨[.literal "no. ", .field "n"]⟩
    let context : Context := ⟨.ofFields ⟨[("ARTIST", "Ride")]⟩, {}, fun _ => 0, []⟩
    let surroundings : Surroundings :=
      .inArgument (.among [.literal "("] [.field "n"]) "upper" [] [] 0 [] [.literal ")"]
    body.DrawsNothing ∧ body.IsCopyOf body ∧
      body.outcome context =
        .ok (.found "by Ride[UNKNOWN FUNCTION]", [.unknownFunction "nosuch" 0]) ∧
      body.ShowsSomething context ∧
      body.block.outcome context =
        .ok (.found "by Ride[UNKNOWN FUNCTION]", [.unknownFunction "nosuch" 0]) ∧
      (surroundings.fill (.conditional body.block)).outcome context =
        (surroundings.fill (.conditional body)).outcome context ∧
      (surroundings.fill (.conditional body)).DrawsNothing ∧
      Interchangeable context.track context.options
        ((surroundings.fill (.conditional body.block)).placed 3)
        ((surroundings.fill (.conditional body)).placed 5) ∧
      vanishing.outcome context = .ok (.literal "no. ", []) ∧
      vanishing.block.outcome context = .ok (.absent, []) := by
  intro body vanishing context surroundings
  have unknown : (Call.mk "nosuch" [] 0).isRandom = false := by
    cbv
  have drawsNothing : body.DrawsNothing := List.forall_mem_singleton.mpr unknown
  have same : body.IsCopyOf body := Or.inl rfl
  have yielded : body.outcome context =
      .ok (.found "by Ride[UNKNOWN FUNCTION]", [.unknownFunction "nosuch" 0]) := by
    cbv
  have shows : body.ShowsSomething context :=
    ⟨.field "artist", by simp [body], rfl, .found "Ride", [], rfl, rfl⟩
  have steady : (surroundings.fill (.conditional body)).DrawsNothing :=
    List.forall_mem_cons.mpr ⟨isRandom_eq_false (List.cons_ne_nil _ _),
      List.forall_mem_singleton.mpr unknown⟩
  have nothingShows : ¬ vanishing.ShowsSomething context := by
    rintro ⟨segment, member, notText, atom, recorded, yielded, present⟩
    have either : segment = .literal "no. " ∨ segment = .field "n" := by
      simpa [vanishing] using member
    rcases either with rfl | rfl
    · contradiction
    · obtain ⟨rfl, -⟩ := Prod.mk.inj (Except.ok.inj yielded)
      contradiction
  obtain ⟨exact, nested, moved⟩ := block_shows_exactly drawsNothing
  obtain ⟨-, yields⟩ := exact body context context.draw same
  obtain ⟨shown, outcome, present, kept, -⟩ := yields _ _ yielded
  rw [kept (present.mpr shows)] at outcome
  have withoutCalls : vanishing.DrawsNothing := List.forall_mem_nil _
  obtain ⟨vanishes, -⟩ := block_shows_exactly withoutCalls
  obtain ⟨-, vanishingYields⟩ := vanishes vanishing context context.draw (Or.inl rfl)
  obtain ⟨remains, remainsOutcome, remainsPresent, -, absent⟩ := vanishingYields _ _ rfl
  rw [absent (eq_false_of_ne_true (mt remainsPresent.mp nothingShows))] at remainsOutcome
  exact ⟨drawsNothing, same, yielded, shows, outcome,
    nested surroundings context body body same same, steady,
    moved surroundings context.track context.options 3 5 steady, rfl, remainsOutcome⟩

end Template

end TitleFormatting
