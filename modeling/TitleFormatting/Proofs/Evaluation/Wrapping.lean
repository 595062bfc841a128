import TitleFormatting.Proofs.Evaluation.Blocks
import TitleFormatting.Proofs.Evaluation.Presence
import TitleFormatting.Proofs.Functions.Carrying

/-!
# Text functions around a field

A call of a function that changes a text shows where its first argument does and is as true
as that, so that any number of such calls around a field change nothing that a block or a
condition goes by.  Sequences, blocks and the functions that go by truth hand this on, from
the field outward to whatever it stands in.
-/

namespace TitleFormatting

/-! ## Outlines of values -/

/-- What a block and a condition see of a sequence: how its atom looks, and whether anything
in it is counted. -/
def Rendered.outline (rendered : Rendered) : Outline × Bool :=
  (rendered.atom.outline, rendered.count == 0)

theorem Atom.outline_append (first second : Atom) :
    (first ++ second).outline =
      ⟨first.outline.isPresent || second.outline.isPresent,
        first.outline.truth || second.outline.truth⟩ := by
  rw [outline, isPresent_append]
  rfl

namespace Rendered

theorem outline_counted {first second : Atom} (same : first.outline = second.outline) :
    (counted first).outline = (counted second).outline := by
  have present : first.isPresent = second.isPresent := congrArg Outline.isPresent same
  rw [outline, outline, counted, counted, same, present]

theorem outline_beside {first other second another : Rendered}
    (same : first.outline = other.outline) (later : second.outline = another.outline) :
    (first.beside second).outline = (other.beside another).outline := by
  obtain ⟨sameAtom, sameCount⟩ := Prod.mk.inj same
  obtain ⟨laterAtom, laterCount⟩ := Prod.mk.inj later
  have counted (one two : Nat) : (one + two == 0) = ((one == 0) && (two == 0)) := by
    rw [Bool.eq_iff_iff]
    simp
  rw [outline, outline, beside, beside, Atom.outline_append, Atom.outline_append, sameAtom,
    laterAtom, counted, counted, sameCount, laterCount]

theorem outline_inTurn {first other second another : Except Fault Rendered}
    (same : first.map outline = other.map outline)
    (later : second.map outline = another.map outline) :
    (inTurn first second).map outline = (inTurn other another).map outline := by
  refine Except.map_bind_congr same fun one two _ sameOne => ?_
  refine Except.map_bind_congr later fun three four _ sameThree => ?_
  exact congrArg Except.ok (outline_beside sameOne sameThree)

theorem outline_block {first second : Rendered} (same : first.outline = second.outline) :
    first.block.outline = second.block.outline := by
  obtain ⟨sameAtom, sameCount⟩ := Prod.mk.inj same
  have uncounted : first.count = 0 ↔ second.count = 0 := by
    rw [← beq_iff_eq, sameCount, beq_iff_eq]
  rw [block, block]
  by_cases nothing : first.count = 0
  · rw [if_pos nothing, if_pos (uncounted.mp nothing)]
  · rw [if_neg nothing, if_neg (mt uncounted.mpr nothing)]
    exact outline_counted sameAtom

end Rendered

/-- The two segments come to values that look the same to blocks and conditions, or to the
same halt. -/
def Segment.LooksLike (environment : Environment) (first second : Segment) : Prop :=
  (first.value environment).map Rendered.outline =
    (second.value environment).map Rendered.outline

def Template.LooksLike (environment : Environment) (first second : Template) : Prop :=
  (first.value environment).map Rendered.outline =
    (second.value environment).map Rendered.outline

/-! ## Around a hole -/

section Holes

variable {environment : Environment}

theorem Segment.LooksLike.among {first second : Segment}
    (alike : LooksLike environment first second) (before after : List Segment) :
    Template.LooksLike environment ⟨before ++ first :: after⟩ ⟨before ++ second :: after⟩ := by
  have nonempty (segment : Segment) :
      (Template.mk (before ++ segment :: after)).segments ≠ [] := by
    simp
  rw [Template.LooksLike, Template.value_eq_segmentsValue environment (nonempty first),
    Template.value_eq_segmentsValue environment (nonempty second),
    (collects_value environment).append, (collects_value environment).append,
    (collects_value environment).cons, (collects_value environment).cons]
  exact Rendered.outline_inTurn rfl (Rendered.outline_inTurn alike rfl)

namespace Template.LooksLike

variable {first second : Template} (alike : LooksLike environment first second)

include alike

theorem conditional :
    Segment.LooksLike environment (.conditional first) (.conditional second) := by
  rw [Segment.LooksLike, Segment.value, Segment.value]
  refine Except.map_bind_congr alike fun one other _ same => ?_
  exact congrArg Except.ok (Rendered.outline_block same)

theorem outline_argumentValues (earlier later : List Template) :
    (argumentValues environment (earlier ++ first :: later)).map
        (List.map (·.atom.outline)) =
      (argumentValues environment (earlier ++ second :: later)).map
        (List.map (·.atom.outline)) := by
  induction earlier with
  | nil =>
      rw [List.nil_append, List.nil_append, argumentValues, argumentValues]
      refine Except.map_bind_congr alike fun one other _ same => ?_
      refine Except.map_bind_congr (f := id) rfl fun values others _ sameValues => ?_
      obtain rfl : values = others := sameValues
      exact congrArg (fun outline => Except.ok (outline :: values.map (·.atom.outline)))
        (Prod.mk.inj same).1
  | cons argument rest inductionHypothesis =>
      rw [List.cons_append, List.cons_append, argumentValues, argumentValues]
      refine Except.map_bind_congr (f := id) rfl fun value other _ sameValue => ?_
      obtain rfl : value = other := sameValue
      refine Except.map_bind_congr inductionHypothesis fun values others _ same => ?_
      exact congrArg (fun outlines => Except.ok (value.atom.outline :: outlines)) same

theorem call {name : String}
    (named : Catalog.canonicalName name ∈ carryingNames ++ directedNames)
    (earlier later : List Template) (position : Nat) :
    Segment.LooksLike environment (.call name (earlier ++ first :: later) position)
      (.call name (earlier ++ second :: later) position) := by
  rw [Segment.LooksLike, Segment.value, Segment.value]
  refine Except.map_bind_congr (alike.outline_argumentValues earlier later) ?_
  intro values others valued same
  have sound := ensures_argumentValues environment (earlier ++ first :: later) values valued
  refine Except.map_bind_congr (outline_invoke (environment.draw position) named sound same) ?_
  intro reply other _ sameReply
  exact congrArg Except.ok (Rendered.outline_counted sameReply)

end Template.LooksLike

/-- The functions around the hole change a text or go by truth. -/
def Surroundings.SeeOutlines : Surroundings → Prop
  | among _ _ => True
  | inBlock inner _ _ => inner.SeeOutlines
  | inArgument inner name _ _ _ _ _ =>
      inner.SeeOutlines ∧ Catalog.canonicalName name ∈ carryingNames ++ directedNames

theorem Surroundings.looksLike_fill {first second : Segment} {surroundings : Surroundings}
    (alike : Segment.LooksLike environment first second) (see : surroundings.SeeOutlines) :
    Template.LooksLike environment (surroundings.fill first) (surroundings.fill second) := by
  induction surroundings with
  | among before after =>
      exact alike.among before after
  | inBlock inner before after inductionHypothesis =>
      exact (inductionHypothesis see).conditional.among before after
  | inArgument inner name earlier later position before after inductionHypothesis =>
      obtain ⟨seeInside, named⟩ := see
      have calls := (inductionHypothesis seeInside).call named earlier later position
      exact calls.among before after

end Holes

/-! ## Calls around a field -/

/-- A call around its first argument. -/
structure Layer where
  name : String
  further : List Template
  position : Nat

namespace Layer

def around (layer : Layer) (inner : Segment) : Segment :=
  .call layer.name (⟨[inner]⟩ :: layer.further) layer.position

/-- A call of a function that changes a text, whose further arguments come to a value. -/
structure Carries (layer : Layer) (environment : Environment) : Prop where
  named : Catalog.canonicalName layer.name ∈ carryingNames
  takes : Catalog.Takes layer.name (layer.further.length + 1)
  returns : Returns (argumentValues environment layer.further)

end Layer

/-- The segment inside of the calls, the first of them outermost. -/
def Segment.wrapped (segment : Segment) (layers : List Layer) : Segment :=
  layers.foldr Layer.around segment

section Calls

variable {environment : Environment} {name : String} {further : List Template}
  (named : Catalog.canonicalName name ∈ carryingNames)
  (takes : Catalog.Takes name (further.length + 1))
  (returns : Returns (argumentValues environment further))

include named takes returns

/-- The reply looks as the first argument does, when the further ones come to a value. -/
theorem Environment.reply_carries {operand : Template} {value : Rendered}
    (valued : operand.value environment = .ok value) (position : Nat) :
    ∃ reply, environment.reply name (operand :: further) position = .ok reply ∧
      reply.atom.outline = value.atom.outline := by
  obtain ⟨values, furtherValued⟩ := returns
  have arguments : argumentValues environment (operand :: further) =
      .ok (⟨value.atom, operand.startsQuoted⟩ :: values) := by
    rw [argumentValues, valued, furtherValued]
    rfl
  have sound : (Argument.mk value.atom operand.startsQuoted).atom.FalseWhenAbsent :=
    (operand.ensures_value environment value valued).falseWhenAbsent
  rw [← length_argumentValues furtherValued] at takes
  rw [reply, arguments]
  exact invoke_carries (environment.draw position) named takes sound

theorem Segment.outline_value_call (operand : Template) (position : Nat) :
    ((call name (operand :: further) position).value environment).map Rendered.outline =
      (operand.value environment).map fun value => (Rendered.counted value.atom).outline := by
  rw [value_call]
  cases valued : operand.value environment with
  | error fault =>
      rw [Environment.reply, argumentValues, valued]
      rfl
  | ok value =>
      obtain ⟨reply, replied, looks⟩ :=
        Environment.reply_carries named takes returns valued position
      rw [replied]
      exact congrArg Except.ok (Rendered.outline_counted looks)

end Calls

/-- Apart from texts, whatever has a value counts. -/
theorem Segment.outline_value_of_not_text {environment : Environment} {segment : Segment}
    {value : Rendered} (notText : segment.isText = false)
    (valued : segment.value environment = .ok value) :
    (Rendered.counted value.atom).outline = value.outline := by
  let context : Context := ⟨environment.track, environment.options, environment.draw, []⟩
  have here : segment.value context.environment = .ok value := valued
  have counts := segment.count_ne_zero_iff here
  rw [shows_iff_of_value here, and_iff_right notText] at counts
  rw [Rendered.outline, Rendered.outline, Rendered.counted]
  by_cases present : value.atom.isPresent = true
  · simp [present, counts.mpr present]
  · have uncounted : value.count = 0 := by
      by_contra counted
      exact present (counts.mp counted)
    simp [present, uncounted]

theorem Layer.looksLike_around {environment : Environment} {layer : Layer} {inner : Segment}
    (carries : layer.Carries environment) (notText : inner.isText = false) :
    Segment.LooksLike environment (layer.around inner) inner := by
  rw [Segment.LooksLike, around, Segment.outline_value_call carries.named carries.takes
    carries.returns, Template.value_singleton]
  cases valued : inner.value environment with
  | error fault =>
      rfl
  | ok value =>
      exact congrArg Except.ok (inner.outline_value_of_not_text notText valued)

/-- Any number of calls of functions that change a text looks as what is inside of them. -/
theorem Segment.looksLike_wrapped {environment : Environment} {segment : Segment}
    {layers : List Layer} (notText : segment.isText = false)
    (carry : ∀ layer ∈ layers, layer.Carries environment) :
    LooksLike environment (segment.wrapped layers) segment ∧
      (segment.wrapped layers).isText = false := by
  induction layers with
  | nil =>
      exact ⟨rfl, notText⟩
  | cons layer rest inductionHypothesis =>
      obtain ⟨carries, later⟩ := List.forall_mem_cons.mp carry
      obtain ⟨looks, wrappedNotText⟩ := inductionHypothesis later
      exact ⟨(Layer.looksLike_around carries wrappedNotText).trans looks, rfl⟩

/-! ## Results -/

namespace Template

/-- The template itself or, when it draws nothing, the same with its calls moved to another
place. -/
def IsSteadyCopyOf (copy template : Template) : Prop :=
  copy = template ∨ template.DrawsNothing ∧ copy.IsCopyOf template

theorem IsSteadyCopyOf.value_eq {copy template : Template}
    (isCopy : copy.IsSteadyCopyOf template) (environment : Environment) :
    copy.value environment = template.value environment := by
  rcases isCopy with rfl | ⟨drawsNothing, isCopy⟩
  · rfl
  · exact isCopy.value_eq environment environment.draw drawsNothing

theorem map_outline_outcome (template : Template) (context : Context) :
    (template.outcome context).map (·.1.outline) =
      (template.value context.environment).map (·.atom.outline) := by
  rw [outcome_eq]
  cases template.value context.environment <;> rfl

namespace LooksLike

variable {first second : Template}

theorem map_outline_value {environment : Environment}
    (alike : LooksLike environment first second) :
    (first.value environment).map (·.atom.outline) =
      (second.value environment).map (·.atom.outline) := by
  have outlines := congrArg (Except.map Prod.fst) alike
  rwa [Except.map_map, Except.map_map] at outlines

theorem block {environment : Environment} (alike : LooksLike environment first second) :
    LooksLike environment first.block second.block :=
  alike.conditional.among [] []

theorem outline_outcome {context : Context}
    (alike : LooksLike context.environment first second) :
    (first.outcome context).map (·.1.outline) = (second.outcome context).map (·.1.outline) := by
  rw [map_outline_outcome, map_outline_outcome, alike.map_outline_value]

theorem reply_if_eq {environment : Environment} {name : String}
    (alike : LooksLike environment first second) (named : Catalog.canonicalName name = "if")
    (branches : List Template) (position : Nat) :
    environment.reply name (first :: branches) position =
      environment.reply name (second :: branches) position := by
  rw [Environment.reply, Environment.reply, argumentValues, argumentValues, bind_assoc,
    bind_assoc]
  refine Except.bind_congr_of_map alike fun value other _ same => ?_
  rw [bind_assoc, bind_assoc]
  refine bind_congr fun values => ?_
  have truth : (Argument.mk value.atom first.startsQuoted).truth =
      (Argument.mk other.atom second.startsQuoted).truth :=
    congrArg (·.1.truth) same
  exact invoke_if_cons (environment.draw position) named truth values

end LooksLike

theorem returns_outcome_iff (template : Template) (context : Context) :
    Returns (template.outcome context) ↔ Returns (template.value context.environment) := by
  rw [outcome_eq]
  constructor
  · intro returns
    cases valued : template.value context.environment with
    | error fault =>
        rw [valued] at returns
        obtain ⟨result, impossible⟩ := returns
        contradiction
    | ok value =>
        exact .ok value
  · exact Returns.map _

/-- A call halts when one of its arguments does. -/
theorem not_returns_call {environment : Environment} {name : String} {operand : Template}
    {further : List Template} (halts : ¬ Returns (argumentValues environment further))
    (position : Nat) :
    ¬ Returns ((call name (operand :: further) position).value environment) := by
  rintro ⟨result, valued⟩
  rw [call, value_singleton, Segment.value, Except.bind_eq_ok_iff] at valued
  obtain ⟨values, valued, -⟩ := valued
  rw [argumentValues, Except.bind_eq_ok_iff] at valued
  obtain ⟨first, -, valued⟩ := valued
  rw [Except.bind_eq_ok_iff] at valued
  obtain ⟨others, furtherValued, -⟩ := valued
  exact halts ⟨others, furtherValued⟩

/-- A function that changes a text yields a value where its first argument does, and one as
true as that, whatever the further arguments are; if one of them halts, so does the call.
So any number of such calls around a field change nothing in what surrounds it, as long as
this is sequences, blocks and functions that change a text or go by truth: a block shows
with the calls where it shows without them, and a condition takes the same branch. -/
theorem text_functions_keep_outline :
    (∀ (name : String) (operand copy : Template) (further : List Template) (position : Nat)
        (context : Context) (draw : Nat → UInt32),
      Catalog.canonicalName name ∈ carryingNames →
      Catalog.Takes name (further.length + 1) →
      operand.DrawsNothing → copy.IsCopyOf operand →
      (Returns (argumentValues context.environment further) →
        ((call name (copy :: further) position).outcome context).map (·.1.outline) =
          (operand.outcome { context with draw }).map (·.1.outline)) ∧
      (¬ Returns (argumentValues context.environment further) →
        ¬ Returns ((call name (copy :: further) position).outcome context))) ∧
    ∀ (segment : Segment) (layers : List Layer) (surroundings : Surroundings)
        (context : Context) (one other : Template),
      segment.isText = false →
      (∀ layer ∈ layers, layer.Carries context.environment) →
      surroundings.SeeOutlines →
      one.IsSteadyCopyOf (surroundings.fill (segment.wrapped layers)) →
      other.IsSteadyCopyOf (surroundings.fill segment) →
        (one.outcome context).map (·.1.outline) =
          (other.outcome context).map (·.1.outline) ∧
        (one.block.outcome context).map (·.1.outline) =
          (other.block.outcome context).map (·.1.outline) ∧
        ∀ (name : String) (branches : List Template) (position : Nat),
          Catalog.canonicalName name = "if" →
            context.environment.reply name (one :: branches) position =
              context.environment.reply name (other :: branches) position := by
  constructor
  · intro name operand copy further position context draw named takes drawsNothing isCopy
    constructor
    · intro returns
      have same : copy.value context.environment =
          operand.value ({ context with draw } : Context).environment :=
        isCopy.value_eq ({ context with draw } : Context).environment context.draw drawsNothing
      rw [map_outline_outcome, map_outline_outcome, call, value_singleton, ← same]
      have calls := congrArg (Except.map Prod.fst)
        (Segment.outline_value_call named takes returns copy position)
      rwa [Except.map_map, Except.map_map] at calls
    · intro halts returns
      exact not_returns_call halts position ((returns_outcome_iff _ context).mp returns)
  · intro segment layers surroundings context one other notText carry see isWrapped isBare
    have alike : LooksLike context.environment one other := by
      rw [LooksLike, isWrapped.value_eq, isBare.value_eq]
      exact Surroundings.looksLike_fill (Segment.looksLike_wrapped notText carry).1 see
    exact ⟨alike.outline_outcome, alike.block.outline_outcome,
      fun name branches position named => alike.reply_if_eq named branches position⟩

/-- On a track without an artist, `$left(%artist%,$nosuch())` is absent although its length is
the marker of an unknown function, the block `[by $UPPER($left(%artist%,3))]` vanishes as
`[by %artist%]` does, and a condition on either takes the other branch. -/
theorem text_functions_keep_outline_sample :
    let options : Options := { caseSensitive := true, magic := false }
    let context : Context := ⟨.ofFields .empty, options, fun _ => 0, []⟩
    let operand : Template := ⟨[.field "artist"]⟩
    let unknown : Template := call "nosuch" [] 4
    let layers : List Layer := [⟨"UPPER", [], 0⟩, ⟨"left", [⟨[.literal "3"]⟩], 1⟩]
    let surroundings : Surroundings := .among [.literal "by "] []
    let one : Template := surroundings.fill (Segment.wrapped (.field "artist") layers)
    let branches : List Template := [⟨[.literal "x"]⟩, ⟨[.literal "y"]⟩]
    (operand.DrawsNothing ∧ operand.IsCopyOf operand ∧
      ((call "left" [operand, unknown] 0).outcome context).map (·.1.outline) =
        .ok ⟨false, false⟩) ∧
    (∀ layer ∈ layers, layer.Carries context.environment) ∧
      (one.block.outcome context).map (·.1.outline) = .ok ⟨false, false⟩ ∧
      context.environment.reply "If" (one :: branches) 0 =
        .ok (.value (.literal "y") (.argument 2)) := by
  intro options context operand unknown layers surroundings one branches
  let bare : Template := surroundings.fill (.field "artist")
  have left : Catalog.Takes "left" 2 :=
    ⟨⟨"left", .left, .exact 2, .string⟩, by decide, by cbv, rfl⟩
  have upper : Catalog.Takes "UPPER" 1 :=
    ⟨⟨"upper", .upper, .exact 1, .string⟩, by decide, by cbv, rfl⟩
  have drawsNothing : operand.DrawsNothing := List.forall_mem_nil _
  have same : operand.IsCopyOf operand := Or.inl rfl
  have leftCarries : Catalog.canonicalName "left" ∈ carryingNames := by
    have small : Catalog.canonicalName "left" = "left" := by
      cbv
    rw [small]
    decide
  have upperCarries : Catalog.canonicalName "UPPER" ∈ carryingNames := by
    have small : Catalog.canonicalName "UPPER" = "upper" := by
      cbv
    rw [small]
    decide
  have carry : ∀ layer ∈ layers, layer.Carries context.environment := by
    rw [List.forall_mem_cons, List.forall_mem_singleton]
    exact ⟨⟨upperCarries, upper, [], rfl⟩, ⟨leftCarries, left, _, rfl⟩⟩
  have unknownValued : Returns (argumentValues context.environment [unknown]) := by
    refine ⟨[⟨.literal "[UNKNOWN FUNCTION]", false⟩], ?_⟩
    cbv
  have absent : (operand.outcome context).map (·.1.outline) = .ok ⟨false, false⟩ := by
    cbv
  have vanishes : (bare.block.outcome context).map (·.1.outline) = .ok ⟨false, false⟩ := by
    cbv
  have otherBranch : context.environment.reply "If" (bare :: branches) 0 =
      .ok (.value (.literal "y") (.argument 2)) := by
    cbv
  obtain ⟨calls, wrapping⟩ := text_functions_keep_outline
  obtain ⟨looks, -⟩ := calls "left" operand operand [unknown] 0 context context.draw
    leftCarries left drawsNothing same
  obtain ⟨-, block, condition⟩ := wrapping (.field "artist") layers surroundings context one bare
    rfl carry trivial (Or.inl rfl) (Or.inl rfl)
  exact ⟨⟨drawsNothing, same, (looks unknownValued).trans absent⟩, carry,
    block.trans vanishes, (condition "If" branches 0 (by cbv)).trans otherBranch⟩

end Template

end TitleFormatting
