import TitleFormatting.Proofs.Evaluation.Interchange
import TitleFormatting.Proofs.Template.Blame

/-!
# Arguments side by side

The arguments of a call are read independently: what can be read as the only argument
of a call is read alike between other arguments.  The first character of its source
decides whether it is quoted, and with that whether a minus sign in its text can make
its number negative.
-/

/-! ## Lists in step -/

namespace List

variable {ε α β γ : Type}

theorem forall₂_trans {first : α → β → Prop} {second : β → γ → Prop} {both : α → γ → Prop}
    (combine : ∀ a b c, first a b → second b c → both a c) {xs : List α} {ys : List β}
    {zs : List γ} (firstInStep : Forall₂ first xs ys)
    (secondInStep : Forall₂ second ys zs) : Forall₂ both xs zs := by
  induction firstInStep generalizing zs with
  | nil =>
      cases secondInStep
      exact .nil
  | cons here _ inductionHypothesis =>
      cases secondInStep with
      | cons there rest =>
          exact .cons (combine _ _ _ here there) (inductionHypothesis rest)

theorem exists_of_forall₂_of_mem {relation : α → β → Prop} {xs : List α} {ys : List β}
    (inStep : Forall₂ relation xs ys) {y : β} (member : y ∈ ys) : ∃ x, relation x y := by
  induction inStep with
  | nil =>
      contradiction
  | cons here _ inductionHypothesis =>
      rcases mem_cons.mp member with rfl | later
      · exact ⟨_, here⟩
      · exact inductionHypothesis later

theorem forall₂_of_mapM_eq_ok {f : α → Except ε β} {items : List α} {results : List β}
    (mapped : items.mapM f = .ok results) :
    Forall₂ (fun item result => f item = .ok result) items results := by
  induction items generalizing results with
  | nil =>
      obtain rfl := Except.ok.inj mapped
      exact .nil
  | cons item rest inductionHypothesis =>
      rw [mapM_cons, Except.bind_eq_ok_iff] at mapped
      obtain ⟨first, firstMapped, mapped⟩ := mapped
      rw [Except.bind_eq_ok_iff] at mapped
      obtain ⟨others, othersMapped, returned⟩ := mapped
      obtain rfl := Except.ok.inj returned
      exact .cons firstMapped (inductionHypothesis othersMapped)

end List

namespace TitleFormatting

/-! ## The source of a call -/

/-- The source of a call of this function, from the sources of its arguments. -/
def callSource (name : String) (sources : List String) : String :=
  "$" ++ name ++ "(" ++ ",".intercalate sources ++ ")"

theorem toList_callSource (name : String) (sources : List String) :
    (callSource name sources).toList =
      '$' :: name.toList ++ '(' :: [','].intercalate (sources.map String.toList) ++ [')'] := by
  simp [callSource]

theorem argumentCharacters_eq_intercalate (arguments : List Template) :
    argumentCharacters arguments = [','].intercalate (arguments.map Template.characters) := by
  induction arguments with
  | nil =>
      rfl
  | cons argument rest inductionHypothesis =>
      cases rest with
      | nil =>
          rw [argumentCharacters, List.map_singleton, List.intercalate_singleton]
      | cons next others =>
          rw [argumentCharacters, inductionHypothesis]
          simp [List.intercalate_cons_cons]

/-- The template can be an argument within the limit, and is written as this source. -/
structure Template.IsArgument (limit : Nat) (source : String) (argument : Template) :
    Prop where
  written : source.toList = argument.characters
  canonical : argument.IsCanonical
  balanced : argument.IsBalanced
  nonempty : argument ≠ .empty
  fits : argument.nesting < limit

namespace Template

variable {limit : Nat} {name : String}

/-- What is read as the only argument of a call can be an argument of other calls. -/
theorem isArgument_of_parse {called source : String} {argument : Template} {position : Nat}
    (functionName : ∀ c ∈ name.toList, Token.isFunctionCharacter c)
    (read : Template.parse limit (callSource name [source]) =
      .ok (call called [argument] position)) :
    called = name ∧ argument.IsArgument limit source := by
  obtain ⟨canonical, fits, written⟩ := isCanonical_of_parse read
  obtain ⟨-, ⟨⟨-, calledName⟩, notEmpty, ⟨argumentCanonical, balanced⟩, -⟩, -⟩ := canonical
  have characters := congrArg String.toList written
  rw [toList_callSource, Template.source, String.toList_ofList, call, Template.characters,
    segmentCharacters, segmentCharacters, Segment.characters, argumentCharacters,
    List.append_nil, List.map_singleton, List.intercalate_singleton] at characters
  simp only [List.cons_append, List.append_assoc, List.cons.injEq, true_and] at characters
  -- The name goes up to the first parenthesis in either source.
  have names := congrArg (List.takeWhile Token.isFunctionCharacter) characters
  rw [takeWhile_isFunctionCharacter_append calledName,
    takeWhile_isFunctionCharacter_append functionName] at names
  obtain rfl := String.toList_injective names
  have inside := List.append_cancel_right (List.cons.inj (List.append_cancel_left characters)).2
  refine ⟨rfl, inside.symm, argumentCanonical, balanced, ?_, ?_⟩
  · rintro rfl
    exact notEmpty rfl
  · have nesting : (call called [argument] position).nesting = argument.nesting + 1 := by
      simp [call, Template.nesting, segmentNesting, Segment.nesting, argumentNesting]
    rwa [nesting] at fits

variable {sources : List String} {arguments : List Template}

theorem intercalate_sources
    (each : List.Forall₂ (IsArgument limit) sources arguments) :
    [','].intercalate (sources.map String.toList) = argumentCharacters arguments := by
  have characters : sources.map String.toList = arguments.map Template.characters := by
    induction each with
    | nil =>
        rfl
    | cons argument _ inductionHypothesis =>
        rw [List.map_cons, List.map_cons, argument.written, inductionHypothesis]
  rw [argumentCharacters_eq_intercalate, characters]

/-- The arguments of a call are read from their sources, one behind the other. -/
theorem parse_callSource (named : name.toList ≠ [])
    (functionName : ∀ c ∈ name.toList, Token.isFunctionCharacter c) (nonempty : sources ≠ [])
    (each : List.Forall₂ (IsArgument limit) sources arguments) :
    Template.parse limit (callSource name sources) =
      .ok (call name (placedArguments arguments (name.toList.length + 2)) 0) := by
  have suitable : ∀ argument ∈ arguments, ∃ source, IsArgument limit source argument :=
    fun _ member => List.exists_of_forall₂_of_mem each member
  have canonical : (call name arguments 0).IsCanonical := by
    refine ⟨List.isChain_singleton _, ⟨⟨named, functionName⟩, ?_, ?_⟩, trivial⟩
    · rintro rfl
      obtain ⟨source, suits⟩ := suitable .empty List.mem_cons_self
      exact suits.nonempty rfl
    · refine argumentsCanonical_iff.mpr fun argument member => ?_
      obtain ⟨source, suits⟩ := suitable argument member
      exact ⟨suits.canonical, suits.balanced⟩
  have fits : (call name arguments 0).nesting ≤ limit := by
    -- Where an argument fits, so does the call around it.
    have limited : 0 < limit := by
      obtain ⟨source, others, rfl⟩ := List.exists_cons_of_ne_nil nonempty
      cases each with
      | cons suits _ =>
          exact Nat.zero_lt_of_lt suits.fits
    have inner : argumentNesting arguments ≤ limit - 1 := by
      refine argumentNesting_le_iff.mpr fun argument member => ?_
      obtain ⟨source, suits⟩ := suitable argument member
      exact Nat.le_sub_one_of_lt suits.fits
    simp only [call, Template.nesting, segmentNesting, Segment.nesting]
    omega
  have written : (call name arguments 0).source = callSource name sources := by
    apply String.toList_injective
    rw [toList_callSource, intercalate_sources each, Template.source, String.toList_ofList]
    simp [call, Template.characters, segmentCharacters, Segment.characters]
  have read := parse_source canonical fits
  rw [written] at read
  rw [read, call, placed, placedSegments, placedSegments, Segment.placed, Nat.zero_add]
  rfl

/-! ## Quotes in front -/

/-- A template is quoted when its source begins with a quote. -/
theorem startsQuoted_iff {template : Template} (canonical : template.IsCanonical) :
    template.startsQuoted = true ↔ template.characters.head? = some '\'' := by
  rcases template with ⟨_ | ⟨segment, rest⟩⟩
  · simp [startsQuoted, characters, segmentCharacters]
  · rw [characters, segmentCharacters]
    cases segment with
    | quoted text =>
        have first := head?_quotedCharacters canonical.2.1
        simp [startsQuoted, Segment.characters, List.head?_append, first]
    | literal text =>
        obtain ⟨nonempty, plain⟩ := canonical.2.1
        obtain ⟨c, more, equality⟩ := List.exists_cons_of_ne_nil nonempty
        rw [equality] at plain
        have different := (Token.isPlainCharacter_iff.mp (plain c List.mem_cons_self)).1
        simp [startsQuoted, Segment.characters, equality, different]
    | field name | call name arguments position | conditional body =>
        simp [startsQuoted, Segment.characters]

theorem forall₂_placedArguments (arguments : List Template) (start : Nat) :
    List.Forall₂ IsCopyOf (placedArguments arguments start) arguments := by
  induction arguments generalizing start with
  | nil =>
      exact .nil
  | cons argument rest inductionHypothesis =>
      exact .cons (Or.inr ⟨start, rfl⟩) (inductionHypothesis _)

/-- Arguments are quoted by their own sources, wherever they are placed. -/
theorem forall₂_startsQuoted (each : List.Forall₂ (IsArgument limit) sources arguments)
    (start : Nat) :
    List.Forall₂ (fun (source : String) (part : Template) =>
        part.startsQuoted = true ↔ source.toList.head? = some '\'')
      sources (placedArguments arguments start) := by
  induction each generalizing start with
  | nil =>
      exact .nil
  | cons suits _ inductionHypothesis =>
      refine .cons ?_ (inductionHypothesis _)
      rw [startsQuoted_placed, suits.written]
      exact startsQuoted_iff suits.canonical

/-! ## Numbers of arguments -/

theorem quoted_of_held {template : Template} {environment : Environment}
    {one : HeldArgument} (yielded : template.held environment = .ok one) :
    one.argument.quoted = template.startsQuoted := by
  rw [held] at yielded
  cases valued : template.value environment with
  | error fault =>
      rw [valued] at yielded
      contradiction
  | ok value =>
      rw [valued] at yielded
      rw [← Except.ok.inj yielded]

theorem mapM_held_of_evaluateArguments {context after : Context} {held : List HeldArgument}
    (evaluated : evaluateArguments context.markers.length arguments context =
      .ok (held, after)) :
    arguments.mapM (Template.held context.environment) = .ok held := by
  rw [evaluateArguments_eq] at evaluated
  rw [mapM_held]
  cases valued : argumentValues context.environment arguments with
  | error fault =>
      rw [valued] at evaluated
      contradiction
  | ok values =>
      rw [valued] at evaluated
      exact congrArg Except.ok (Prod.mk.inj (Except.ok.inj evaluated)).1

/-- When each source by itself is read as the one argument of a call, the sources side by
side are read as the arguments of one call, equal to those but for the positions of
calls.  An argument is quoted when its own source begins with a quote.  The function of
the call gets what the arguments evaluate to; it sees a number without a sign for a
quoted argument, and the number with its sign for any other. -/
theorem arguments_independent {limit : Nat} {name : String} {sources : List String}
    {arguments : List Template}
    (functionName : ∀ c ∈ name.toList, Token.isFunctionCharacter c)
    (nonempty : sources ≠ [])
    (each : List.Forall₂ (fun source argument => ∃ called position,
        Template.parse limit (callSource name [source]) =
          .ok (call called [argument] position)) sources arguments) :
    ∃ read : List Template,
      Template.parse limit (callSource name sources) = .ok (call name read 0) ∧
      List.Forall₂ IsCopyOf read arguments ∧
      List.Forall₂ (fun (source : String) (part : Template) =>
        part.startsQuoted = true ↔ source.toList.head? = some '\'') sources read ∧
      ∀ (context after : Context) (held : List HeldArgument),
        evaluateArguments context.markers.length read context = .ok (held, after) →
          (call name read 0).outcome context =
            ((invoke (context.draw 0) name (held.map HeldArgument.argument)).map fun reply =>
              (reply.atom,
                context.markers ++ reply.markers (held.map HeldArgument.markers))) ∧
          List.Forall₂ (fun part one => ∃ recorded,
            part.outcome context = .ok (one.argument.atom, recorded)) read held ∧
          List.Forall₂ (fun (source : String) (one : HeldArgument) =>
            (source.toList.head? = some '\'' →
              one.argument.number = Number.unsignedOfText one.argument.characters ∧
                0 ≤ one.argument.number.toInt) ∧
            (source.toList.head? ≠ some '\'' →
              one.argument.number = Number.ofText one.argument.characters)) sources held := by
  have suitable : List.Forall₂ (IsArgument limit) sources arguments :=
    each.imp fun source argument => fun ⟨called, position, read⟩ =>
      (isArgument_of_parse functionName read).2
  have named : name.toList ≠ [] := by
    obtain ⟨source, others, rfl⟩ := List.exists_cons_of_ne_nil nonempty
    cases each with
    | cons first _ =>
        obtain ⟨called, position, read⟩ := first
        obtain ⟨rfl, -⟩ := isArgument_of_parse functionName read
        obtain ⟨canonical, -, -⟩ := isCanonical_of_parse read
        exact canonical.2.1.1.1
  have quotes := forall₂_startsQuoted suitable (name.toList.length + 2)
  refine ⟨placedArguments arguments (name.toList.length + 2),
    parse_callSource named functionName nonempty suitable,
    forall₂_placedArguments arguments _, quotes, ?_⟩
  intro context after held evaluated
  have mapped := mapM_held_of_evaluateArguments evaluated
  have yields := List.forall₂_of_mapM_eq_ok mapped
  refine ⟨?outcome, ?atoms, ?numbers⟩
  case outcome =>
    rw [outcome_eq_held, held_call, mapped]
    simp only [bind, Except.bind]
    rw [Context.environment_draw]
    cases invoke (context.draw 0) name (held.map HeldArgument.argument) <;> rfl
  case atoms =>
    refine yields.imp fun part one yielded => ⟨context.markers ++ one.markers, ?_⟩
    rw [outcome_eq_held, yielded]
    rfl
  case numbers =>
    refine List.forall₂_trans (fun source part one quoted yielded => ?_) quotes yields
    rw [Ne, ← quoted, ← quoted_of_held yielded, Argument.number]
    constructor
    · intro unsigned
      rw [if_pos unsigned]
      exact ⟨rfl, Number.toInt_unsignedOfText_nonneg _⟩
    · intro signed
      rw [if_neg signed]

/-- The arguments of `$max('-5',-7,($len(a),b))`: the first is read as 5, the second as
-7, and the third has a comma and parentheses of its own. -/
theorem arguments_independent_sample :
    let sources := ["'-5'", "-7", "($len(a),b)"]
    let parts (position : Nat) : List Template :=
      [⟨[.quoted "-5"]⟩, ⟨[.literal "-7"]⟩,
        ⟨[.literal "(", .call "len" [⟨[.literal "a"]⟩] position, .literal ",b)"]⟩]
    let context : Context := ⟨.ofFields .empty, {}, fun _ => 0, []⟩
    let held : List HeldArgument :=
      [⟨⟨.literal "-5", true⟩, []⟩, ⟨⟨.literal "-7", false⟩, []⟩,
        ⟨⟨.literal "(1,b)", false⟩, []⟩]
    (∀ c ∈ "max".toList, Token.isFunctionCharacter c) ∧ sources ≠ [] ∧
      List.Forall₂ (fun source argument => ∃ called position,
        Template.parse 2 (callSource "max" [source]) =
          .ok (call called [argument] position)) sources (parts 6) ∧
      Template.parse 2 (callSource "max" sources) = .ok (call "max" (parts 14) 0) ∧
      List.Forall₂ IsCopyOf (parts 14) (parts 6) ∧
      evaluateArguments 0 (parts 14) context = .ok (held, context) ∧
      (call "max" (parts 14) 0).outcome context =
        (invoke 0 "max" (held.map HeldArgument.argument)).map (fun reply =>
          (reply.atom, reply.markers (held.map HeldArgument.markers))) ∧
      List.Forall₂ (fun (source : String) (one : HeldArgument) =>
        (source.toList.head? = some '\'' →
          one.argument.number = Number.unsignedOfText one.argument.characters ∧
            0 ≤ one.argument.number.toInt) ∧
        (source.toList.head? ≠ some '\'' →
          one.argument.number = Number.ofText one.argument.characters)) sources held := by
  intro sources parts context held
  have functionName : ∀ c ∈ "max".toList, Token.isFunctionCharacter c := by
    simp [Token.isFunctionCharacter]
  have each : List.Forall₂ (fun source argument => ∃ called position,
      Template.parse 2 (callSource "max" [source]) =
        .ok (call called [argument] position)) sources (parts 6) :=
    .cons ⟨"max", 0, rfl⟩ (.cons ⟨"max", 0, rfl⟩ (.cons ⟨"max", 0, rfl⟩ .nil))
  have together : Template.parse 2 (callSource "max" sources) =
      .ok (call "max" (parts 14) 0) := by
    simp only [sources, parts]
    rfl
  have evaluated : evaluateArguments context.markers.length (parts 14) context =
      .ok (held, context) := by
    cbv
  obtain ⟨read, parsed, copies, -, passedOn⟩ :=
    arguments_independent functionName (List.cons_ne_nil _ _) each
  obtain rfl : parts 14 = read := by
    have same := Except.ok.inj (together.symm.trans parsed)
    rw [call, call] at same
    simpa using same
  obtain ⟨outcome, -, numbers⟩ := passedOn context context held evaluated
  exact ⟨functionName, List.cons_ne_nil _ _, each, together, copies, evaluated, outcome,
    numbers⟩

end Template

end TitleFormatting
