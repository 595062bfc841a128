import TitleFormatting.Proofs.Evaluation.Reads
import TitleFormatting.Proofs.Functions.Control
import TitleFormatting.Proofs.Functions.Division
import TitleFormatting.Proofs.Functions.Returning

/-!
# Control functions in terms of each other

A control function that compares its arguments is one that looks at a condition, and
those that look at a condition can be written with each other.  The two ways of writing
a call evaluate the same arguments, though in another order or twice, and pass on the
same one of them with its markers.  The markers of a condition are dropped in either
way.
-/

namespace TitleFormatting

/-! ## Arguments in another order -/

/-- A call comes to a halt in one way only. -/
theorem fault_of_invoke_eq_error {draw : UInt32} {name : String} {values : List Argument}
    {fault : Fault} (halted : invoke draw name values = .error fault) :
    fault = .widthOutOfRange := by
  rw [invoke] at halted
  cases found : Catalog.find? name values.length with
  | none =>
      rw [found] at halted
      contradiction
  | some entry =>
      simp only [found] at halted
      by_cases wide : entry.builtin.PadsTooWide values
      · have stopped := Functions.run_of_padsTooWide draw wide
        exact Except.error.inj (halted.symm.trans stopped)
      · have member := (Catalog.mem_of_find?_eq_some found).1
        have accepted := Catalog.accepts_of_find?_eq_some found
        have given : entry.builtin.operands ≤ values.length :=
          (Catalog.operands_le_least entry member).trans (Arity.least_le_of_accepts accepted)
        obtain ⟨reply, replied⟩ := Functions.returns_run draw given wide
        rw [replied] at halted
        contradiction

namespace Template

theorem fault_of_held_eq_error {template : Template} {environment : Environment}
    {fault : Fault} (halted : template.held environment = .error fault) :
    fault = .widthOutOfRange := by
  rw [held] at halted
  cases valued : template.value environment with
  | ok value =>
      rw [valued] at halted
      contradiction
  | error earlier =>
      rw [valued] at halted
      obtain ⟨call, -, values, -, stopped⟩ := exists_call_of_value_eq_error valued
      rw [← Except.error.inj halted]
      exact fault_of_invoke_eq_error stopped

theorem held_comm {α : Type} (environment : Environment) (first second : Template)
    (next : HeldArgument → HeldArgument → Except Fault α) :
    (do let x ← first.held environment; let y ← second.held environment; next x y) =
      (do let y ← second.held environment; let x ← first.held environment; next x y) := by
  apply Except.bind_comm_of_error
  intro fault other halted stopped
  rw [fault_of_held_eq_error halted, fault_of_held_eq_error stopped]

/-! ## Interchangeable templates -/

/-- No call of the template is for a random number. -/
def DrawsNothing (template : Template) : Prop :=
  ∀ call ∈ template.calls, call.isRandom = false

/-- On this track and with these options, the one template yields the same atom as the
other and records the same markers, whatever was recorded before.  The numbers that
would be drawn for random calls need not be the same. -/
def Interchangeable (track : Track) (options : Options) (first second : Template) :
    Prop :=
  ∀ (draw another : Nat → UInt32) (markers : List Marker),
    first.outcome ⟨track, options, draw, markers⟩ =
      second.outcome ⟨track, options, another, markers⟩

/-- On this track and with these options, the text of the template is not longer than the
greatest number says. -/
def HasCountableText (track : Track) (options : Options) (template : Template) : Prop :=
  ∀ (draw : Nat → UInt32) (markers recorded : List Marker) (atom : Atom),
    template.outcome ⟨track, options, draw, markers⟩ = .ok (atom, recorded) →
      atom.text.length < 2 ^ 63

theorem outcome_eq_held (template : Template) (context : Context) :
    template.outcome context =
      (template.held context.environment).map fun held =>
        (held.argument.atom, context.markers ++ held.markers) := by
  rw [outcome_eq, held]
  cases template.value context.environment <;> rfl

theorem HasCountableText.length_lt {environment : Environment} {template : Template}
    (countable : template.HasCountableText environment.track environment.options)
    {held : HeldArgument} (yielded : template.held environment = .ok held) :
    held.argument.length < 2 ^ 63 := by
  have yields : template.outcome ⟨environment.track, environment.options,
        environment.draw, []⟩ = .ok (held.argument.atom, [] ++ held.markers) := by
    rw [outcome_eq_held]
    exact congrArg (Except.map _) yielded
  have short := countable _ _ _ _ yields
  rw [← String.length_toList] at short
  exact short

theorem HasCountableText.of_held {track : Track} {options : Options} {template : Template}
    {held : HeldArgument} (yields : ∀ draw, template.held ⟨track, options, draw⟩ = .ok held)
    (short : held.argument.length < 2 ^ 63) : template.HasCountableText track options := by
  intro draw markers recorded atom outcome
  rw [outcome_eq_held, Context.environment, yields draw] at outcome
  obtain ⟨rfl, -⟩ := Prod.mk.inj (Except.ok.inj outcome)
  rw [← String.length_toList]
  exact short

theorem isRandom_eq_false {name : String} {arguments : List Template} {position : Nat}
    (nonempty : arguments ≠ []) : (Call.mk name arguments position).isRandom = false := by
  rw [Call.isRandom]
  cases found : Catalog.find? name arguments.length with
  | none =>
      rfl
  | some entry =>
      -- The function that draws a number takes no arguments.
      have member := (Catalog.mem_of_find?_eq_some found).1
      have accepted := Catalog.accepts_of_find?_eq_some found
      have withoutArguments :
          ∀ entry ∈ Catalog.entries, entry.builtin = .rand → entry.arity = .exact 0 := by
        decide
      apply beq_false_of_ne
      intro random
      rw [withoutArguments entry member random] at accepted
      have none := beq_iff_eq.mp accepted
      exact nonempty (List.eq_nil_of_length_eq_zero none)

theorem DrawsNothing.call {arguments : List Template} (nonempty : arguments ≠ [])
    (each : ∀ argument ∈ arguments, argument.DrawsNothing) (name : String)
    (position : Nat) : (call name arguments position).DrawsNothing := by
  intro inner inside
  rw [Template.call, calls, callsInSegments, callsInSegments, Segment.calls,
    List.append_nil, List.mem_cons] at inside
  rcases inside with rfl | inArguments
  · exact isRandom_eq_false nonempty
  · obtain ⟨argument, among, inArgument⟩ := mem_callsInArguments_iff.mp inArguments
    exact each argument among inner inArgument

theorem DrawsNothing.held_eq {template : Template} (drawsNothing : template.DrawsNothing)
    (environment : Environment) (draw : Nat → UInt32) :
    template.held (environment.drawing draw) = template.held environment := by
  rw [held, held, template.value_drawing environment draw drawsNothing,
    template.markers_drawing environment draw drawsNothing]

/-- It is enough that one of two templates draws nothing, when both are the same for
every drawing. -/
theorem Interchangeable.of_held_eq {track : Track} {options : Options}
    {first second : Template} (drawsNothing : first.DrawsNothing)
    (alike : ∀ draw, first.held ⟨track, options, draw⟩ =
      second.held ⟨track, options, draw⟩) :
    Interchangeable track options first second := by
  intro draw another markers
  have redrawn : first.held ⟨track, options, draw⟩ = first.held ⟨track, options, another⟩ :=
    drawsNothing.held_eq ⟨track, options, another⟩ draw
  rw [outcome_eq_held, outcome_eq_held]
  simp only [Context.environment, redrawn, alike another]

/-! ## One function by another -/

theorem truth_computed_boolean (held : List HeldArgument) (condition : Bool) :
    (HeldArgument.computed held (.boolean condition)).truth = condition := by
  cases condition <;> rfl

/-- The number of characters is read back from its numeral, if it is one of 64 bits. An
absent text has no numeral, and counts as zero in either way. -/
theorem toInt_number_measured {held : HeldArgument}
    (countable : held.argument.length < 2 ^ 63) :
    held.measured.argument.number.toInt = held.argument.length := by
  rcases held with ⟨⟨⟨_ | text, truth⟩, quoted⟩, markers⟩
  · rfl
  · have fits : text.toList.length < 2 ^ 63 := countable
    have read : (HeldArgument.mk ⟨⟨some text, truth⟩, quoted⟩ markers).measured.argument.number =
        Int64.ofNat text.toList.length := by
      apply Argument.number_eq_of_characters rfl
      rw [Int64.toInt_ofNat_of_lt fits]
      exact String.toList_ofList
    rw [read]
    exact Int64.toInt_ofNat_of_lt fits

section Pairs

variable (environment : Environment) (o p q r : Nat)

theorem held_if2_eq_if (first last : Template) :
    (call "if2" [first, last] p).held environment =
      (call "if" [first, first, last] q).held environment := by
  rw [held_if2, held_if, Except.bind_bind_self]

theorem held_if_eq_if_not (condition onTrue onFalse : Template) :
    (call "if" [condition, onTrue, onFalse] p).held environment =
      (call "if" [call "not" [condition] q, onFalse, onTrue] r).held environment := by
  rw [held_if, held_if, held_not, bind_assoc]
  refine bind_congr fun c => ?_
  rw [pure_bind, held_comm]
  refine bind_congr fun y => bind_congr fun x => ?_
  rw [truth_computed_boolean]
  cases c.truth <;> rfl

theorem held_ifGreater_eq_if (first second onTrue onFalse : Template) :
    (call "ifgreater" [first, second, onTrue, onFalse] p).held environment =
      (call "if" [call "greater" [first, second] q, onTrue, onFalse] r).held
        environment := by
  rw [held_ifGreater, held_if, held_greater]
  simp only [bind_assoc, pure_bind, truth_computed_boolean, decide_eq_true_eq]

theorem held_ifLonger_eq_if (text limit onTrue onFalse : Template)
    (countable : text.HasCountableText environment.track environment.options) :
    (call "iflonger" [text, limit, onTrue, onFalse] o).held environment =
      (call "if" [call "greater" [call "len" [text] p, limit] q, onTrue, onFalse] r).held
        environment := by
  rw [held_ifLonger, held_if, held_greater, held_len]
  simp only [bind_assoc, pure_bind, truth_computed_boolean, decide_eq_true_eq]
  refine Except.bind_congr_of_ok fun s yielded => bind_congr fun n => bind_congr fun x =>
    bind_congr fun y => ?_
  have length := toInt_number_measured (countable.length_lt yielded)
  simp only [Int64.lt_iff_toInt_lt, length]

theorem held_longer_eq_greater (first second : Template)
    (firstCountable : first.HasCountableText environment.track environment.options)
    (secondCountable : second.HasCountableText environment.track environment.options) :
    (call "longer" [first, second] o).held environment =
      (call "greater" [call "len" [first] p, call "len" [second] q] r).held
        environment := by
  rw [held_longer, held_greater, held_len, held_len]
  simp only [bind_assoc, pure_bind]
  refine Except.bind_congr_of_ok fun a firstYielded => ?_
  refine Except.bind_congr_of_ok fun b secondYielded => ?_
  have firstLength := toInt_number_measured (firstCountable.length_lt firstYielded)
  have secondLength := toInt_number_measured (secondCountable.length_lt secondYielded)
  simp only [Int64.lt_iff_toInt_lt, firstLength, secondLength, Int.ofNat_lt]
  simp only [HeldArgument.computed, HeldArgument.measured, List.flatMap_cons, List.flatMap_nil,
    List.append_nil]

end Pairs

/-! ## Alternatives in alternatives -/

/-- Each candidate or else what follows it, and in the end the last template. The calls
stand at the positions that are given with the candidates. -/
def elseChain (last : Template) : List (Nat × Template) → Template
  | [] => last
  | (position, candidate) :: rest =>
      call "if2" [candidate, elseChain last rest] position

theorem passedOn_held_elseChain (environment : Environment) (last : Template)
    (candidates : List (Nat × Template)) :
    (do
      let chain ← (elseChain last candidates).held environment
      return chain.passedOn) = do
      let before ← (candidates.map Prod.snd).mapM (held environment)
      let e ← last.held environment
      return ((before.find? HeldArgument.truth).getD e).passedOn := by
  induction candidates with
  | nil =>
      rw [elseChain, List.map_nil, List.mapM_nil, pure_bind]
      rfl
  | cons candidate rest inductionHypothesis =>
      rw [elseChain, held_if2]
      simp only [List.map_cons, List.mapM_cons, bind_assoc, pure_bind]
      refine bind_congr fun a => ?_
      -- What is chosen of the rest goes through the outer call.
      have continued := congrArg
        (· >>= fun chain => pure (if a.truth then a else chain).passedOn) inductionHypothesis
      simp only [bind_assoc, pure_bind] at continued
      cases holds : a.truth with
      | true =>
          simp only [holds, if_true, List.find?_cons, Option.getD_some] at continued ⊢
          exact continued
      | false =>
          simp only [holds, Bool.false_eq_true, if_false, List.find?_cons] at continued ⊢
          exact continued

theorem held_if3_eq_elseChain (environment : Environment) {candidates : List (Nat × Template)}
    (nonempty : candidates ≠ []) (last : Template) (position : Nat) :
    (call "if3" (candidates.map Prod.snd ++ [last]) position).held environment =
      (elseChain last candidates).held environment := by
  have candidatesNonempty : candidates.map Prod.snd ≠ [] := by
    rwa [Ne, List.map_eq_nil_iff]
  have chained := passedOn_held_elseChain environment last candidates
  obtain ⟨candidate, rest, rfl⟩ := List.exists_cons_of_ne_nil nonempty
  rw [held_if3 environment position candidatesNonempty, ← chained, elseChain, held_if2]
  simp only [bind_assoc, pure_bind, HeldArgument.passedOn_passedOn]

/-! ## All pairs -/

/-- The control functions can be written by each other, the markers included.  Whatever
the position of the calls is, the first true one of several templates is found by one
call or by nested calls, a condition may be negated when the branches are exchanged,
and a comparison may be a function of its own, as long as no text is longer than the
greatest number. -/
theorem control_interchangeable (track : Track) (options : Options)
    (a b c s n x y e : Template) (candidates : List (Nat × Template))
    (nonempty : candidates ≠ [])
    (drawsNothing : ∀ part ∈ [a, b, c, s, n, x, y, e] ++ candidates.map Prod.snd,
      part.DrawsNothing) (o p q r : Nat) :
    Interchangeable track options
      (call "if3" (candidates.map Prod.snd ++ [e]) o) (elseChain e candidates) ∧
    Interchangeable track options (call "if2" [a, b] o) (call "if" [a, a, b] p) ∧
    Interchangeable track options
      (call "if" [c, x, y] o) (call "if" [call "not" [c] p, y, x] q) ∧
    Interchangeable track options
      (call "ifgreater" [a, b, x, y] o) (call "if" [call "greater" [a, b] p, x, y] q) ∧
    (s.HasCountableText track options →
      Interchangeable track options (call "iflonger" [s, n, x, y] o)
        (call "if" [call "greater" [call "len" [s] p, n] q, x, y] r)) ∧
    (a.HasCountableText track options → b.HasCountableText track options →
      Interchangeable track options (call "longer" [a, b] o)
        (call "greater" [call "len" [a] p, call "len" [b] q] r)) := by
  have steady : ∀ {arguments : List Template}, arguments ≠ [] →
      arguments ⊆ [a, b, c, s, n, x, y, e] ++ candidates.map Prod.snd →
        ∀ name, (call name arguments o).DrawsNothing := by
    intro arguments given subset name
    apply DrawsNothing.call given
    intro argument among
    exact drawsNothing argument (subset among)
  refine ⟨?alternatives, ?alternative, ?negation, ?comparison, ?limit, ?lengths⟩
  case alternatives =>
    have subset : candidates.map Prod.snd ++ [e] ⊆
        [a, b, c, s, n, x, y, e] ++ candidates.map Prod.snd := by
      apply List.append_subset.mpr
      exact ⟨List.subset_append_right _ _, by simp⟩
    apply Interchangeable.of_held_eq (steady (by simp) subset "if3")
    intro draw
    exact held_if3_eq_elseChain _ nonempty e o
  case alternative =>
    apply Interchangeable.of_held_eq (steady (by simp) (by simp) "if2")
    intro draw
    exact held_if2_eq_if _ o p a b
  case negation =>
    apply Interchangeable.of_held_eq (steady (by simp) (by simp) "if")
    intro draw
    exact held_if_eq_if_not _ o p q c x y
  case comparison =>
    apply Interchangeable.of_held_eq (steady (by simp) (by simp) "ifgreater")
    intro draw
    exact held_ifGreater_eq_if _ o p q a b x y
  case limit =>
    intro countable
    apply Interchangeable.of_held_eq (steady (by simp) (by simp) "iflonger")
    intro draw
    exact held_ifLonger_eq_if _ o p q r s n x y countable
  case lengths =>
    intro countableA countableB
    apply Interchangeable.of_held_eq (steady (by simp) (by simp) "longer")
    intro draw
    exact held_longer_eq_greater _ o p q r a b countableA countableB

/-- A call of an unknown function is its marker, which is passed on with the branch, and
the empty branch is an argument like the others. -/
theorem control_interchangeable_sample :
    let track : Track := .ofFields ⟨[("TITLE", "Ride")]⟩
    let artist : Template := ⟨[.field "artist"]⟩
    let title : Template := ⟨[.field "title"]⟩
    let word : Template := ⟨[.quoted "été"]⟩
    let two : Template := ⟨[.literal "2"]⟩
    let empty : Template := ⟨[]⟩
    let unknown : Template := call "nosuch" [title] 3
    Interchangeable track {} (call "if3" [artist, title, unknown] 0)
        (call "if2" [artist, call "if2" [title, unknown] 9] 4) ∧
      Interchangeable track {} (call "if2" [artist, word] 0)
        (call "if" [artist, artist, word] 0) ∧
      Interchangeable track {} (call "if" [title, empty, unknown] 0)
        (call "if" [call "not" [title] 0, unknown, empty] 0) ∧
      Interchangeable track {} (call "ifgreater" [artist, word, empty, unknown] 0)
        (call "if" [call "greater" [artist, word] 0, empty, unknown] 0) ∧
      Interchangeable track {} (call "iflonger" [title, two, empty, unknown] 0)
        (call "if" [call "greater" [call "len" [title] 0, two] 0, empty, unknown] 0) ∧
      Interchangeable track {} (call "longer" [artist, word] 0)
        (call "greater" [call "len" [artist] 0, call "len" [word] 0] 0) := by
  intro track artist title word two empty unknown
  have unknownDrawsNothing : unknown.DrawsNothing := by
    apply DrawsNothing.call (List.cons_ne_nil _ _)
    intro argument among
    rw [List.mem_singleton.mp among]
    exact List.forall_mem_nil _
  have drawsNothing : ∀ part ∈ [artist, word, title, title, two, empty, unknown, unknown] ++
      [(4, artist), (9, title)].map Prod.snd, part.DrawsNothing := by
    have plain : ∀ part ∈ [artist, word, title, two, empty], part.DrawsNothing := by
      simp [DrawsNothing, artist, word, title, two, empty, calls, callsInSegments,
        Segment.calls]
    simp only [List.forall_mem_cons, List.map_cons, List.cons_append, List.nil_append] at plain ⊢
    simp [plain, unknownDrawsNothing]
  have artistCountable : artist.HasCountableText track {} := by
    have absent : (Track.ofFields ⟨[("TITLE", "Ride")]⟩).resolve "artist" {} = .absent := by
      decide
    have yields : ∀ draw, artist.held ⟨track, {}, draw⟩ = .ok ⟨⟨.absent, false⟩, []⟩ := by
      intro draw
      rw [← absent]
      exact held_field ⟨track, {}, draw⟩ "artist"
    exact .of_held yields (by decide)
  have titleCountable : title.HasCountableText track {} := by
    have found : (Track.ofFields ⟨[("TITLE", "Ride")]⟩).resolve "title" {} =
        .found "Ride" := by
      decide
    have yields : ∀ draw, title.held ⟨track, {}, draw⟩ = .ok ⟨⟨.found "Ride", false⟩, []⟩ := by
      intro draw
      rw [← found]
      exact held_field ⟨track, {}, draw⟩ "title"
    exact .of_held yields (by decide)
  have wordCountable : word.HasCountableText track {} := by
    have yields : ∀ draw, word.held ⟨track, {}, draw⟩ = .ok ⟨⟨.literal "été", true⟩, []⟩ := by
      intro draw
      exact held_quoted ⟨track, {}, draw⟩ "été"
    exact .of_held yields (by decide)
  have all := control_interchangeable track {} artist word title title two empty unknown unknown
    [(4, artist), (9, title)] (List.cons_ne_nil _ _) drawsNothing 0 0 0 0
  obtain ⟨alternatives, alternative, negation, comparison, limit, lengths⟩ := all
  exact ⟨alternatives, alternative, negation, comparison, limit titleCountable,
    lengths artistCountable wordCountable⟩

end Template

end TitleFormatting
