import TitleFormatting.Proofs.Template.Tokens
import TitleFormatting.Template.Parser

/-!
# Canonical templates are read back

The tokens of a canonical template, taken one by one inside any open blocks
and argument lists, add its segments to the innermost draft, with every call
placed where its dollar sign stands. All that the surroundings have to offer
is room for the nesting of the template.
-/

namespace TitleFormatting

open Token (placeFrom placeFrom_append)

/-! ## Plain text in its surroundings -/

namespace Assembly

/-- How many parentheses are open behind a character of plain text: they are
counted directly inside an argument list only. -/
def countParentheses : List Frame → Nat → Char → Option Nat
  | ⟨.call _ _, _, _⟩ :: _, count, c => openParentheses count c
  | _, count, _ => some count

@[simp]
theorem countParentheses_call (name : String) (arguments : List Template)
    (location : Location) (outer : Draft) (frames : List Frame) :
    countParentheses (⟨.call name arguments, location, outer⟩ :: frames) =
      openParentheses :=
  rfl

theorem foldlM_countParentheses_nil (count : Nat) (text : List Char) :
    text.foldlM (countParentheses []) count = some count := by
  induction text with
  | nil =>
      rfl
  | cons c rest inductionHypothesis =>
      exact inductionHypothesis

theorem foldlM_countParentheses_block (location : Location) (outer : Draft)
    (frames : List Frame) (count : Nat) (text : List Char) :
    text.foldlM (countParentheses (⟨.block, location, outer⟩ :: frames)) count =
      some count := by
  induction text with
  | nil =>
      rfl
  | cons c rest inductionHypothesis =>
      exact inductionHypothesis

/-- A character that does not end the argument is added to the draft. -/
theorem takePlain_of_countParentheses {frames : List Frame} {draft : Draft}
    {c : Char} {count : Nat}
    (counted : countParentheses frames draft.parentheses c = some count) :
    takePlain ⟨draft, frames⟩ c = ⟨⟨(draft.addPlain c).segments, count⟩, frames⟩ := by
  have unchanged : (draft.addPlain c).parentheses = draft.parentheses := by
    unfold Draft.addPlain
    split <;> rfl
  have kept :
      (⟨(draft.addPlain c).segments, draft.parentheses⟩ : Draft) =
        draft.addPlain c := by
    rw [← unchanged]
  cases frames with
  | nil =>
      obtain rfl : draft.parentheses = count := by
        simpa [countParentheses] using counted
      rw [kept]
      rfl
  | cons frame frames =>
      obtain ⟨opener, location, outer⟩ := frame
      cases opener with
      | block =>
          obtain rfl : draft.parentheses = count := by
            simpa [countParentheses] using counted
          rw [kept]
          rfl
      | call name arguments =>
          rw [countParentheses_call, openParentheses] at counted
          simp only [takePlain]
          split at counted
          · rename_i opening
            obtain rfl := Option.some.inj counted
            rw [if_pos opening]
          · rename_i notOpening
            rw [if_neg notOpening]
            split at counted
            · rename_i closing
              rw [if_pos closing]
              split at counted
              · contradiction
              · rename_i positive
                obtain rfl := Option.some.inj counted
                rw [if_neg positive]
            · rename_i notClosing
              rw [if_neg notClosing]
              split at counted
              · contradiction
              · rename_i notEnding
                obtain rfl := Option.some.inj counted
                rw [if_neg (by simpa using notEnding), kept]

/-- A comma outside of parentheses ends an argument and begins the next. -/
theorem takePlain_comma (segments : List Segment) (name : String)
    (arguments : List Template) (location : Location) (outer : Draft)
    (frames : List Frame) :
    takePlain ⟨⟨segments, 0⟩, ⟨.call name arguments, location, outer⟩ :: frames⟩ ',' =
      ⟨.empty, ⟨.call name (⟨segments.reverse⟩ :: arguments), location, outer⟩ ::
        frames⟩ := by
  simp [takePlain, Draft.template]

/-- A parenthesis that was not opened closes the argument list. -/
theorem takePlain_closing (segments : List Segment) (name : String)
    (arguments : List Template) (location : Location) (outer : Draft)
    (frames : List Frame) :
    takePlain ⟨⟨segments, 0⟩, ⟨.call name arguments, location, outer⟩ :: frames⟩ ')' =
      ⟨outer.push (.call name
        (closedArguments (⟨segments.reverse⟩ :: arguments).reverse)
        location.position), frames⟩ := by
  simp [takePlain, Draft.template]

/-! ## Text -/

/-- Plain text is added to plain text that the draft ends with. -/
theorem foldlM_step_plain_onto_literal (limit : Nat) (frames : List Frame)
    (segments : List Segment) {count after : Nat} (before : String)
    (here : Location) {text : List Char}
    (counted : text.foldlM (countParentheses frames) count = some after) :
    (placeFrom here (text.map Token.plain)).foldlM (step limit)
        ⟨⟨.literal before :: segments, count⟩, frames⟩ =
      .ok ⟨⟨.literal (before ++ String.ofList text) :: segments, after⟩, frames⟩ := by
  induction text generalizing before count here with
  | nil =>
      obtain rfl : count = after := by
        simpa using counted
      simp [placeFrom, pure, Except.pure]
  | cons c rest inductionHypothesis =>
      rw [List.foldlM_cons] at counted
      obtain ⟨middle, first, others⟩ := Option.bind_eq_some_iff.mp counted
      have joined :
          before.push c ++ String.ofList rest =
            before ++ String.ofList (c :: rest) := by
        apply String.toList_inj.mp
        simp
      rw [List.map_cons, placeFrom, List.foldlM_cons]
      simp only [step, bind, Except.bind]
      rw [takePlain_of_countParentheses first]
      simp only [Draft.addPlain]
      rw [inductionHypothesis _ _ others, joined]

/-- Plain text behind anything else begins a segment of its own. -/
theorem foldlM_step_plain (limit : Nat) (frames : List Frame)
    {segments : List Segment} {count after : Nat} (here : Location)
    {text : String} (nonempty : text.toList ≠ [])
    (separate : ∀ last ∈ segments.head?, last.joins (.literal text) = false)
    (counted : text.toList.foldlM (countParentheses frames) count = some after) :
    (placeFrom here (text.toList.map Token.plain)).foldlM (step limit)
        ⟨⟨segments, count⟩, frames⟩ =
      .ok ⟨⟨.literal text :: segments, after⟩, frames⟩ := by
  obtain ⟨c, rest, equality⟩ := List.exists_cons_of_ne_nil nonempty
  have restored : c.toString ++ String.ofList rest = text := by
    apply String.toList_inj.mp
    simp [equality]
  have begun :
      (Draft.addPlain ⟨segments, count⟩ c).segments =
        .literal c.toString :: segments := by
    unfold Draft.addPlain
    split
    · rename_i before others known
      have joined := separate (.literal before) (by simp [show segments = _ from known])
      simp [Segment.joins] at joined
    · rfl
  rw [equality, List.foldlM_cons] at counted
  obtain ⟨middle, first, others⟩ := Option.bind_eq_some_iff.mp counted
  rw [equality, List.map_cons, placeFrom, List.foldlM_cons]
  simp only [step, bind, Except.bind]
  rw [takePlain_of_countParentheses first, begun,
    foldlM_step_plain_onto_literal limit frames segments _ _ others, restored]

/-- Quoted text is added to quoted text that the draft ends with. -/
theorem foldlM_step_quoted_onto_quoted (limit : Nat) (frames : List Frame)
    (segments : List Segment) (count : Nat) (before : String)
    (here : Location) (text : List Char) :
    (placeFrom here (quotedTokens text)).foldlM (step limit)
        ⟨⟨.quoted before :: segments, count⟩, frames⟩ =
      .ok ⟨⟨.quoted (before ++ String.ofList text) :: segments, count⟩, frames⟩ := by
  induction text generalizing before here with
  | nil =>
      simp [quotedTokens, placeFrom, pure, Except.pure]
  | cons c rest inductionHypothesis =>
      by_cases quote : c = '\''
      · subst quote
        have joined :
            before ++ "'" ++ String.ofList rest =
              before ++ String.ofList ('\'' :: rest) := by
          apply String.toList_inj.mp
          simp
        rw [quotedTokens, if_pos rfl, placeFrom, List.foldlM_cons]
        simp only [step, bind, Except.bind, Draft.addQuoted]
        rw [inductionHypothesis, joined]
      · simp [quotedTokens, quote, placeFrom, step, Draft.addQuoted, bind,
          Except.bind, pure, Except.pure]

/-- Quoted text behind anything else begins a segment of its own. -/
theorem foldlM_step_quoted (limit : Nat) (frames : List Frame)
    {segments : List Segment} (count : Nat) (here : Location)
    {text : String} (nonempty : text.toList ≠ [])
    (separate : ∀ last ∈ segments.head?, last.joins (.quoted text) = false) :
    (placeFrom here (quotedTokens text.toList)).foldlM (step limit)
        ⟨⟨segments, count⟩, frames⟩ =
      .ok ⟨⟨.quoted text :: segments, count⟩, frames⟩ := by
  have begun (first : String) :
      Draft.addQuoted ⟨segments, count⟩ first =
        ⟨.quoted first :: segments, count⟩ := by
    unfold Draft.addQuoted
    split
    · rename_i before others known
      have joined := separate (.quoted before) (by simp [show segments = _ from known])
      simp [Segment.joins] at joined
    · rfl
  obtain ⟨c, rest, equality⟩ := List.exists_cons_of_ne_nil nonempty
  by_cases quote : c = '\''
  · subst quote
    have restored : "'" ++ String.ofList rest = text := by
      apply String.toList_inj.mp
      simp [equality]
    rw [equality, quotedTokens, if_pos rfl, placeFrom, List.foldlM_cons]
    simp only [step, bind, Except.bind, begun]
    rw [foldlM_step_quoted_onto_quoted, restored]
  · have restored : String.ofList (c :: rest) = text := by
      rw [← equality, String.ofList_toList]
    rw [equality, quotedTokens, if_neg quote, restored]
    simp [placeFrom, step, begun, bind, Except.bind, pure, Except.pure]

end Assembly

/-! ## Placing calls keeps the shape of a template -/

theorem Segment.joins_placed (first second : Segment) (start : Nat) :
    (first.placed start).joins second = first.joins second := by
  cases first <;> rfl

theorem Template.isEmpty_placed :
    ∀ (template : Template) (start : Nat),
      (template.placed start).isEmpty = template.isEmpty
  | ⟨[]⟩, _ => rfl
  | ⟨_ :: _⟩, _ => rfl

/-- Closing an argument list changes nothing unless it holds one empty
argument. -/
theorem closedArguments_placedArguments {arguments : List Template}
    (several : arguments ≠ [.empty]) (start : Nat) :
    Assembly.closedArguments (placedArguments arguments start) =
      placedArguments arguments start := by
  match arguments with
  | [] =>
      rfl
  | [only] =>
      have nonempty : only.isEmpty = false := by
        rw [← Bool.not_eq_true]
        intro isEmpty
        apply several
        have noSegments : only.segments = [] := List.isEmpty_iff.mp isEmpty
        rw [← only.mk_segments, noSegments, Template.empty]
      simp [placedArguments, Assembly.closedArguments,
        Template.isEmpty_placed, nonempty]
  | _ :: _ :: _ =>
      rfl

/-! ## Segments, templates and arguments -/

mutual

/-- The tokens of a segment add it to the draft. -/
theorem Segment.foldlM_step_tokens (limit : Nat) :
    ∀ (segment : Segment), segment.IsCanonical →
      ∀ (here : Location) (frames : List Frame) (before : List Segment)
        (count after : Nat),
        frames.length + segment.nesting ≤ limit →
        (∀ last ∈ before.head?, last.joins segment = false) →
        segment.plainCharacters.foldlM (Assembly.countParentheses frames) count =
          some after →
        (placeFrom here segment.tokens).foldlM (Assembly.step limit)
            ⟨⟨before, count⟩, frames⟩ =
          .ok ⟨⟨segment.placed here.position :: before, after⟩, frames⟩
  | .literal text, canonical, here, frames, before, count, after,
      _, separate, counted => by
      simp only [Segment.IsCanonical] at canonical
      exact Assembly.foldlM_step_plain limit frames here canonical.1 separate
        counted
  | .quoted text, canonical, here, frames, before, count, after,
      _, separate, counted => by
      simp only [Segment.IsCanonical] at canonical
      obtain rfl : count = after := by
        simpa [Segment.plainCharacters] using counted
      exact Assembly.foldlM_step_quoted limit frames count here canonical separate
  | .field name, _, here, frames, before, count, after, _, _, counted => by
      obtain rfl : count = after := by
        simpa [Segment.plainCharacters] using counted
      simp [Segment.tokens, placeFrom, Assembly.step, Draft.push,
        Segment.placed, bind, Except.bind, pure, Except.pure]
  | .call name arguments _, canonical, here, frames, before, count, after,
      fits, _, counted => by
      simp only [Segment.IsCanonical] at canonical
      obtain ⟨_, several, inner⟩ := canonical
      obtain rfl : count = after := by
        simpa [Segment.plainCharacters] using counted
      simp only [Segment.nesting] at fits
      have room : frames.length < limit := by
        omega
      rw [Segment.tokens, placeFrom, List.foldlM_cons]
      simp only [Assembly.step, Assembly.openFrame, if_pos room, bind,
        Except.bind]
      have position :
          (here.after (Token.openCall name).characters).position =
            here.position + name.toList.length + 2 := by
        simp [Token.characters]
        omega
      have closed :=
        closedArguments_placedArguments several
          (here.position + name.toList.length + 2)
      cases arguments with
      | nil =>
          simp [argumentTokens, placeFrom, Assembly.step, Assembly.takePlain,
            Draft.empty, Draft.template, Draft.push, Segment.placed,
            placedArguments, Assembly.closedArguments, Template.isEmpty,
            bind, Except.bind, pure, Except.pure]
      | cons argument rest =>
          rw [Draft.empty,
            foldlM_step_argumentTokens limit (argument :: rest) (by simp) inner
              _ frames name [] here ⟨before, count⟩ (by omega), position]
          simp only [List.reverse_nil, List.nil_append, closed]
          rfl
  | .conditional body, canonical, here, frames, before, count, after,
      fits, _, counted => by
      simp only [Segment.IsCanonical] at canonical
      obtain rfl : count = after := by
        simpa [Segment.plainCharacters] using counted
      simp only [Segment.nesting] at fits
      have room : frames.length < limit := by
        omega
      have inner :=
        body.foldlM_step_tokens limit canonical (here.next '[')
          (⟨.block, here, ⟨before, count⟩⟩ :: frames) 0
          (by simp only [List.length_cons]; omega)
          (Assembly.foldlM_countParentheses_block _ _ _ _ _)
      rw [Segment.tokens, placeFrom, List.foldlM_cons]
      simp only [Assembly.step, Assembly.openFrame, if_pos room, bind,
        Except.bind]
      rw [placeFrom_append, List.foldlM_append, Draft.empty]
      simp only [Token.characters, Location.after_cons, Location.after_nil]
      rw [inner]
      simp [placeFrom, Assembly.step, Draft.push, Draft.template,
        Segment.placed, Location.next, bind, Except.bind, pure, Except.pure]

theorem Template.foldlM_step_tokens (limit : Nat) :
    ∀ (template : Template), template.IsCanonical →
      ∀ (here : Location) (frames : List Frame) (after : Nat),
        frames.length + template.nesting ≤ limit →
        template.plainCharacters.foldlM (Assembly.countParentheses frames) 0 =
          some after →
        (placeFrom here template.tokens).foldlM (Assembly.step limit)
            ⟨⟨[], 0⟩, frames⟩ =
          .ok ⟨⟨(template.placed here.position).segments.reverse, after⟩, frames⟩
  | ⟨segments⟩, canonical, here, frames, after, fits, counted => by
      simp only [Template.IsCanonical] at canonical
      rw [Template.tokens,
        foldlM_step_segmentTokens limit segments canonical.1 canonical.2 here
          frames [] 0 after fits (by simp) counted]
      simp [Template.placed]

theorem foldlM_step_segmentTokens (limit : Nat) :
    ∀ (segments : List Segment),
      segments.IsChain (fun first second => first.joins second = false) →
      SegmentsCanonical segments →
      ∀ (here : Location) (frames : List Frame) (before : List Segment)
        (count after : Nat),
        frames.length + segmentNesting segments ≤ limit →
        (∀ last ∈ before.head?, ∀ first ∈ segments.head?,
          last.joins first = false) →
        (segments.flatMap Segment.plainCharacters).foldlM
            (Assembly.countParentheses frames) count = some after →
        (placeFrom here (segmentTokens segments)).foldlM (Assembly.step limit)
            ⟨⟨before, count⟩, frames⟩ =
          .ok ⟨⟨(placedSegments segments here.position).reverse ++ before,
            after⟩, frames⟩
  | [], _, _, here, frames, before, count, after, _, _, counted => by
      obtain rfl : count = after := by
        simpa using counted
      simp [segmentTokens, placedSegments, placeFrom, pure, Except.pure]
  | segment :: rest, chain, canonical, here, frames, before, count, after,
      fits, separate, counted => by
      simp only [SegmentsCanonical] at canonical
      simp only [segmentNesting] at fits
      obtain ⟨separateHead, separateRest⟩ := List.isChain_cons.mp chain
      rw [List.flatMap_cons, List.foldlM_append] at counted
      obtain ⟨middle, first, others⟩ := Option.bind_eq_some_iff.mp counted
      have position :
          (here.after segment.characters).position =
            here.position + segment.characters.length := by
        simp
      rw [segmentTokens, placeFrom_append, List.foldlM_append,
        segment.flatMap_characters_tokens,
        segment.foldlM_step_tokens limit canonical.1 here frames before count
          middle (by omega) (fun last member => separate last member segment rfl)
          first]
      simp only [bind, Except.bind]
      rw [foldlM_step_segmentTokens limit rest separateRest canonical.2 _ frames
        (segment.placed here.position :: before) middle after (by omega) ?_ others,
        position]
      · simp [placedSegments]
      · intro last lastMember next nextMember
        obtain rfl : segment.placed here.position = last := by
          simpa using lastMember
        rw [Segment.joins_placed]
        exact separateHead next nextMember

/-- The tokens of the arguments that are left close an argument list. -/
theorem foldlM_step_argumentTokens (limit : Nat) :
    ∀ (arguments : List Template), arguments ≠ [] → ArgumentsCanonical arguments →
      ∀ (here : Location) (frames : List Frame) (name : String)
        (finished : List Template) (location : Location) (outer : Draft),
        frames.length + 1 + argumentNesting arguments ≤ limit →
        (placeFrom here (argumentTokens arguments ++ [.plain ')'])).foldlM
            (Assembly.step limit)
            ⟨⟨[], 0⟩, ⟨.call name finished, location, outer⟩ :: frames⟩ =
          .ok ⟨outer.push (.call name
            (Assembly.closedArguments
              (finished.reverse ++ placedArguments arguments here.position))
            location.position), frames⟩
  | [], nonempty, _, _, _, _, _, _, _, _ => absurd rfl nonempty
  | [argument], _, canonical, here, frames, name, finished, location, outer,
      fits => by
      simp only [ArgumentsCanonical] at canonical
      simp only [argumentNesting] at fits
      have inner :=
        argument.foldlM_step_tokens limit canonical.1.1 here
          (⟨.call name finished, location, outer⟩ :: frames) 0
          (by simp only [List.length_cons]; omega)
          (by rw [Assembly.countParentheses_call]; exact canonical.1.2)
      rw [argumentTokens, placeFrom_append, List.foldlM_append, inner]
      simp only [placeFrom, List.foldlM_cons, List.foldlM_nil, Assembly.step,
        bind, Except.bind, pure, Except.pure]
      rw [Assembly.takePlain_closing]
      simp [placedArguments]
  | argument :: next :: rest, _, canonical, here, frames, name, finished, location,
      outer, fits => by
      rw [ArgumentsCanonical] at canonical
      rw [argumentNesting] at fits
      have inner :=
        argument.foldlM_step_tokens limit canonical.1.1 here
          (⟨.call name finished, location, outer⟩ :: frames) 0
          (by simp only [List.length_cons]; omega)
          (by rw [Assembly.countParentheses_call]; exact canonical.1.2)
      have position :
          ((here.after argument.characters).after
              (Token.plain ',').characters).position =
            here.position + argument.characters.length + 1 := by
        simp [Token.characters]
      rw [argumentTokens, List.append_assoc, placeFrom_append,
        List.foldlM_append, inner, argument.flatMap_characters_tokens]
      simp only [List.cons_append, placeFrom, List.foldlM_cons, Assembly.step,
        bind, Except.bind]
      rw [Assembly.takePlain_comma, List.reverse_reverse, Draft.empty,
        foldlM_step_argumentTokens limit (next :: rest) (by simp) canonical.2 _
          frames name _ location outer (by omega), position]
      simp [placedArguments]

end

/-- A canonical template within the limit is read back from its source, with
every call placed. -/
theorem Template.parse_source {limit : Nat} {template : Template}
    (canonical : template.IsCanonical) (fits : template.nesting ≤ limit) :
    Template.parse limit template.source = .ok (template.placed 0) := by
  have scanned :
      Token.scan template.source.toList =
        ⟨placeFrom .start template.tokens, none⟩ := by
    rw [Template.source, String.toList_ofList,
      ← template.flatMap_characters_tokens]
    exact Token.scanFrom_flatMap_characters _ (template.lexical_tokens canonical)
  have assembled :=
    template.foldlM_step_tokens limit canonical .start [] 0 (by simpa using fits)
      (Assembly.foldlM_countParentheses_nil 0 _)
  rw [Template.parse, scanned]
  simp only [Assembly.start, Draft.empty, assembled, bind, Except.bind]
  simp [Assembly.finish, Draft.template, Location.start]

end TitleFormatting
