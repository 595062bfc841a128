import TitleFormatting.Proofs.Template.Reading
import TitleFormatting.Proofs.Template.Scanning

/-!
# What an assembly has read

An assembly determines the tokens that it has taken. Every step adds the one
token it takes and keeps all that is under construction canonical and within
the nesting limit, so a finished template is canonical and is written with
exactly the tokens it was read from.
-/

namespace TitleFormatting

/-! ## Lists of segments and arguments -/

theorem segmentTokens_append (first second : List Segment) :
    segmentTokens (first ++ second) = segmentTokens first ++ segmentTokens second := by
  induction first with
  | nil =>
      rfl
  | cons segment rest inductionHypothesis =>
      rw [List.cons_append, segmentTokens, inductionHypothesis, segmentTokens,
        List.append_assoc]

theorem segmentsCanonical_iff {segments : List Segment} :
    SegmentsCanonical segments ↔ ∀ segment ∈ segments, segment.IsCanonical := by
  induction segments with
  | nil =>
      simp [SegmentsCanonical]
  | cons segment rest inductionHypothesis =>
      simp [SegmentsCanonical, inductionHypothesis]

theorem argumentsCanonical_iff {arguments : List Template} :
    ArgumentsCanonical arguments ↔
      ∀ argument ∈ arguments, argument.IsCanonical ∧ argument.IsBalanced := by
  induction arguments with
  | nil =>
      simp [ArgumentsCanonical]
  | cons argument rest inductionHypothesis =>
      simp [ArgumentsCanonical, inductionHypothesis]

theorem segmentNesting_le_iff {segments : List Segment} {bound : Nat} :
    segmentNesting segments ≤ bound ↔
      ∀ segment ∈ segments, segment.nesting ≤ bound := by
  induction segments with
  | nil =>
      simp [segmentNesting]
  | cons segment rest inductionHypothesis =>
      simp only [segmentNesting, Nat.max_le, inductionHypothesis,
        List.forall_mem_cons]

theorem argumentNesting_le_iff {arguments : List Template} {bound : Nat} :
    argumentNesting arguments ≤ bound ↔
      ∀ argument ∈ arguments, argument.nesting ≤ bound := by
  induction arguments with
  | nil =>
      simp [argumentNesting]
  | cons argument rest inductionHypothesis =>
      simp only [argumentNesting, Nat.max_le, inductionHypothesis,
        List.forall_mem_cons]

/-- The tokens of arguments each with the comma behind it. -/
def commaTokens (arguments : List Template) : List Token :=
  arguments.flatMap fun argument => argument.tokens ++ [.plain ',']

theorem argumentTokens_append_singleton (arguments : List Template)
    (last : Template) :
    argumentTokens (arguments ++ [last]) = commaTokens arguments ++ last.tokens := by
  induction arguments with
  | nil =>
      rfl
  | cons argument rest inductionHypothesis =>
      cases rest with
      | nil =>
          simp [argumentTokens, commaTokens]
      | cons next more =>
          simp only [List.cons_append] at inductionHypothesis ⊢
          rw [argumentTokens, inductionHypothesis]
          simp [commaTokens]

theorem argumentTokens_closedArguments (arguments : List Template) :
    argumentTokens (Assembly.closedArguments arguments) =
      argumentTokens arguments := by
  match arguments with
  | [] | _ :: _ :: _ =>
      rfl
  | [⟨[]⟩] | [⟨_ :: _⟩] =>
      rfl

theorem closedArguments_ne_empty (arguments : List Template) :
    Assembly.closedArguments arguments ≠ [.empty] := by
  match arguments with
  | [] | _ :: _ :: _ =>
      simp [Assembly.closedArguments]
  | [⟨[]⟩] | [⟨_ :: _⟩] =>
      simp [Assembly.closedArguments, Template.isEmpty, Template.empty]

theorem mem_of_mem_closedArguments {arguments : List Template}
    {argument : Template}
    (member : argument ∈ Assembly.closedArguments arguments) :
    argument ∈ arguments := by
  unfold Assembly.closedArguments at member
  split at member
  · split at member
    · contradiction
    · exact member
  · exact member

theorem Segment.joins_literal (segment : Segment) (first second : String) :
    segment.joins (.literal first) = segment.joins (.literal second) := by
  cases segment <;> rfl

theorem Segment.joins_quoted (segment : Segment) (first second : String) :
    segment.joins (.quoted first) = segment.joins (.quoted second) := by
  cases segment <;> rfl

/-! ## Sound drafts -/

open Assembly (countParentheses)
open Token (placeFrom)

namespace Draft

/-- A draft inside the given frames that has kept to all rules so far. -/
structure IsSound (limit : Nat) (frames : List Frame) (draft : Draft) :
    Prop where
  separate :
    draft.segments.IsChain fun later earlier => earlier.joins later = false
  canonical : ∀ segment ∈ draft.segments, segment.IsCanonical
  room : frames.length ≤ limit
  fits : ∀ segment ∈ draft.segments, frames.length + segment.nesting ≤ limit
  counted :
    draft.template.plainCharacters.foldlM (countParentheses frames) 0 =
      some draft.parentheses

/-- The draft ends with quoted text that a closing quote has ended. -/
def IsClosed (draft : Draft) : Prop :=
  ∃ text rest, draft.segments = .quoted text :: rest ∧
    ∃ c ∈ text.toList, c ≠ '\''

namespace IsSound

variable {limit : Nat} {frames : List Frame}

theorem empty (room : frames.length ≤ limit) : IsSound limit frames .empty where
  separate := List.isChain_nil
  canonical := by
    simp [Draft.empty]
  room := room
  fits := by
    simp [Draft.empty]
  counted := rfl

/-- A draft with one more segment is sound when the rest of it is and the
segment suits the rest. -/
theorem cons_iff {segment : Segment} {segments : List Segment} {after : Nat} :
    IsSound limit frames ⟨segment :: segments, after⟩ ↔
      ∃ count, IsSound limit frames ⟨segments, count⟩ ∧
        segment.IsCanonical ∧
        frames.length + segment.nesting ≤ limit ∧
        (∀ last ∈ segments.head?, last.joins segment = false) ∧
        segment.plainCharacters.foldlM (countParentheses frames) count =
          some after := by
  have plain (count : Nat) :
      Template.plainCharacters (Draft.template ⟨segment :: segments, count⟩) =
        segments.reverse.flatMap Segment.plainCharacters ++
          segment.plainCharacters := by
    simp [Template.plainCharacters, Draft.template]
  constructor
  · intro sound
    obtain ⟨separate, canonical, room, fits, counted⟩ := sound
    rw [plain, List.foldlM_append] at counted
    obtain ⟨count, before, last⟩ := Option.bind_eq_some_iff.mp counted
    obtain ⟨separateHead, separateRest⟩ := List.isChain_cons.mp separate
    obtain ⟨canonicalHead, canonicalRest⟩ := List.forall_mem_cons.mp canonical
    obtain ⟨fitsHead, fitsRest⟩ := List.forall_mem_cons.mp fits
    exact ⟨count, ⟨separateRest, canonicalRest, room, fitsRest, before⟩,
      canonicalHead, fitsHead, separateHead, last⟩
  · rintro ⟨count, sound, canonicalHead, fitsHead, separateHead, last⟩
    refine ⟨List.isChain_cons.mpr ⟨separateHead, sound.separate⟩,
      List.forall_mem_cons.mpr ⟨canonicalHead, sound.canonical⟩, sound.room,
      List.forall_mem_cons.mpr ⟨fitsHead, sound.fits⟩, ?_⟩
    rw [plain, List.foldlM_append]
    exact Option.bind_eq_some_iff.mpr ⟨count, sound.counted, last⟩

theorem isCanonical_template {draft : Draft} (sound : IsSound limit frames draft) :
    draft.template.IsCanonical := by
  rw [Draft.template, Template.IsCanonical]
  refine ⟨List.isChain_reverse.mpr sound.separate, segmentsCanonical_iff.mpr ?_⟩
  intro segment member
  exact sound.canonical segment (List.mem_reverse.mp member)

theorem nesting_template {draft : Draft} (sound : IsSound limit frames draft) :
    frames.length + draft.template.nesting ≤ limit := by
  have room := sound.room
  have bound : draft.template.nesting ≤ limit - frames.length := by
    rw [Draft.template, Template.nesting]
    refine segmentNesting_le_iff.mpr fun segment member => ?_
    have fits := sound.fits segment (List.mem_reverse.mp member)
    omega
  omega

/-- A segment that is not text can be added to any draft. -/
theorem push {draft : Draft} {segment : Segment}
    (sound : IsSound limit frames draft) (canonical : segment.IsCanonical)
    (fits : frames.length + segment.nesting ≤ limit)
    (noText : segment.isText = false) :
    IsSound limit frames (draft.push segment) := by
  refine cons_iff.mpr ⟨draft.parentheses, sound, canonical, fits, ?_, ?_⟩
  · intro last _
    cases segment <;> cases last <;> simp_all [Segment.isText, Segment.joins]
  · cases segment <;> simp_all [Segment.isText, Segment.plainCharacters]

/-- A plain character that does not end an argument can be added. -/
theorem addPlain {draft : Draft} {c : Char} {after : Nat}
    (sound : IsSound limit frames draft) (plain : Token.isPlainCharacter c)
    (counted : countParentheses frames draft.parentheses c = some after) :
    IsSound limit frames ⟨(draft.addPlain c).segments, after⟩ := by
  obtain ⟨segments, parentheses⟩ := draft
  have room := sound.room
  unfold Draft.addPlain
  split
  · rename_i text rest known
    obtain rfl : segments = .literal text :: rest := known
    obtain ⟨count, restSound, canonical, _, separate, textCounted⟩ :=
      cons_iff.mp sound
    simp only [Segment.IsCanonical] at canonical
    refine cons_iff.mpr ⟨count, restSound, ?_, by simpa [Segment.nesting] using room,
      ?_, ?_⟩
    · simp only [Segment.IsCanonical, String.toList_push]
      refine ⟨by simp, ?_⟩
      intro d member
      rcases List.mem_append.mp member with inText | isLast
      · exact canonical.2 d inText
      · rwa [List.mem_singleton.mp isLast]
    · intro last member
      rw [last.joins_literal _ text]
      exact separate last member
    · simp only [Segment.plainCharacters, String.toList_push] at textCounted ⊢
      rw [List.foldlM_append, textCounted]
      simpa using counted
  · rename_i different
    refine cons_iff.mpr ⟨parentheses, sound, ?_, by simpa [Segment.nesting] using room,
      ?_, ?_⟩
    · simpa [Segment.IsCanonical] using plain
    · intro last member
      cases last with
      | literal text =>
          obtain ⟨rest, known⟩ := List.head?_eq_some_iff.mp member
          exact absurd known (different text rest)
      | quoted text | field name | call name arguments position
        | conditional body =>
          rfl
    · simpa [Segment.plainCharacters] using counted

/-- Quoted text can be added unless it follows a closing quote. -/
theorem addQuoted {draft : Draft} {text : String}
    (sound : IsSound limit frames draft) (nonempty : text.toList ≠ []) :
    IsSound limit frames (draft.addQuoted text) := by
  obtain ⟨segments, parentheses⟩ := draft
  have room := sound.room
  unfold Draft.addQuoted
  split
  · rename_i before rest known
    obtain rfl : segments = .quoted before :: rest := known
    obtain ⟨count, restSound, _, _, separate, counted⟩ := cons_iff.mp sound
    refine cons_iff.mpr ⟨count, restSound, ?_, by simpa [Segment.nesting] using room,
      ?_, counted⟩
    · simp [Segment.IsCanonical, nonempty]
    · intro last member
      rw [last.joins_quoted _ before]
      exact separate last member
  · rename_i different
    refine cons_iff.mpr ⟨parentheses, sound, ?_, by simpa [Segment.nesting] using room,
      ?_, rfl⟩
    · simpa [Segment.IsCanonical] using nonempty
    · intro last member
      cases last with
      | quoted before =>
          obtain ⟨rest, known⟩ := List.head?_eq_some_iff.mp member
          exact absurd known (different before rest)
      | literal before | field name | call name arguments position
        | conditional body =>
          rfl

end IsSound

/-! ## The tokens of a draft -/

theorem tokens_cons (segment : Segment) (segments : List Segment) (count : Nat) :
    (Draft.template ⟨segment :: segments, count⟩).tokens =
      (Draft.template ⟨segments, count⟩).tokens ++ segment.tokens := by
  simp only [template, List.reverse_cons, Template.tokens]
  rw [segmentTokens_append]
  simp [segmentTokens]

theorem tokens_push (draft : Draft) (segment : Segment) :
    (draft.push segment).template.tokens =
      draft.template.tokens ++ segment.tokens :=
  tokens_cons segment draft.segments draft.parentheses

theorem tokens_addPlain (draft : Draft) (c : Char) :
    (draft.addPlain c).template.tokens =
      draft.template.tokens ++ [.plain c] := by
  obtain ⟨segments, parentheses⟩ := draft
  unfold addPlain
  split
  · rename_i text rest known
    obtain rfl : segments = .literal text :: rest := known
    simp only [tokens_cons, Segment.tokens, String.toList_push,
      List.map_append, List.append_assoc, List.map_cons, List.map_nil]
  · simp [tokens_cons, Segment.tokens]

theorem quotedTokens_append {before text : List Char}
    (quotes : ∀ c ∈ before, c = '\'')
    (wellFormed : text = ['\''] ∨ ∃ c rest, text = c :: rest ∧ c ≠ '\'') :
    quotedTokens (before ++ text) =
      quotedTokens before ++ [.quoted (String.ofList text)] := by
  induction before with
  | nil =>
      rcases wellFormed with rfl | ⟨c, rest, rfl, different⟩
      · rfl
      · simp [quotedTokens, different]
  | cons c rest inductionHypothesis =>
      obtain ⟨quote, others⟩ := List.forall_mem_cons.mp quotes
      simp [quotedTokens, quote, inductionHypothesis others]

theorem tokens_addQuoted {draft : Draft} {text : String}
    (wellFormed : (Token.quoted text).IsWellFormed) (unclosed : ¬ draft.IsClosed) :
    (draft.addQuoted text).template.tokens =
      draft.template.tokens ++ [.quoted text] := by
  have listForm :
      text.toList = ['\''] ∨ ∃ c rest, text.toList = c :: rest ∧ c ≠ '\'' := by
    rcases wellFormed with rfl | found
    · exact Or.inl rfl
    · exact Or.inr found
  obtain ⟨segments, parentheses⟩ := draft
  unfold addQuoted
  split
  · rename_i before rest known
    obtain rfl : segments = .quoted before :: rest := known
    have quotes : ∀ c ∈ before.toList, c = '\'' := by
      intro c member
      by_contra different
      exact unclosed ⟨before, rest, rfl, c, member, different⟩
    simp only [tokens_cons, Segment.tokens, String.toList_append,
      List.append_assoc]
    rw [quotedTokens_append quotes listForm, String.ofList_toList]
  · have alone :
        quotedTokens ([] ++ text.toList) =
          quotedTokens [] ++ [.quoted (String.ofList text.toList)] :=
      quotedTokens_append (by simp) listForm
    simp only [tokens_cons, Segment.tokens]
    simpa [quotedTokens] using alone

/-- Only a token that ends with a closing quote closes quoted text. -/
theorem closesQuotes_of_isClosed_addQuoted {draft : Draft} {text : String}
    (unclosed : ¬ draft.IsClosed) (closed : (draft.addQuoted text).IsClosed) :
    (Token.quoted text).closesQuotes := by
  have single : text ≠ "'" := by
    rintro rfl
    obtain ⟨segments, parentheses⟩ := draft
    obtain ⟨joined, rest, equality, c, member, different⟩ := closed
    unfold addQuoted at equality
    split at equality
    · rename_i before others known
      simp only [List.cons.injEq, Segment.quoted.injEq] at equality
      rw [← equality.1, String.toList_append] at member
      rcases List.mem_append.mp member with inBefore | isQuote
      · exact unclosed ⟨before, others, known, c, inBefore, different⟩
      · exact different (by simpa using isQuote)
    · simp only [List.cons.injEq, Segment.quoted.injEq] at equality
      rw [← equality.1] at member
      exact different (by simpa using member)
  simpa [Token.closesQuotes] using single

theorem not_isClosed_addPlain (draft : Draft) (c : Char) (count : Nat) :
    ¬ IsClosed ⟨(draft.addPlain c).segments, count⟩ := by
  rintro ⟨text, rest, equality, _⟩
  unfold addPlain at equality
  split at equality <;> simp at equality

theorem not_isClosed_push (draft : Draft) {segment : Segment}
    (noText : segment.isText = false) : ¬ (draft.push segment).IsClosed := by
  rintro ⟨text, rest, equality, _⟩
  obtain rfl : segment = .quoted text := (List.cons.inj equality).1
  simp [Segment.isText] at noText

theorem not_isClosed_empty : ¬ IsClosed .empty := by
  rintro ⟨text, rest, equality, _⟩
  simp [empty] at equality

end Draft

/-! ## Sound assemblies -/

/-- The tokens that an open block or argument list begins with. -/
def Opener.tokens : Opener → List Token
  | .block => [.openBlock]
  | .call name arguments => .openCall name :: commaTokens arguments.reverse

/-- What is open keeps to all rules: the finished arguments of a call are
canonical, and `depth`, their own depth, leaves room for their nesting. -/
def Opener.IsSound (limit depth : Nat) : Opener → Prop
  | .block => True
  | .call name arguments =>
      (Token.openCall name).IsWellFormed ∧
        ∀ argument ∈ arguments,
          (argument.IsCanonical ∧ argument.IsBalanced) ∧
            depth + argument.nesting ≤ limit

/-- The tokens of all that is open, the innermost last. -/
def framesTokens : List Frame → List Token
  | [] => []
  | frame :: frames =>
      framesTokens frames ++ frame.outer.template.tokens ++ frame.opener.tokens

def FramesSound (limit : Nat) : List Frame → Prop
  | [] => True
  | frame :: frames =>
      frame.outer.IsSound limit frames ∧
        frame.opener.IsSound limit (frames.length + 1) ∧ FramesSound limit frames

namespace Assembly

/-- The tokens that the assembly has taken. -/
def tokens (assembly : Assembly) : List Token :=
  framesTokens assembly.frames ++ assembly.draft.template.tokens

/-- The innermost draft and all around it keep to the rules. -/
structure IsSound (limit : Nat) (assembly : Assembly) : Prop where
  draft : assembly.draft.IsSound limit assembly.frames
  frames : FramesSound limit assembly.frames

theorem isSound_start (limit : Nat) : IsSound limit .start where
  draft := Draft.IsSound.empty (Nat.zero_le limit)
  frames := trivial

/-- What a step has to keep: the assembly stays sound, has taken one more
token, and ends in closed quotes only if that token does. -/
structure Takes (limit : Nat) (before : Assembly) (token : Token)
    (after : Assembly) : Prop where
  sound : after.IsSound limit
  tokens : after.tokens = before.tokens ++ [token]
  closes : after.draft.IsClosed → token.closesQuotes

variable {limit : Nat}

theorem takes_openFrame {assembly after : Assembly} {opener : Opener}
    {character : Char} {location : Location} {token : Token}
    (sound : assembly.IsSound limit)
    (openerSound : ∀ depth, opener.IsSound limit depth)
    (openerTokens : opener.tokens = [token])
    (opened : assembly.openFrame limit opener character location = .ok after) :
    Takes limit assembly token after := by
  unfold openFrame at opened
  split at opened
  · rename_i room
    obtain rfl := Except.ok.inj opened
    refine ⟨⟨Draft.IsSound.empty room, sound.draft, openerSound _, sound.frames⟩, ?_,
      fun closed => absurd closed Draft.not_isClosed_empty⟩
    simp [tokens, framesTokens, openerTokens, Draft.empty, Draft.template,
      Template.tokens, segmentTokens]
  · contradiction

/-- Where counting stops, an argument ends. -/
theorem exists_call_of_countParentheses_eq_none {frames : List Frame}
    {count : Nat} {c : Char}
    (ends : countParentheses frames count c = none) :
    ∃ name arguments location outer rest,
      frames = ⟨.call name arguments, location, outer⟩ :: rest ∧
        count = 0 ∧ (c = ')' ∨ c = ',') := by
  match frames with
  | [] | ⟨.block, _, _⟩ :: _ =>
      simp [countParentheses] at ends
  | ⟨.call name arguments, location, outer⟩ :: rest =>
      refine ⟨name, arguments, location, outer, rest, rfl, ?_⟩
      rw [countParentheses_call, openParentheses] at ends
      split_ifs at ends with opening closing unopened comma
      · exact ⟨unopened, Or.inl closing⟩
      · simp only [Bool.and_eq_true, decide_eq_true_eq] at comma
        exact ⟨comma.2, Or.inr comma.1⟩

theorem argument_of_isSound {segments : List Segment} {name : String}
    {arguments : List Template} {location : Location} {outer : Draft}
    {frames : List Frame}
    (sound : Draft.IsSound limit
      (⟨.call name arguments, location, outer⟩ :: frames) ⟨segments, 0⟩) :
    ((⟨segments.reverse⟩ : Template).IsCanonical ∧
      (⟨segments.reverse⟩ : Template).IsBalanced) ∧
      frames.length + 1 + (⟨segments.reverse⟩ : Template).nesting ≤ limit := by
  refine ⟨⟨sound.isCanonical_template, ?_⟩, sound.nesting_template⟩
  have counted := sound.counted
  rwa [countParentheses_call] at counted

/-- A comma that ends an argument begins the next one. -/
theorem takes_comma {segments : List Segment} {name : String}
    {arguments : List Template} {location : Location} {outer : Draft}
    {frames : List Frame}
    (sound : IsSound limit
      ⟨⟨segments, 0⟩, ⟨.call name arguments, location, outer⟩ :: frames⟩) :
    Takes limit
      ⟨⟨segments, 0⟩, ⟨.call name arguments, location, outer⟩ :: frames⟩
      (.plain ',')
      ⟨.empty,
        ⟨.call name (⟨segments.reverse⟩ :: arguments), location, outer⟩ ::
          frames⟩ := by
  obtain ⟨draftSound, outerSound, ⟨named, argumentsSound⟩, framesSound⟩ := sound
  have argument := argument_of_isSound draftSound
  refine ⟨⟨Draft.IsSound.empty (by simpa using draftSound.room), outerSound,
    ⟨named, List.forall_mem_cons.mpr ⟨argument, argumentsSound⟩⟩, framesSound⟩,
    ?_, fun closed => absurd closed Draft.not_isClosed_empty⟩
  simp [tokens, framesTokens, Opener.tokens, commaTokens, Draft.empty,
    Draft.template, Template.tokens, segmentTokens]

/-- A parenthesis that ends an argument closes its call. -/
theorem takes_closing {segments : List Segment} {name : String}
    {arguments : List Template} {location : Location} {outer : Draft}
    {frames : List Frame}
    (sound : IsSound limit
      ⟨⟨segments, 0⟩, ⟨.call name arguments, location, outer⟩ :: frames⟩) :
    Takes limit
      ⟨⟨segments, 0⟩, ⟨.call name arguments, location, outer⟩ :: frames⟩
      (.plain ')')
      ⟨outer.push (.call name
        (closedArguments (⟨segments.reverse⟩ :: arguments).reverse)
        location.position), frames⟩ := by
  obtain ⟨draftSound, outerSound, ⟨named, argumentsSound⟩, framesSound⟩ := sound
  have room := draftSound.room
  have finished :
      ∀ argument ∈ closedArguments (⟨segments.reverse⟩ :: arguments).reverse,
        (argument.IsCanonical ∧ argument.IsBalanced) ∧
          frames.length + 1 + argument.nesting ≤ limit := by
    intro argument member
    have known := mem_of_mem_closedArguments member
    rw [List.mem_reverse, List.mem_cons] at known
    rcases known with rfl | earlier
    · exact argument_of_isSound draftSound
    · exact argumentsSound argument earlier
  have canonical :
      (Segment.call name
        (closedArguments (⟨segments.reverse⟩ :: arguments).reverse)
        location.position).IsCanonical := by
    simp only [Segment.IsCanonical]
    exact ⟨named, closedArguments_ne_empty _,
      argumentsCanonical_iff.mpr fun argument member => (finished argument member).1⟩
  have fits :
      argumentNesting
          (closedArguments (⟨segments.reverse⟩ :: arguments).reverse) ≤
        limit - (frames.length + 1) := by
    refine argumentNesting_le_iff.mpr fun argument member => ?_
    have bound := (finished argument member).2
    omega
  refine ⟨⟨outerSound.push canonical ?_ rfl, framesSound⟩, ?_,
    fun closed => absurd closed (Draft.not_isClosed_push outer rfl)⟩
  · simp only [List.length_cons] at room
    simp only [Segment.nesting]
    omega
  · simp only [tokens, framesTokens, Opener.tokens, Draft.tokens_push,
      Segment.tokens, argumentTokens_closedArguments, List.reverse_cons,
      argumentTokens_append_singleton]
    simp [Draft.template]

theorem takes_takePlain {assembly : Assembly} {c : Char}
    (sound : assembly.IsSound limit) (plain : Token.isPlainCharacter c) :
    Takes limit assembly (.plain c) (assembly.takePlain c) := by
  obtain ⟨draft, frames⟩ := assembly
  cases counted : countParentheses frames draft.parentheses c with
  | some after =>
      rw [takePlain_of_countParentheses counted]
      refine ⟨⟨sound.draft.addPlain plain counted, sound.frames⟩, ?_,
        fun closed => absurd closed (Draft.not_isClosed_addPlain draft c after)⟩
      have added := Draft.tokens_addPlain draft c
      rw [tokens, tokens, List.append_assoc]
      exact congrArg _ added
  | none =>
      obtain ⟨segments, parentheses⟩ := draft
      obtain ⟨name, arguments, location, outer, rest, rfl, unopened, ending⟩ :=
        exists_call_of_countParentheses_eq_none counted
      obtain rfl : parentheses = 0 := unopened
      rcases ending with rfl | rfl
      · rw [takePlain_closing]
        exact takes_closing sound
      · rw [takePlain_comma]
        exact takes_comma sound

/-- Every step takes its token, unless the token would be read together with
the quotes before it. -/
theorem takes_step {assembly after : Assembly} {placed : PlacedToken}
    (sound : assembly.IsSound limit) (wellFormed : placed.token.IsWellFormed)
    (separated : placed.token.isQuoted → ¬ assembly.draft.IsClosed)
    (stepped : step limit assembly placed = .ok after) :
    Takes limit assembly placed.token after := by
  obtain ⟨token, location⟩ := placed
  cases token with
  | plain c =>
      obtain rfl := Except.ok.inj stepped
      exact takes_takePlain sound wellFormed
  | quoted text =>
      obtain rfl := Except.ok.inj stepped
      have unclosed := separated rfl
      have nonempty : text.toList ≠ [] := by
        rcases wellFormed with rfl | ⟨c, rest, equality, _⟩
        · decide
        · simp [equality]
      refine ⟨⟨sound.draft.addQuoted nonempty, sound.frames⟩, ?_,
        Draft.closesQuotes_of_isClosed_addQuoted unclosed⟩
      simp [tokens, Draft.tokens_addQuoted wellFormed unclosed]
  | field name =>
      obtain rfl := Except.ok.inj stepped
      have canonical : (Segment.field name).IsCanonical := by
        simpa only [Segment.IsCanonical, Token.IsWellFormed] using wellFormed
      refine ⟨⟨sound.draft.push canonical ?_ rfl, sound.frames⟩, ?_,
        fun closed => absurd closed (Draft.not_isClosed_push _ rfl)⟩
      · simpa [Segment.nesting] using sound.draft.room
      · simp [tokens, Draft.tokens_push, Segment.tokens]
  | openCall name =>
      refine takes_openFrame sound ?_ ?_ stepped
      · intro depth
        exact ⟨wellFormed, by simp⟩
      · rfl
  | openBlock =>
      refine takes_openFrame sound ?_ ?_ stepped
      · intro depth
        exact trivial
      · rfl
  | closeBlock =>
      obtain ⟨draft, frames⟩ := assembly
      rcases frames with _ | ⟨⟨opener, opening, outer⟩, rest⟩
      · contradiction
      cases opener with
      | call name arguments =>
          contradiction
      | block =>
          obtain rfl := Except.ok.inj stepped
          obtain ⟨draftSound, outerSound, _, framesSound⟩ := sound
          have canonical : (Segment.conditional draft.template).IsCanonical := by
            simpa only [Segment.IsCanonical] using draftSound.isCanonical_template
          have fits := draftSound.nesting_template
          refine ⟨⟨outerSound.push canonical ?_ rfl, framesSound⟩, ?_,
            fun closed => absurd closed (Draft.not_isClosed_push _ rfl)⟩
          · simp only [List.length_cons] at fits
            simp only [Segment.nesting]
            omega
          · simp [tokens, framesTokens, Opener.tokens, Draft.tokens_push,
              Segment.tokens]

/-- A run over tokens that can be told apart has taken just these tokens. -/
theorem tokens_of_foldlM_step {assembly after : Assembly} {here : Location}
    {tokens : List Token} (lexical : Token.Lexical tokens)
    (sound : assembly.IsSound limit)
    (separated :
      ∀ first ∈ tokens.head?, first.isQuoted → ¬ assembly.draft.IsClosed)
    (run : (placeFrom here tokens).foldlM (step limit) assembly = .ok after) :
    after.IsSound limit ∧ after.tokens = assembly.tokens ++ tokens := by
  induction tokens generalizing assembly here with
  | nil =>
      obtain rfl : assembly = after := by
        simpa [placeFrom, pure, Except.pure] using run
      exact ⟨sound, (List.append_nil _).symm⟩
  | cons token rest inductionHypothesis =>
      obtain ⟨separateHead, separateRest⟩ := List.isChain_cons.mp lexical.separated
      obtain ⟨wellFormed, restWellFormed⟩ :=
        List.forall_mem_cons.mp lexical.wellFormed
      rw [placeFrom, List.foldlM_cons] at run
      cases stepped : step limit assembly ⟨token, here⟩ with
      | error fault =>
          simp [stepped, bind, Except.bind] at run
      | ok middle =>
          simp only [stepped, bind, Except.bind] at run
          have taken := takes_step sound wellFormed (separated token rfl) stepped
          -- The draft is closed behind a quoted token that closes its quotes
          -- only, and the next token is then not a quoted one.
          obtain ⟨afterSound, afterTokens⟩ :=
            inductionHypothesis ⟨restWellFormed, separateRest⟩ taken.sound
              (fun next member quoted closed =>
                separateHead next member (taken.closes closed) quoted) run
          refine ⟨afterSound, ?_⟩
          rw [afterTokens, taken.tokens, List.append_assoc]
          rfl

end Assembly

/-- A template that is read from a source is canonical, keeps to the nesting
limit and is written as that source. -/
theorem Template.isCanonical_of_parse {limit : Nat} {source : String}
    {template : Template} (accepted : Template.parse limit source = .ok template) :
    template.IsCanonical ∧ template.nesting ≤ limit ∧ template.source = source := by
  rw [Template.parse] at accepted
  cases faulted : (Token.scan source.toList).fault with
  | some error =>
      cases ran :
          (Token.scan source.toList).tokens.foldlM (Assembly.step limit) .start <;>
        simp [faulted, ran, bind, Except.bind] at accepted
  | none =>
      obtain ⟨tokens, lexical, equality⟩ :=
        Token.exists_lexical_of_fault_eq_none .start faulted
      have scanned :
          Token.scan source.toList = ⟨placeFrom .start tokens, none⟩ := by
        rw [equality]
        exact Token.scanFrom_flatMap_characters .start lexical
      rw [scanned] at accepted
      cases ran :
          (placeFrom .start tokens).foldlM (Assembly.step limit) .start with
      | error error =>
          simp [ran, bind, Except.bind] at accepted
      | ok assembly =>
          simp only [ran, bind, Except.bind] at accepted
          obtain ⟨sound, taken⟩ :=
            Assembly.tokens_of_foldlM_step lexical (Assembly.isSound_start limit)
              (fun _ _ _ => Draft.not_isClosed_empty) ran
          obtain ⟨draft, frames⟩ := assembly
          rcases frames with _ | ⟨⟨opener, opening, outer⟩, rest⟩
          · obtain rfl : draft.template = template := by
              simpa [Assembly.finish] using accepted
            refine ⟨sound.draft.isCanonical_template, ?_, ?_⟩
            · simpa using sound.draft.nesting_template
            · have written : draft.template.tokens = tokens := by
                simpa [Assembly.tokens, framesTokens, Assembly.start,
                  Draft.empty, Draft.template, Template.tokens,
                  segmentTokens] using taken
              rw [Template.source, ← Template.flatMap_characters_tokens,
                written, ← equality, String.ofList_toList]
          · cases opener <;> simp [Assembly.finish] at accepted

end TitleFormatting
