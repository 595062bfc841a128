import TitleFormatting.Proofs.Template.Failure
import TitleFormatting.Proofs.Template.Limit

/-!
# How a source that fails can go on

A source that ends too early can be completed: what breaks off at its end is
made a token, and all that is then open is closed from the inside out. A source
that is wrong stays wrong, with the same error, whatever follows it.
-/

namespace TitleFormatting

open Token (placeFrom)

/-- The source ends before something is closed. -/
def SyntaxFault.isUnterminated : SyntaxFault → Bool
  | .unterminatedLiteral | .unterminatedVariable _ | .unterminatedFunction _
  | .unterminatedConditional => true
  | .unmatchedBracket | .invalidFunctionName _ | .depthExceeded _ _ => false

/-! ## Closing what is open -/

/-- Closing parentheses for those that are open as text in an argument, and one
for the argument list itself. -/
def closingParentheses (count : Nat) : List Token :=
  List.replicate (count + 1) (.plain ')')

/-- The tokens that close all frames around a draft with as many open
parentheses. -/
def closingTokens : Nat → List Frame → List Token
  | _, [] => []
  | _, ⟨.block, _, outer⟩ :: frames =>
      .closeBlock :: closingTokens outer.parentheses frames
  | count, ⟨.call _ _, _, outer⟩ :: frames =>
      closingParentheses count ++ closingTokens outer.parentheses frames

theorem mem_closingTokens {count : Nat} {frames : List Frame} {token : Token}
    (member : token ∈ closingTokens count frames) :
    token = .plain ')' ∨ token = .closeBlock := by
  induction frames generalizing count with
  | nil =>
      simp [closingTokens] at member
  | cons frame frames inductionHypothesis =>
      obtain ⟨opener, location, outer⟩ := frame
      cases opener with
      | block =>
          rw [closingTokens, List.mem_cons] at member
          rcases member with rfl | outside
          · exact Or.inr rfl
          · exact inductionHypothesis outside
      | call name arguments =>
          rw [closingTokens, List.mem_append] at member
          rcases member with inside | outside
          · exact Or.inl (List.eq_of_mem_replicate inside)
          · exact inductionHypothesis outside

/-- Tokens can be closed behind any tokens that can be told apart. -/
theorem Token.Lexical.append_closingTokens {tokens : List Token}
    (lexical : Lexical tokens) (count : Nat) (frames : List Frame) :
    Lexical (tokens ++ closingTokens count frames) where
  wellFormed := by
    intro token member
    rcases List.mem_append.mp member with earlier | closing
    · exact lexical.wellFormed token earlier
    · rcases mem_closingTokens closing with rfl | rfl
      · exact isPlainCharacter_iff.mpr (by decide)
      · trivial
  separated := by
    have unquoted :
        ∀ token ∈ closingTokens count frames, token.isQuoted = false := by
      intro token member
      rcases mem_closingTokens member with rfl | rfl <;> rfl
    refine lexical.separated.append ?_ ?_
    · refine (List.pairwise_of_forall_mem_list ?_).isChain
      intro first _ second member _
      simp [unquoted second member]
    · intro last _ next member _
      simp [unquoted next (List.mem_of_mem_head? member)]

namespace Assembly

theorem foldlM_step_closingParentheses (limit : Nat) (segments : List Segment)
    (count : Nat) (name : String) (arguments : List Template)
    (location here : Location) (outer : Draft) (frames : List Frame) :
    ∃ segment,
      (placeFrom here (closingParentheses count)).foldlM (step limit)
          ⟨⟨segments, count⟩, ⟨.call name arguments, location, outer⟩ :: frames⟩ =
        .ok ⟨outer.push segment, frames⟩ := by
  induction count generalizing segments here with
  | zero =>
      have closed :=
        takePlain_closing segments name arguments location outer frames
      exact ⟨_, congrArg Except.ok closed⟩
  | succ count inductionHypothesis =>
      have counted :
          countParentheses (⟨.call name arguments, location, outer⟩ :: frames)
            (count + 1) ')' = some count := by
        simp [openParentheses]
      have added : takePlain ⟨⟨segments, count + 1⟩,
          ⟨.call name arguments, location, outer⟩ :: frames⟩ ')' =
            ⟨⟨(Draft.addPlain ⟨segments, count + 1⟩ ')').segments, count⟩,
              ⟨.call name arguments, location, outer⟩ :: frames⟩ :=
        takePlain_of_countParentheses counted
      obtain ⟨segment, closed⟩ :=
        inductionHypothesis (Draft.addPlain ⟨segments, count + 1⟩ ')').segments
          (here.after (Token.plain ')').characters)
      refine ⟨segment, ?_⟩
      rw [closingParentheses, List.replicate_succ, placeFrom, List.foldlM_cons]
      simp only [step, added, bind, Except.bind]
      exact closed

/-- The closing tokens close all frames. -/
theorem foldlM_step_closingTokens (limit : Nat) (draft : Draft)
    (frames : List Frame) (here : Location) :
    ∃ closed,
      (placeFrom here (closingTokens draft.parentheses frames)).foldlM (step limit)
        ⟨draft, frames⟩ = .ok ⟨closed, []⟩ := by
  induction frames generalizing draft here with
  | nil =>
      exact ⟨draft, rfl⟩
  | cons frame frames inductionHypothesis =>
      obtain ⟨opener, location, outer⟩ := frame
      cases opener with
      | block =>
          obtain ⟨closed, run⟩ :=
            inductionHypothesis (outer.push (.conditional draft.template))
              (here.after Token.closeBlock.characters)
          exact ⟨closed, run⟩
      | call name arguments =>
          obtain ⟨segments, count⟩ := draft
          obtain ⟨segment, listed⟩ :=
            foldlM_step_closingParentheses limit segments count name arguments
              location here outer frames
          obtain ⟨closed, run⟩ :=
            inductionHypothesis (outer.push segment)
              (here.after
                ((closingParentheses count).flatMap Token.characters))
          refine ⟨closed, ?_⟩
          rw [closingTokens, Token.placeFrom_append, List.foldlM_append, listed]
          exact run

/-- Where there is room, every token but a closing bracket can be taken. -/
theorem exists_step_eq_ok {limit : Nat} {assembly : Assembly} {token : Token}
    (here : Location) (room : assembly.frames.length < limit)
    (opens : token ≠ .closeBlock) :
    ∃ after, step limit assembly ⟨token, here⟩ = .ok after := by
  cases token with
  | plain c | quoted text | field name =>
      exact ⟨_, rfl⟩
  | openCall name =>
      exact ⟨_, if_pos room⟩
  | openBlock =>
      exact ⟨_, if_pos room⟩
  | closeBlock =>
      contradiction

end Assembly

/-- Tokens that have been taken can be made a whole template by what closes all
that is open. -/
theorem Template.exists_parse_of_foldlM_step {limit : Nat} {tokens : List Token}
    {assembly : Assembly} (lexical : Token.Lexical tokens)
    (taken : (placeFrom .start tokens).foldlM (Assembly.step limit) .start =
      .ok assembly) :
    ∃ more template,
      Template.parse limit
        (String.ofList (tokens.flatMap Token.characters ++ more)) = .ok template := by
  obtain ⟨draft, frames⟩ := assembly
  have splits :
      Token.Splits
        (String.ofList (tokens.flatMap Token.characters ++
          (closingTokens draft.parentheses frames).flatMap
            Token.characters)).toList
        (tokens ++ closingTokens draft.parentheses frames) [] := by
    refine ⟨lexical.append_closingTokens _ _, fun _ _ _ => by simp, ?_⟩
    rw [String.toList_ofList, List.append_nil, List.flatMap_append]
  obtain ⟨closed, run⟩ :=
    Assembly.foldlM_step_closingTokens limit draft frames
      (Location.start.after (tokens.flatMap Token.characters))
  refine ⟨(closingTokens draft.parentheses frames).flatMap Token.characters,
    closed.template, ?_⟩
  rw [parse_of_splits limit splits, Token.placeFrom_append, List.foldlM_append,
    taken]
  simp only [bind, Except.bind, run]
  rfl

/-! ## Sources that break off -/

namespace Token

/-- What breaks off at the end of a source can be made a token. -/
theorem Breaks.exists_completion {rest skipped : List Char} {fault : SyntaxFault}
    (breaks : Breaks rest fault skipped) (unterminated : fault.isUnterminated) :
    ∃ (token : Token) (more : List Char), token.IsWellFormed ∧
      token ≠ .closeBlock ∧ token.characters = rest ++ more := by
  cases breaks with
  | inQuotes single =>
      rename_i text
      cases text with
      | nil =>
          exact ⟨.quoted "'", ['\''], Or.inl rfl, by simp, rfl⟩
      | cons c text =>
          have different : c ≠ '\'' := by
            simpa using single
          refine ⟨.quoted (String.ofList (c :: text)), ['\''],
            Or.inr ⟨c, text, String.toList_ofList, different⟩, by simp, ?_⟩
          simp [characters, quotedCharacters, different]
  | inField unclosed =>
      rename_i name
      refine ⟨.field (String.ofList name), ['%'], ?_, by simp, ?_⟩
      · simpa [IsWellFormed] using unclosed
      · simp [characters]
  | inFunctionName functionName =>
      rename_i name
      cases name with
      | nil =>
          have named : (openCall "a").IsWellFormed :=
            ⟨by decide, List.forall_mem_singleton.mpr rfl⟩
          exact ⟨.openCall "a", ['a', '('], named, by simp, rfl⟩
      | cons c name =>
          refine ⟨.openCall (String.ofList (c :: name)), ['('], ?_, by simp, ?_⟩
          · simpa [IsWellFormed] using functionName
          · simp [characters]
  | behindFunctionName more functionName foreign unopened =>
      contradiction

theorem Breaks.ne_nil {rest skipped : List Char} {fault : SyntaxFault}
    (breaks : Breaks rest fault skipped) : rest ≠ [] := by
  cases breaks <;> simp

/-- A character in a function name that cannot stand there is wrong whatever
follows it. -/
theorem Breaks.append {rest skipped : List Char} {fault : SyntaxFault}
    (breaks : Breaks rest fault skipped)
    (wrong : fault.isUnterminated = false) (more : List Char) :
    Breaks (rest ++ more) fault skipped := by
  cases breaks with
  | inQuotes single | inField unclosed | inFunctionName functionName =>
      contradiction
  | behindFunctionName behind functionName foreign unopened =>
      rw [List.append_assoc]
      exact .behindFunctionName (behind ++ more) functionName foreign unopened

theorem MayPrecede.append {token : Token} {rest : List Char}
    (mayPrecede : token.MayPrecede rest) (nonempty : rest ≠ [])
    (more : List Char) : token.MayPrecede (rest ++ more) := by
  intro closes
  rw [List.head?_append_of_ne_nil _ nonempty]
  exact mayPrecede closes

theorem Splits.append {source rest : List Char} {tokens : List Token}
    (splits : Splits source tokens rest) (nonempty : rest ≠ [])
    (more : List Char) : Splits (source ++ more) tokens (rest ++ more) where
  lexical := splits.lexical
  separated last member := (splits.separated last member).append nonempty more
  written := by
    rw [splits.written, List.append_assoc]

/-- A token that begins with all that is left can be told apart from the
tokens before it. -/
theorem Splits.lexical_concat {source rest more : List Char} {tokens : List Token}
    {token : Token} (splits : Splits source tokens rest) (nonempty : rest ≠ [])
    (wellFormed : token.IsWellFormed)
    (completes : token.characters = rest ++ more) :
    Lexical (tokens ++ [token]) := by
  have single : Lexical [token] :=
    ⟨by simpa using wellFormed, List.isChain_singleton _⟩
  refine splits.lexical.append single ?_
  intro last lastMember next nextMember closes quoted
  obtain rfl : token = next := by
    simpa using nextMember
  have quote := (head?_characters_eq_quote_iff wellFormed).mpr quoted
  rw [completes, List.head?_append_of_ne_nil _ nonempty] at quote
  exact splits.separated last lastMember closes quote

end Token

/-! ## Incomplete and wrong sources -/

namespace Template

variable {limit : Nat} {error : SyntaxError}

/-- One more level is room enough to complete a source that ends too early. -/
theorem FailsWith.exists_parse_append {source : List Char}
    (fails : FailsWith limit source error)
    (unterminated : error.fault.isUnterminated) :
    ∃ more template,
      Template.parse (limit + 1) (String.ofList (source ++ more)) =
        .ok template := by
  cases fails with
  | refused rest lexical taken refuses =>
      rcases Assembly.step_eq_error refuses with
        ⟨_, rfl⟩ | ⟨_, rfl⟩ | ⟨name, _, rfl⟩ <;>
      contradiction
  | broken splits taken breaks =>
      rename_i rest skipped tokens assembly fault
      obtain ⟨token, completion, wellFormed, opens, completes⟩ :=
        breaks.exists_completion unterminated
      have lexical := splits.lexical_concat breaks.ne_nil wellFormed completes
      -- The completed token may open what the limit has no room for.
      have room : assembly.frames.length < limit + 1 := by
        have sound := Assembly.tokens_of_foldlM_step splits.lexical
          (Assembly.isSound_start limit) (fun _ _ _ => Draft.not_isClosed_empty)
          taken
        have atMost := sound.1.draft.room
        omega
      obtain ⟨after, stepped⟩ :=
        Assembly.exists_step_eq_ok
          (Location.start.after (tokens.flatMap Token.characters)) room opens
      have takenAll :
          (placeFrom .start (tokens ++ [token])).foldlM
            (Assembly.step (limit + 1)) .start = .ok after := by
        rw [Token.placeFrom_append, List.foldlM_append,
          Assembly.foldlM_step_of_le (Nat.le_succ limit) taken]
        simp only [bind, Except.bind, placeFrom, List.foldlM_cons, stepped]
        rfl
      obtain ⟨more, template, accepted⟩ :=
        exists_parse_of_foldlM_step lexical takenAll
      refine ⟨completion ++ more, template, ?_⟩
      rw [splits.written]
      simpa [completes] using accepted
  | unfinished lexical taken =>
      exact exists_parse_of_foldlM_step lexical
        (Assembly.foldlM_step_of_le (Nat.le_succ limit) taken)

/-- A source that is wrong fails alike whatever follows it. -/
theorem FailsWith.append {source : List Char}
    (fails : FailsWith limit source error)
    (wrong : error.fault.isUnterminated = false) (more : List Char) :
    FailsWith limit (source ++ more) error := by
  cases fails with
  | refused rest lexical taken refuses =>
      rw [List.append_assoc]
      exact .refused (rest ++ more) lexical taken refuses
  | broken splits taken breaks =>
      exact .broken (splits.append breaks.ne_nil more) taken
        (breaks.append wrong more)
  | unfinished lexical taken =>
      rename_i tokens draft frame frames
      obtain ⟨opener, location, outer⟩ := frame
      cases opener <;> contradiction

/-- A source that ends before something is closed can be completed, with one
more level of nesting at the most. A source with any other error fails with the
very same error whatever follows it. -/
theorem parse_append_of_parse_eq_error {source : String}
    (failed : Template.parse limit source = .error error) :
    (error.fault.isUnterminated = true →
      ∃ more template,
        Template.parse (limit + 1) (source ++ more) = .ok template) ∧
    (error.fault.isUnterminated = false →
      ∀ more, Template.parse limit (source ++ more) = .error error) := by
  have fails := parse_eq_error_iff.mp failed
  constructor
  · intro unterminated
    obtain ⟨more, template, accepted⟩ := fails.exists_parse_append unterminated
    rw [String.ofList_append, String.ofList_toList] at accepted
    exact ⟨String.ofList more, template, accepted⟩
  · intro wrong more
    rw [parse_eq_error_iff, String.toList_append]
    exact fails.append wrong more.toList

theorem parse_append_of_parse_eq_error_sample :
    (Template.parse 1 "$f((a,'b" =
        .error ⟨.unterminatedLiteral, ⟨6, 6⟩⟩ ∧
      ∃ more template,
        Template.parse 2 ("$f((a,'b" ++ more) = .ok template) ∧
    Template.parse 1 "$f([" = .error ⟨.depthExceeded '[' 1, ⟨3, 3⟩⟩ ∧
      ∀ more, Template.parse 1 ("$f([" ++ more) =
        .error ⟨.depthExceeded '[' 1, ⟨3, 3⟩⟩ := by
  have incomplete :
      Template.parse 1 "$f((a,'b" = .error ⟨.unterminatedLiteral, ⟨6, 6⟩⟩ :=
    rfl
  have wrong :
      Template.parse 1 "$f([" = .error ⟨.depthExceeded '[' 1, ⟨3, 3⟩⟩ :=
    rfl
  exact ⟨⟨incomplete, (parse_append_of_parse_eq_error incomplete).1 rfl⟩, wrong,
    (parse_append_of_parse_eq_error wrong).2 rfl⟩

end Template

end TitleFormatting
