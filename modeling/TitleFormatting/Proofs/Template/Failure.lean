import TitleFormatting.Proofs.Except
import TitleFormatting.Proofs.Template.Assembling

/-!
# How reading fails

A reading fails in one of three ways: a token is refused, the source breaks off
inside a token, or it ends while something is open. Each of them is a fact
about the tokens before the failure, so that the error can be compared with
the source and with longer sources.
-/

namespace TitleFormatting

open Token (placeFrom)

/-! ## Reading behind tokens -/

/-- Take the tokens of a scan and finish. -/
def Assembly.complete (limit : Nat) (scan : Token.Scan) (assembly : Assembly) :
    Except SyntaxError Template := do
  let assembly ← scan.tokens.foldlM (step limit) assembly
  match scan.fault with
  | some error => .error error
  | none => assembly.finish

theorem Assembly.complete_behind (limit : Nat) (placed : List PlacedToken)
    (scan : Token.Scan) (assembly : Assembly) :
    complete limit (scan.behind placed) assembly =
      placed.foldlM (step limit) assembly >>= complete limit scan := by
  rw [complete, Token.Scan.behind, List.foldlM_append, bind_assoc]
  rfl

/-- A source that begins with tokens is read by taking these and going on with
the rest. -/
theorem Template.parse_of_splits (limit : Nat) {source : String}
    {tokens : List Token} {rest : List Char}
    (splits : Token.Splits source.toList tokens rest) :
    Template.parse limit source =
      (placeFrom .start tokens).foldlM (Assembly.step limit) .start >>=
        Assembly.complete limit
          (Token.scanFrom .outside
            (Location.start.after (tokens.flatMap Token.characters)) rest) := by
  rw [← Assembly.complete_behind, ← splits.scanFrom_eq]
  rfl

/-! ## Places of tokens -/

namespace Token

theorem Lexical.of_append_left {first second : List Token}
    (lexical : Lexical (first ++ second)) : Lexical first :=
  ⟨fun token member => lexical.wellFormed token (List.mem_append_left _ member),
    lexical.separated.left_of_append⟩

/-- A placed token stands behind the lexemes of the tokens before it. -/
theorem exists_of_placeFrom_eq_append_cons {here : Location} {tokens : List Token}
    {before after : List PlacedToken} {placed : PlacedToken}
    (equality : placeFrom here tokens = before ++ placed :: after) :
    ∃ first token second, tokens = first ++ token :: second ∧
      before = placeFrom here first ∧
      placed = ⟨token, here.after (first.flatMap characters)⟩ := by
  induction tokens generalizing here before with
  | nil =>
      simp [placeFrom] at equality
  | cons token rest inductionHypothesis =>
      cases before with
      | nil =>
          obtain ⟨rfl, _⟩ := List.cons.inj equality
          exact ⟨[], token, rest, rfl, rfl, rfl⟩
      | cons earlier before =>
          obtain ⟨rfl, restEquality⟩ := List.cons.inj equality
          obtain ⟨first, found, second, rfl, rfl, rfl⟩ :=
            inductionHypothesis restEquality
          exact ⟨token :: first, found, second, rfl, rfl, by simp⟩

end Token

/-! ## What is open at the end of a source -/

/-- The error of a source that ends before this is closed. -/
def Frame.unclosed (frame : Frame) : SyntaxError :=
  match frame.opener with
  | .block => ⟨.unterminatedConditional, frame.location⟩
  | .call name _ => ⟨.unterminatedFunction name, frame.location⟩

/-- The token that this was opened by. -/
def Frame.opening (frame : Frame) : PlacedToken :=
  match frame.opener with
  | .block => ⟨.openBlock, frame.location⟩
  | .call name _ => ⟨.openCall name, frame.location⟩

namespace Assembly

theorem finish_cons (draft : Draft) (frame : Frame) (frames : List Frame) :
    finish ⟨draft, frame :: frames⟩ = .error frame.unclosed := by
  obtain ⟨opener, location, outer⟩ := frame
  cases opener <;> rfl

variable {limit : Nat}

theorem opening_of_takePlain {assembly : Assembly} {c : Char} :
    ∀ frame ∈ (assembly.takePlain c).frames,
      ∃ earlier ∈ assembly.frames, earlier.opening = frame.opening := by
  obtain ⟨draft, frames⟩ := assembly
  cases counted : countParentheses frames draft.parentheses c with
  | some after =>
      rw [takePlain_of_countParentheses counted]
      exact fun frame member => ⟨frame, member, rfl⟩
  | none =>
      obtain ⟨segments, parentheses⟩ := draft
      obtain ⟨name, arguments, location, outer, rest, rfl, unopened, ending⟩ :=
        exists_call_of_countParentheses_eq_none counted
      obtain rfl : parentheses = 0 := unopened
      rcases ending with rfl | rfl
      · rw [takePlain_closing]
        exact fun frame member => ⟨frame, List.mem_cons_of_mem _ member, rfl⟩
      · rw [takePlain_comma]
        intro frame member
        rcases List.mem_cons.mp member with rfl | outside
        · exact ⟨_, List.mem_cons_self, rfl⟩
        · exact ⟨frame, List.mem_cons_of_mem _ outside, rfl⟩

theorem frames_of_openFrame {assembly after : Assembly} {opener : Opener}
    {character : Char} {location : Location}
    (opened : assembly.openFrame limit opener character location = .ok after) :
    after.frames = ⟨opener, location, assembly.draft⟩ :: assembly.frames := by
  unfold openFrame at opened
  split at opened
  · rw [← Except.ok.inj opened]
  · contradiction

/-- Whatever is open after a step was open before it or is opened by its
token. -/
theorem opening_of_step {assembly after : Assembly} {placed : PlacedToken}
    (stepped : step limit assembly placed = .ok after) :
    ∀ frame ∈ after.frames, frame.opening = placed ∨
      ∃ earlier ∈ assembly.frames, earlier.opening = frame.opening := by
  obtain ⟨token, location⟩ := placed
  intro frame member
  cases token with
  | plain c =>
      obtain rfl := Except.ok.inj stepped
      exact Or.inr (opening_of_takePlain frame member)
  | quoted text | field name =>
      obtain rfl := Except.ok.inj stepped
      exact Or.inr ⟨frame, member, rfl⟩
  | openCall name | openBlock =>
      rw [frames_of_openFrame stepped] at member
      rcases List.mem_cons.mp member with rfl | outside
      · exact Or.inl rfl
      · exact Or.inr ⟨frame, outside, rfl⟩
  | closeBlock =>
      obtain ⟨draft, frames⟩ := assembly
      rcases frames with _ | ⟨⟨opener, opening, outer⟩, rest⟩
      · contradiction
      cases opener with
      | call name arguments =>
          contradiction
      | block =>
          obtain rfl := Except.ok.inj stepped
          exact Or.inr ⟨frame, List.mem_cons_of_mem _ member, rfl⟩

/-- Whatever is open after a run was opened by one of its tokens, or before. -/
theorem opening_of_foldlM_step {assembly after : Assembly}
    {placed : List PlacedToken}
    (ran : placed.foldlM (step limit) assembly = .ok after) :
    ∀ frame ∈ after.frames, frame.opening ∈ placed ∨
      ∃ earlier ∈ assembly.frames, earlier.opening = frame.opening := by
  induction placed generalizing assembly with
  | nil =>
      obtain rfl := Except.ok.inj ran
      exact fun frame member => Or.inr ⟨frame, member, rfl⟩
  | cons first rest inductionHypothesis =>
      rw [List.foldlM_cons, Except.bind_eq_ok_iff] at ran
      obtain ⟨middle, stepped, ran⟩ := ran
      intro frame member
      rcases inductionHypothesis ran frame member with
        inRest | ⟨earlier, isOpen, same⟩
      · exact Or.inl (List.mem_cons_of_mem _ inRest)
      · rw [← same]
        rcases opening_of_step stepped earlier isOpen with rfl | before
        · exact Or.inl List.mem_cons_self
        · exact Or.inr before

/-! ## Refused tokens -/

/-- A bracket is refused that closes nothing, and what would be nested too
deep. -/
theorem step_eq_error {assembly : Assembly} {placed : PlacedToken}
    {error : SyntaxError} (refused : step limit assembly placed = .error error) :
    (placed.token = .closeBlock ∧ error = ⟨.unmatchedBracket, placed.location⟩) ∨
      (placed.token = .openBlock ∧
        error = ⟨.depthExceeded '[' limit, placed.location⟩) ∨
      ∃ name, placed.token = .openCall name ∧
        error = ⟨.depthExceeded '$' limit, placed.location⟩ := by
  obtain ⟨token, location⟩ := placed
  have tooDeep {opener : Opener} {character : Char}
      (stopped :
        assembly.openFrame limit opener character location = .error error) :
      error = ⟨.depthExceeded character limit, location⟩ := by
    unfold openFrame at stopped
    split at stopped
    · contradiction
    · exact (Except.error.inj stopped).symm
  cases token with
  | plain c | quoted text | field name =>
      contradiction
  | openCall name =>
      exact Or.inr (Or.inr ⟨name, rfl, tooDeep refused⟩)
  | openBlock =>
      exact Or.inr (Or.inl ⟨rfl, tooDeep refused⟩)
  | closeBlock =>
      obtain ⟨draft, frames⟩ := assembly
      rcases frames with _ | ⟨⟨opener, opening, outer⟩, rest⟩
      · exact Or.inl ⟨rfl, (Except.error.inj refused).symm⟩
      cases opener with
      | call name arguments =>
          exact Or.inl ⟨rfl, (Except.error.inj refused).symm⟩
      | block =>
          contradiction

theorem closesQuotes_of_step_eq_error {assembly : Assembly} {placed : PlacedToken}
    {error : SyntaxError} (refused : step limit assembly placed = .error error) :
    placed.token.closesQuotes = false := by
  rcases step_eq_error refused with ⟨equality, _⟩ | ⟨equality, _⟩ | ⟨name, equality, _⟩ <;>
    rw [equality] <;> rfl

end Assembly

/-! ## The three ways to fail -/

open Assembly (step)

/-- How reading a source within the limit comes to an error. -/
inductive Template.FailsWith (limit : Nat) : List Char → SyntaxError → Prop where
  /-- A token is refused, whatever follows it. -/
  | refused {tokens : List Token} {token : Token} {assembly : Assembly}
      {error : SyntaxError} (rest : List Char)
      (lexical : Token.Lexical (tokens ++ [token]))
      (taken : (placeFrom .start tokens).foldlM (step limit) .start = .ok assembly)
      (refuses : step limit assembly
        ⟨token, Location.start.after (tokens.flatMap Token.characters)⟩ =
          .error error) :
      FailsWith limit ((tokens ++ [token]).flatMap Token.characters ++ rest) error
  /-- The source breaks off behind tokens that can all be taken. -/
  | broken {source rest skipped : List Char} {tokens : List Token}
      {assembly : Assembly} {fault : SyntaxFault}
      (splits : Token.Splits source tokens rest)
      (taken : (placeFrom .start tokens).foldlM (step limit) .start = .ok assembly)
      (breaks : Token.Breaks rest fault skipped) :
      FailsWith limit source
        ⟨fault, Location.start.after (tokens.flatMap Token.characters ++ skipped)⟩
  /-- The source ends and something is open. -/
  | unfinished {tokens : List Token} {draft : Draft} {frame : Frame}
      {frames : List Frame} (lexical : Token.Lexical tokens)
      (taken : (placeFrom .start tokens).foldlM (step limit) .start =
        .ok ⟨draft, frame :: frames⟩) :
      FailsWith limit (tokens.flatMap Token.characters) frame.unclosed

namespace Template

variable {limit : Nat} {source : String} {error : SyntaxError}

theorem failsWith_of_parse_eq_error
    (failed : Template.parse limit source = .error error) :
    FailsWith limit source.toList error := by
  obtain ⟨tokens, rest, splits, ends⟩ := Token.exists_splits source.toList
  rw [parse_of_splits limit splits, Except.bind_eq_error_iff] at failed
  rcases failed with refused | ⟨assembly, taken, completed⟩
  · obtain ⟨before, placed, after, middle, equality, taken, refuses⟩ :=
      Except.exists_step_of_foldlM_eq_error refused
    obtain ⟨first, token, second, rfl, rfl, rfl⟩ :=
      Token.exists_of_placeFrom_eq_append_cons equality
    have lexical : Token.Lexical ((first ++ [token]) ++ second) := by
      simpa using splits.lexical
    have written :
        source.toList =
          (first ++ [token]).flatMap Token.characters ++
            (second.flatMap Token.characters ++ rest) := by
      rw [splits.written]
      simp
    rw [written]
    exact .refused _ lexical.of_append_left taken refuses
  · rcases ends with rfl | ⟨fault, skipped, breaks⟩
    · have written := splits.written
      rw [List.append_nil] at written
      obtain ⟨draft, frames⟩ := assembly
      cases frames with
      | nil =>
          contradiction
      | cons frame frames =>
          obtain rfl : frame.unclosed = error := by
            have finished := Assembly.finish_cons draft frame frames
            exact Except.error.inj (finished.symm.trans completed)
          rw [written]
          exact .unfinished splits.lexical taken
    · rw [Token.scanFrom_of_breaks _ breaks, ← Location.after_append] at completed
      obtain rfl := Except.error.inj completed
      exact .broken splits taken breaks

theorem parse_eq_error_of_failsWith (fails : FailsWith limit source.toList error) :
    Template.parse limit source = .error error := by
  generalize written : source.toList = characters at fails
  cases fails with
  | refused rest lexical taken refuses =>
      rename_i tokens token assembly
      have splits : Token.Splits source.toList (tokens ++ [token]) rest := by
        refine ⟨lexical, ?_, written⟩
        intro last member closes
        obtain rfl : token = last := by
          simpa using member
        -- No refused token ends with a quote that the rest could go on with.
        rw [Assembly.closesQuotes_of_step_eq_error refuses] at closes
        contradiction
      rw [parse_of_splits limit splits, Token.placeFrom_append,
        List.foldlM_append, taken]
      simp only [bind, Except.bind, placeFrom, List.foldlM_cons, refuses]
  | broken splits taken breaks =>
      rw [← written] at splits
      rw [parse_of_splits limit splits, taken, Token.scanFrom_of_breaks _ breaks,
        Location.after_append]
      rfl
  | unfinished lexical taken =>
      rename_i tokens draft frame frames
      have splits : Token.Splits source.toList tokens [] :=
        ⟨lexical, fun _ _ _ => by simp, by rw [written, List.append_nil]⟩
      rw [parse_of_splits limit splits, taken]
      exact Assembly.finish_cons draft frame frames

/-- A source fails in one of these ways, and each of them makes it fail. -/
theorem parse_eq_error_iff :
    Template.parse limit source = .error error ↔
      FailsWith limit source.toList error :=
  ⟨failsWith_of_parse_eq_error, parse_eq_error_of_failsWith⟩

end Template

end TitleFormatting
