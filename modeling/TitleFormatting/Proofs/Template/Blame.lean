import Mathlib.Algebra.GroupWithZero.Nat
import TitleFormatting.Diagnostic
import TitleFormatting.Proofs.Template.Failure
import TitleFormatting.Proofs.Text.Offsets

/-!
# The character that an error blames

Every error of a reading names a character of the source and its place, in
characters and in bytes, and what else it says is so in the characters around
that place. The label of its diagnostic covers just this character.
-/

namespace TitleFormatting

open Token (placeFrom isFieldCharacter isFunctionCharacter)

/-! ## Counting bytes -/

theorem Text.sum_map_utf8Size (text : List Char) :
    (text.map Char.utf8Size).sum = utf8Length text := by
  induction text with
  | nil =>
      rfl
  | cons c rest inductionHypothesis =>
      rw [List.map_cons, List.sum_cons, inductionHypothesis, utf8Length_cons]

namespace Location

@[simp]
theorem offset_next (location : Location) (c : Char) :
    (location.next c).offset = location.offset + c.utf8Size :=
  rfl

theorem offset_after (location : Location) (characters : List Char) :
    (location.after characters).offset =
      location.offset + Text.utf8Length characters := by
  induction characters generalizing location with
  | nil =>
      rfl
  | cons c rest inductionHypothesis =>
      rw [after_cons, inductionHypothesis, offset_next, Text.utf8Length_cons,
        Nat.add_assoc]

end Location

/-! ## What an error says about its source -/

/-- What the fault says, beyond the character to blame, is so in a source that
has these characters before and after that one. -/
def SyntaxFault.Describes (limit : Nat) (before after : List Char) :
    SyntaxFault → Prop
  | .unterminatedLiteral | .unterminatedConditional | .unmatchedBracket => True
  | .unterminatedVariable invalid =>
      '%' ∉ after ∧ invalid = after.find? fun c => !isFieldCharacter c
  | .unterminatedFunction name =>
      name.toList = after.takeWhile isFunctionCharacter
  | .invalidFunctionName character =>
      isFunctionCharacter character = false ∧
        ∃ earlier name, before = earlier ++ '$' :: name ∧
          (∀ c ∈ name, isFunctionCharacter c) ∧ (character = '(' → name = [])
  | .depthExceeded opener depth => (opener = '[' ∨ opener = '$') ∧ depth = limit

theorem takeWhile_isFunctionCharacter_append {name rest : List Char}
    (functionName : ∀ c ∈ name, isFunctionCharacter c) :
    (name ++ '(' :: rest).takeWhile isFunctionCharacter = name := by
  have opening : isFunctionCharacter '(' = false := by
    decide
  rw [List.takeWhile_append_of_pos functionName, List.takeWhile_cons, opening]
  exact List.append_nil name

/-- Something that is left open was opened by a character of the source. -/
theorem Frame.exists_opening {limit : Nat} {tokens : List Token} {draft : Draft}
    {frame : Frame} {frames : List Frame}
    (taken : (placeFrom .start tokens).foldlM (Assembly.step limit) .start =
      .ok ⟨draft, frame :: frames⟩) :
    ∃ first token second, tokens = first ++ token :: second ∧
      frame.opening =
        ⟨token, Location.start.after (first.flatMap Token.characters)⟩ := by
  rcases Assembly.opening_of_foldlM_step taken frame List.mem_cons_self with
    member | ⟨_, outside, _⟩
  · obtain ⟨before, after, equality⟩ := List.append_of_mem member
    obtain ⟨first, token, second, split, _, opening⟩ :=
      Token.exists_of_placeFrom_eq_append_cons equality
    exact ⟨first, token, second, split, opening⟩
  · contradiction

/-- The character to blame stands in the source behind the characters that
come before the place of the error. -/
theorem Template.FailsWith.exists_blamed {limit : Nat} {source : List Char}
    {error : SyntaxError} (fails : FailsWith limit source error) :
    ∃ before after, source = before ++ error.character :: after ∧
      error.location = Location.start.after before ∧
      error.fault.Describes limit before after := by
  cases fails with
  | refused rest lexical taken refuses =>
      rename_i tokens token assembly
      rcases Assembly.step_eq_error refuses with
        ⟨rfl, rfl⟩ | ⟨rfl, rfl⟩ | ⟨name, rfl, rfl⟩
      · exact ⟨tokens.flatMap Token.characters, rest,
          by simp [Token.characters, SyntaxError.character], rfl, trivial⟩
      · exact ⟨tokens.flatMap Token.characters, rest,
          by simp [Token.characters, SyntaxError.character], rfl, Or.inl rfl, rfl⟩
      · exact ⟨tokens.flatMap Token.characters, name.toList ++ '(' :: rest,
          by simp [Token.characters, SyntaxError.character], rfl, Or.inr rfl, rfl⟩
  | broken splits taken breaks =>
      rename_i rest skipped tokens assembly fault
      refine ⟨tokens.flatMap Token.characters ++ skipped, ?_⟩
      rw [splits.written]
      cases breaks with
      | inQuotes single =>
          rename_i text
          exact ⟨doubledQuotes text, by simp [SyntaxError.character], rfl, trivial⟩
      | inField unclosed =>
          rename_i name
          exact ⟨name, by simp [SyntaxError.character], rfl, unclosed, rfl⟩
      | inFunctionName functionName =>
          rename_i name
          refine ⟨name, by simp [SyntaxError.character], rfl, ?_⟩
          rw [SyntaxFault.Describes, String.toList_ofList,
            List.takeWhile_eq_self_iff.mpr functionName]
      | behindFunctionName more functionName foreign unopened =>
          rename_i name c
          exact ⟨more, by simp [SyntaxError.character], rfl, foreign,
            tokens.flatMap Token.characters, name, rfl, functionName, unopened⟩
  | unfinished lexical taken =>
      rename_i tokens draft frame frames
      obtain ⟨first, token, second, rfl, opening⟩ := Frame.exists_opening taken
      refine ⟨first.flatMap Token.characters, ?_⟩
      obtain ⟨opener, location, outer⟩ := frame
      cases opener with
      | block =>
          obtain ⟨rfl, rfl⟩ := PlacedToken.mk.inj opening
          exact ⟨second.flatMap Token.characters,
            by simp [Frame.unclosed, Token.characters, SyntaxError.character],
            rfl, trivial⟩
      | call name arguments =>
          obtain ⟨rfl, rfl⟩ := PlacedToken.mk.inj opening
          obtain ⟨_, functionName⟩ :=
            lexical.wellFormed (.openCall name) (by simp)
          refine ⟨name.toList ++ '(' :: second.flatMap Token.characters,
            by simp [Frame.unclosed, Token.characters, SyntaxError.character],
            rfl, ?_⟩
          rw [Frame.unclosed, SyntaxFault.Describes,
            takeWhile_isFunctionCharacter_append functionName]

/-- The offset of a character that stands in the text lies inside the text, and
the text can be cut there. -/
theorem SyntaxError.splitAtBytes_offset {error : SyntaxError}
    {before after : List Char} {shown : String}
    (written : shown.toList = before ++ error.character :: after)
    (placed : error.location.offset = Text.utf8Length before) :
    min error.location.offset shown.utf8ByteSize = error.location.offset ∧
      Text.splitAtBytes error.location.offset shown.toList =
        some (before, error.character :: after) := by
  have size : shown.utf8ByteSize = Text.utf8Length shown.toList := by
    rw [← Text.utf8ByteSize_ofList, String.ofList_toList]
  refine ⟨?_, ?_⟩
  · rw [size, placed, written, Text.utf8Length_append]
    omega
  · rw [placed, written, Text.splitAtBytes_utf8Length]

/-- The error of a reading blames a character of the source, and its place counts the
characters and the bytes that stand before. -/
theorem SyntaxError.exists_blamed {limit : Nat} {source : String} {error : SyntaxError}
    (failed : Template.parse limit source = .error error) :
    ∃ before after, source.toList = before ++ error.character :: after ∧
      error.location.position = before.length ∧
      error.location.offset = Text.utf8Length before ∧
      error.fault.Describes limit before after := by
  obtain ⟨before, after, written, place, describes⟩ :=
    (Template.parse_eq_error_iff.mp failed).exists_blamed
  refine ⟨before, after, written, ?_, ?_, describes⟩
  · rw [place, Location.position_after]
    exact Nat.zero_add _
  · rw [place, Location.offset_after]
    exact Nat.zero_add _

theorem SyntaxError.position_lt {limit : Nat} {source : String} {error : SyntaxError}
    (failed : Template.parse limit source = .error error) :
    error.location.position < source.length := by
  obtain ⟨before, after, written, position, -, -⟩ := exists_blamed failed
  rw [← String.length_toList, written, position, List.length_append, List.length_cons]
  omega

/-- Beside the source that could not be read, the error can always be shown. -/
theorem SyntaxError.exists_diagnostic {limit : Nat} {source : String} {error : SyntaxError}
    (failed : Template.parse limit source = .error error) :
    ∃ diagnostic, error.diagnostic source = .ok diagnostic ∧
      diagnostic.labels = [⟨"here", error.location.offset, error.character.utf8Size⟩] := by
  obtain ⟨before, after, written, -, offset, -⟩ := exists_blamed failed
  obtain ⟨inside, cut⟩ := splitAtBytes_offset written offset
  rw [diagnostic, inside, Text.textFrom, cut]
  exact ⟨_, rfl, rfl⟩

/-- The error of a reading blames a character of the source: its position and
its offset count what stands before that character, and what it says about the
characters around holds. Its diagnostic cuts the source between two characters, and so
there is one, which labels the character to blame. -/
theorem SyntaxError.blames_character {limit : Nat} {source : String}
    {error : SyntaxError} (failed : Template.parse limit source = .error error) :
    error.location.position < source.toList.length ∧
      source.toList[error.location.position]? = some error.character ∧
      error.location.offset =
        ((source.toList.take error.location.position).map Char.utf8Size).sum ∧
      error.fault.Describes limit (source.toList.take error.location.position)
        (source.toList.drop (error.location.position + 1)) ∧
      Text.splitAtBytes (min error.location.offset source.utf8ByteSize)
          source.toList =
        some (source.toList.take error.location.position,
          source.toList.drop error.location.position) ∧
      ∃ diagnostic, error.diagnostic source = .ok diagnostic ∧
        diagnostic.labels =
          [⟨"here", error.location.offset, error.character.utf8Size⟩] := by
  obtain ⟨before, after, written, position, offset, describes⟩ := exists_blamed failed
  obtain ⟨inside, cut⟩ := splitAtBytes_offset written offset
  have taken : source.toList.take before.length = before := by
    rw [written, List.take_left]
  have dropped : source.toList.drop before.length = error.character :: after := by
    rw [written, List.drop_left]
  have behind : source.toList.drop (before.length + 1) = after := by
    rw [← List.drop_drop, dropped, List.drop_one, List.tail_cons]
  have diagnosed := exists_diagnostic failed
  rw [position, taken, dropped, behind, Text.sum_map_utf8Size, inside]
  refine ⟨?_, ?_, offset, describes, cut, diagnosed⟩
  · rw [written, List.length_append, List.length_cons]
    omega
  · rw [written, List.getElem?_append_right (Nat.le_refl _), Nat.sub_self]
    rfl

theorem SyntaxError.blames_character_inside_call :
    Template.parse 3 "é[$f($aü(x" =
        .error ⟨.invalidFunctionName 'ü', ⟨7, 8⟩⟩ ∧
      "é[$f($aü(x".toList[7]? = some 'ü' ∧
      SyntaxFault.Describes 3 "é[$f($a".toList "(x".toList
        (.invalidFunctionName 'ü') ∧
      ∃ diagnostic,
        SyntaxError.diagnostic ⟨.invalidFunctionName 'ü', ⟨7, 8⟩⟩ "é[$f($aü(x" =
          .ok diagnostic ∧
        diagnostic.labels = [⟨"here", 8, 2⟩] := by
  have failed :
      Template.parse 3 "é[$f($aü(x" =
        .error ⟨.invalidFunctionName 'ü', ⟨7, 8⟩⟩ :=
    rfl
  obtain ⟨_, character, _, describes, _, labels⟩ := blames_character failed
  exact ⟨failed, character, describes, labels⟩

end TitleFormatting
