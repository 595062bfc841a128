import TitleFormatting.Text.Utf8

/-!
# Offsets of texts

An offset counts the bytes before a place.  Whatever is searched for in a text,
the offset at which it is found counts the bytes of whole characters, so that
the text can be cut there.
-/

namespace TitleFormatting.Text

/-! ## Counting bytes -/

theorem utf8Length_cons (c : Char) (text : List Char) :
    utf8Length (c :: text) = c.utf8Size + utf8Length text :=
  rfl

theorem utf8Length_append (first second : List Char) :
    utf8Length (first ++ second) = utf8Length first + utf8Length second := by
  induction first with
  | nil =>
      exact (Nat.zero_add _).symm
  | cons c rest inductionHypothesis =>
      rw [List.cons_append, utf8Length_cons, inductionHypothesis,
        utf8Length_cons, Nat.add_assoc]

theorem utf8ByteSize_ofList (text : List Char) :
    (String.ofList text).utf8ByteSize = utf8Length text := by
  induction text with
  | nil =>
      rfl
  | cons c rest inductionHypothesis =>
      have split :
          String.ofList (c :: rest) = String.singleton c ++ String.ofList rest := by
        rw [String.singleton_eq_ofList, ← String.ofList_append]
        rfl
      rw [split, String.utf8ByteSize_append, String.utf8ByteSize_singleton,
        inductionHypothesis, utf8Length_cons]

/-! ## Cutting -/

/-- A text can be cut behind the bytes of its first characters. -/
theorem splitAtBytes_utf8Length (before after : List Char) :
    splitAtBytes (utf8Length before) (before ++ after) = some (before, after) := by
  induction before with
  | nil =>
      cases after <;> rfl
  | cons c rest inductionHypothesis =>
      have positive := c.utf8Size_pos
      rw [List.cons_append, splitAtBytes, utf8Length_cons,
        if_neg (by omega), if_pos (by omega), Nat.add_sub_cancel_left,
        inductionHypothesis]
      rfl

/-- Wherever a text can be cut, some of its first characters have this many bytes. -/
theorem eq_of_splitAtBytes_eq_some {bytes : Nat} {text before after : List Char}
    (cut : splitAtBytes bytes text = some (before, after)) :
    text = before ++ after ∧ bytes = utf8Length before := by
  induction text generalizing bytes before with
  | nil =>
      rw [splitAtBytes] at cut
      by_cases nothing : bytes = 0
      · rw [if_pos nothing] at cut
        cases cut
        exact ⟨rfl, nothing⟩
      · rw [if_neg nothing] at cut
        contradiction
  | cons c rest inductionHypothesis =>
      rw [splitAtBytes] at cut
      by_cases nothing : bytes = 0
      · rw [if_pos nothing] at cut
        cases cut
        exact ⟨rfl, nothing⟩
      by_cases fits : c.utf8Size ≤ bytes
      · rw [if_neg nothing, if_pos fits, Option.map_eq_some_iff] at cut
        obtain ⟨⟨first, others⟩, cut, equality⟩ := cut
        obtain ⟨rfl, rfl⟩ := Prod.mk.inj equality
        obtain ⟨rfl, counted⟩ := inductionHypothesis cut
        refine ⟨rfl, ?_⟩
        rw [utf8Length_cons, ← counted, Nat.add_sub_cancel' fits]
      · rw [if_neg nothing, if_neg fits] at cut
        contradiction

theorem textBefore_utf8Length (before after : List Char) :
    textBefore (utf8Length before) (before ++ after) = .ok before := by
  rw [textBefore, splitAtBytes_utf8Length]

theorem textFrom_utf8Length (before after : List Char) :
    textFrom (utf8Length before) (before ++ after) = .ok after := by
  rw [textFrom, splitAtBytes_utf8Length]

/-! ## Searching -/

/-- An index is the offset of its character or, beyond the text, that of the
end. -/
theorem getD_offsetOfIndex? (index : Nat) (text : List Char) :
    (offsetOfIndex? index text).getD (utf8Length text) =
      utf8Length (text.take index) := by
  induction text generalizing index with
  | nil =>
      cases index <;> rfl
  | cons c rest inductionHypothesis =>
      cases index with
      | zero =>
          rfl
      | succ index =>
          have later := inductionHypothesis index
          rw [offsetOfIndex?, List.take_succ_cons, utf8Length_cons, utf8Length_cons]
          cases found : offsetOfIndex? index rest with
          | none =>
              rw [found, Option.getD_none] at later
              rw [Option.map_none, Option.getD_none, later]
          | some offset =>
              rw [found, Option.getD_some] at later
              rw [Option.map_some, Option.getD_some, later, Nat.add_comm]

/-- The first character of a kind stands behind characters of the other kind. -/
theorem exists_of_firstOffset?_eq_some {p : Char → Bool} {text : List Char}
    {offset : Nat} (found : firstOffset? p text = some offset) :
    ∃ before c after, text = before ++ c :: after ∧ offset = utf8Length before ∧
      p c = true ∧ ∀ d ∈ before, p d = false := by
  induction text generalizing offset with
  | nil =>
      contradiction
  | cons c rest inductionHypothesis =>
      rw [firstOffset?] at found
      by_cases here : p c
      · rw [if_pos here] at found
        obtain rfl := Option.some.inj found
        exact ⟨[], c, rest, rfl, rfl, here, List.forall_mem_nil _⟩
      · rw [if_neg here, Option.map_eq_some_iff] at found
        obtain ⟨later, found, rfl⟩ := found
        obtain ⟨before, d, after, written, rfl, kind, others⟩ :=
          inductionHypothesis found
        refine ⟨c :: before, d, after, by rw [written]; rfl, ?_, kind, ?_⟩
        · rw [utf8Length_cons, Nat.add_comm]
        · exact List.forall_mem_cons.mpr ⟨by simpa using here, others⟩

theorem lastOffset?_eq_none {p : Char → Bool} {text : List Char}
    (missing : lastOffset? p text = none) : ∀ d ∈ text, p d = false := by
  induction text with
  | nil =>
      exact List.forall_mem_nil _
  | cons c rest inductionHypothesis =>
      rw [lastOffset?] at missing
      cases found : lastOffset? p rest with
      | some offset =>
          rw [found] at missing
          contradiction
      | none =>
          rw [found] at missing
          by_cases here : p c
          · rw [if_pos here] at missing
            contradiction
          · exact List.forall_mem_cons.mpr
              ⟨by simpa using here, inductionHypothesis found⟩

/-- The last character of a kind stands before characters of the other kind. -/
theorem exists_of_lastOffset?_eq_some {p : Char → Bool} {text : List Char}
    {offset : Nat} (found : lastOffset? p text = some offset) :
    ∃ before c after, text = before ++ c :: after ∧ offset = utf8Length before ∧
      p c = true ∧ ∀ d ∈ after, p d = false := by
  induction text generalizing offset with
  | nil =>
      contradiction
  | cons c rest inductionHypothesis =>
      rw [lastOffset?] at found
      cases later : lastOffset? p rest with
      | some behind =>
          rw [later] at found
          obtain rfl := Option.some.inj found
          obtain ⟨before, d, after, written, rfl, kind, others⟩ :=
            inductionHypothesis later
          refine ⟨c :: before, d, after, by rw [written]; rfl, ?_, kind, others⟩
          rw [utf8Length_cons, Nat.add_comm]
      | none =>
          rw [later] at found
          by_cases here : p c
          · rw [if_pos here] at found
            obtain rfl := Option.some.inj found
            exact ⟨[], c, rest, rfl, rfl, here, lastOffset?_eq_none later⟩
          · rw [if_neg here] at found
            contradiction

end TitleFormatting.Text
