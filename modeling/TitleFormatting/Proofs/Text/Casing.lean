import TitleFormatting.Proofs.Text.Offsets
import TitleFormatting.Text.Casing

/-!
# Texts in small letters

No character vanishes in small letters, so no text has the small letters of its own
beginning.  Texts with the same small letters mostly take the same number of bytes.  They
need not, since a few letters have a variant of another size: the capital `ẞ` takes three
bytes and `ß` two, and the Kelvin sign takes three bytes and `k` one.
-/

namespace TitleFormatting.Text

namespace Casing

/-! ## Single characters -/

theorem lowerChar_of_lt {c : Char} (ascii : c.toNat < 128) : lowerChar c = [c.toLower] :=
  if_pos ascii

/-- What becomes of a character beyond ASCII is listed in a table, or the character stays. -/
theorem lowerChar_cases {c : Char} (beyond : 128 ≤ c.toNat) :
    (∃ entry ∈ lowerExpansions, lowerChar c = entry.2.map Char.ofNat) ∨
      (∃ run ∈ lowerRuns, run.covers c.toNat = true ∧
        lowerChar c = [Char.ofNat (c.toNat + run.shift).toNat]) ∨
      lowerChar c = [c] := by
  rw [lowerChar, if_neg (Nat.not_lt.mpr beyond), image]
  cases expands : lowerExpansions.lookup c.toNat with
  | some codes =>
      obtain ⟨before, after, listed, -⟩ := List.lookup_eq_some_iff.mp expands
      refine Or.inl ⟨(c.toNat, codes), ?_, rfl⟩
      rw [listed]
      exact List.mem_append_right _ List.mem_cons_self
  | none =>
      cases found : lowerRuns.find? (·.covers c.toNat) with
      | some run =>
          have covers := List.find?_some found
          exact Or.inr (Or.inl ⟨run, List.mem_of_find?_eq_some found, covers, rfl⟩)
      | none =>
          exact Or.inr (Or.inr rfl)

theorem lowerChar_ne_nil (c : Char) : lowerChar c ≠ [] := by
  have expansions : ∀ entry ∈ lowerExpansions, entry.2 ≠ [] := by
    decide
  by_cases ascii : c.toNat < 128
  · rw [lowerChar_of_lt ascii]
    exact List.cons_ne_nil _ _
  · rcases lowerChar_cases (Nat.not_lt.mp ascii) with
      ⟨entry, member, lowered⟩ | ⟨run, -, -, lowered⟩ | lowered
    · rw [lowered, ne_eq, List.map_eq_nil_iff]
      exact expansions entry member
    · rw [lowered]
      exact List.cons_ne_nil _ _
    · rw [lowered]
      exact List.cons_ne_nil _ _

/-- An ASCII character other than the letter that the Kelvin sign is a variant of. -/
def IsPlain (c : Char) : Prop := c.toNat < 128 ∧ c ≠ 'k' ∧ c ≠ 'K'

instance (c : Char) : Decidable (IsPlain c) := inferInstanceAs (Decidable (_ ∧ _))

theorem IsPlain.toLower {c : Char} (plain : IsPlain c) : IsPlain c.toLower := by
  have each : ∀ code < 128, IsPlain (Char.ofNat code) → IsPlain (Char.ofNat code).toLower := by
    decide
  have lowered := each c.toNat plain.1
  rw [Char.ofNat_toNat] at lowered
  exact lowered plain

/-- The runs lead beyond ASCII, but for the one of the Kelvin sign. -/
theorem le_toNat_of_covers {run : Run} {code : Nat} (member : run ∈ lowerRuns)
    (covers : run.covers code = true) :
    128 ≤ (Char.ofNat (code + run.shift).toNat).toNat ∨
      Char.ofNat (code + run.shift).toNat = 'k' := by
  have runs : ∀ run ∈ lowerRuns,
      128 ≤ run.first + run.shift ∧
          (run.last + run.shift < 0xD800 ∨
            0xDFFF < run.first + run.shift ∧ run.last + run.shift < 0x110000) ∨
        run.first = run.last ∧ run.first + run.shift = 0x6B := by
    decide +kernel
  rw [Run.covers, Bool.and_eq_true, Bool.and_eq_true, decide_eq_true_eq,
    decide_eq_true_eq] at covers
  rcases runs run member with ⟨beyond, valid⟩ | ⟨single, kelvin⟩
  · have character : (code + run.shift).toNat.isValidChar := by
      rcases valid with low | high
      · exact Or.inl (by omega)
      · exact Or.inr ⟨by omega, by omega⟩
    have value : (Char.ofNat (code + run.shift).toNat).toNat = (code + run.shift).toNat := by
      rw [Char.ofNat, dif_pos character]
      rfl
    exact Or.inl (by omega)
  · have letter : (code + run.shift).toNat = 0x6B := by
      omega
    rw [letter]
    exact Or.inr rfl

/-- Only ASCII characters have plain small letters. -/
theorem toNat_lt_of_lowerChar {c : Char} (plain : ∀ d ∈ lowerChar c, IsPlain d) :
    c.toNat < 128 := by
  have expansions : ∀ entry ∈ lowerExpansions,
      (entry.2.map Char.ofNat).all (fun d => decide (IsPlain d)) = false := by
    decide
  rcases Nat.lt_or_ge c.toNat 128 with ascii | beyond
  · exact ascii
  rcases lowerChar_cases beyond with
    ⟨entry, member, lowered⟩ | ⟨run, member, covers, lowered⟩ | lowered
  · have improper := expansions entry member
    rw [← lowered, List.all_eq_false] at improper
    obtain ⟨d, listed, improper⟩ := improper
    exact absurd (decide_eq_true (plain d listed)) improper
  · rw [lowered, List.forall_mem_singleton] at plain
    rcases le_toNat_of_covers member covers with outside | kelvin
    · exact absurd plain.1 (Nat.not_lt.mpr outside)
    · exact absurd kelvin plain.2.1
  · rw [lowered, List.forall_mem_singleton] at plain
    exact plain.1

/-! ## Characters in their text -/

/-- Both small forms of `Σ` are as long as the one out of context. -/
theorem length_lowerAfter (before text : List Char) :
    (lowerAfter before text).length = (text.flatMap lowerChar).length := by
  induction text generalizing before with
  | nil =>
      rfl
  | cons c rest inductionHypothesis =>
      rw [lowerAfter, List.flatMap_cons, List.length_append, List.length_append,
        inductionHypothesis]
      congr 1
      by_cases sigma : c = 'Σ'
      · rw [if_pos sigma, sigma]
        split <;> rfl
      · rw [if_neg sigma]

theorem toNat_lt_of_lowerAfter {before text : List Char}
    (plain : ∀ d ∈ lowerAfter before text, IsPlain d) : ∀ c ∈ text, c.toNat < 128 := by
  induction text generalizing before with
  | nil =>
      exact List.forall_mem_nil _
  | cons c rest inductionHypothesis =>
      rw [lowerAfter, List.forall_mem_append] at plain
      refine List.forall_mem_cons.mpr ⟨?_, inductionHypothesis plain.2⟩
      have first := plain.1
      -- Neither small form of `Σ` is plain, so that it does not matter where it stands.
      by_cases sigma : c = 'Σ'
      · have beyond : ¬ IsPlain 'ς' ∧ ¬ IsPlain 'σ' := by
          decide
        rw [if_pos sigma] at first
        split at first
        · exact absurd (first 'ς' List.mem_cons_self) beyond.1
        · exact absurd (first 'σ' List.mem_cons_self) beyond.2
      · rw [if_neg sigma] at first
        exact toNat_lt_of_lowerChar first

theorem lowerAfter_of_ascii {text : List Char} (ascii : ∀ c ∈ text, c.toNat < 128)
    (before : List Char) : lowerAfter before text = text.map Char.toLower := by
  induction text generalizing before with
  | nil =>
      rfl
  | cons c rest inductionHypothesis =>
      obtain ⟨small, others⟩ := List.forall_mem_cons.mp ascii
      have other : c ≠ 'Σ' := by
        rintro rfl
        contradiction
      rw [lowerAfter, if_neg other, lowerChar_of_lt small, inductionHypothesis others]
      rfl

/-- The small letters of the character take as many bytes as the character. -/
def KeepsSize (c : Char) : Prop := utf8Length (lowerChar c) = c.utf8Size

instance (c : Char) : Decidable (KeepsSize c) := inferInstanceAs (Decidable (_ = _))

theorem utf8Length_lowerAfter {text : List Char} (keeping : ∀ c ∈ text, KeepsSize c)
    (before : List Char) : utf8Length (lowerAfter before text) = utf8Length text := by
  induction text generalizing before with
  | nil =>
      rfl
  | cons c rest inductionHypothesis =>
      obtain ⟨kept, others⟩ := List.forall_mem_cons.mp keeping
      rw [lowerAfter, utf8Length_append, inductionHypothesis others, utf8Length_cons]
      congr 1
      by_cases sigma : c = 'Σ'
      · rw [if_pos sigma, sigma]
        split <;> rfl
      · rw [if_neg sigma]
        exact kept

end Casing

/-! ## Texts with the same small letters -/

theorem eq_nil_of_lower_append {text more : List Char}
    (same : lower (text ++ more) = lower text) : more = [] := by
  have lengths := congrArg List.length same
  rw [lower, lower, Casing.length_lowerAfter, Casing.length_lowerAfter, List.flatMap_append,
    List.length_append] at lengths
  cases more with
  | nil =>
      rfl
  | cons c rest =>
      have some := List.length_pos_iff.mpr (Casing.lowerChar_ne_nil c)
      rw [List.flatMap_cons, List.length_append] at lengths
      omega

/-- Of the beginnings of a text at most one has given small letters. -/
theorem eq_of_prefix_of_lower_eq {first second text : List Char} (begins : first <+: text)
    (another : second <+: text) (same : lower first = lower second) : first = second := by
  rcases List.prefix_or_prefix_of_prefix begins another with ⟨more, rfl⟩ | ⟨more, rfl⟩
  · rw [eq_nil_of_lower_append same.symm, List.append_nil]
  · rw [eq_nil_of_lower_append same, List.append_nil]

theorem utf8Length_of_ascii {text : List Char} (ascii : ∀ c ∈ text, c.toNat < 128) :
    utf8Length text = text.length := by
  induction text with
  | nil =>
      rfl
  | cons c rest inductionHypothesis =>
      obtain ⟨small, others⟩ := List.forall_mem_cons.mp ascii
      have single : c.utf8Size = 1 := by
        apply Char.utf8Size_eq_one_iff.mpr
        exact Nat.le_of_lt_succ small
      rw [utf8Length_cons, single, inductionHypothesis others, List.length_cons, Nat.add_comm]

/-- Every variant of a plain text is as large as the text. -/
theorem utf8Length_eq_of_plain {text variant : List Char}
    (plain : ∀ c ∈ text, Casing.IsPlain c) (same : lower variant = lower text) :
    utf8Length variant = utf8Length text := by
  have ascii : ∀ c ∈ text, c.toNat < 128 := fun c member => (plain c member).1
  have lowered : lower text = text.map Char.toLower := Casing.lowerAfter_of_ascii ascii []
  have variantAscii : ∀ c ∈ variant, c.toNat < 128 := by
    apply Casing.toNat_lt_of_lowerAfter
    rw [← lower, same, lowered]
    exact List.forall_mem_map.mpr fun c member => (plain c member).toLower
  have lengths := congrArg List.length same
  rw [lowered, lower, Casing.lowerAfter_of_ascii variantAscii, List.length_map,
    List.length_map] at lengths
  rw [utf8Length_of_ascii variantAscii, utf8Length_of_ascii ascii, lengths]

theorem utf8Length_eq_of_keepsSize {first second : List Char}
    (keeping : ∀ c ∈ first, Casing.KeepsSize c) (others : ∀ c ∈ second, Casing.KeepsSize c)
    (same : lower first = lower second) : utf8Length first = utf8Length second := by
  rw [← Casing.utf8Length_lowerAfter keeping [], ← Casing.utf8Length_lowerAfter others []]
  exact congrArg utf8Length same

example : Casing.KeepsSize 'Ä' ∧ ¬ Casing.KeepsSize 'ẞ' ∧ ¬ Casing.KeepsSize '\u212A' := by
  decide

end TitleFormatting.Text
