import TitleFormatting.Proofs.Number.Reading

/-!
# Numbers of any size, held in 64 bits

A number is written in digits behind a minus sign or none.  What is read from it is the
nearest number between the largest one and its negative, except that the least number of 64
bits, which lies one below, is read as it is.  Reading keeps the order of all numbers but
those below the least one, which are held above it.
-/

namespace TitleFormatting.Number

open Text

/-- The text writes the number in digits, behind a minus sign or none, and with any number
of zeros in front. -/
inductive Writes : List Char → Int → Prop
  | unsigned {digits : List Char} (nonempty : digits ≠ [])
      (allDigits : ∀ c ∈ digits, c.isDigit = true) : Writes digits (digitsValue digits)
  | negated {digits : List Char} (nonempty : digits ≠ [])
      (allDigits : ∀ c ∈ digits, c.isDigit = true) :
      Writes ('-' :: digits) (-(digitsValue digits : Int))

/-- The least number of 64 bits. -/
def least : Int := -(largest + 1 : Int)

/-- What is read where a number is written. -/
def held (n : Int) : Int :=
  if n = least then least else max (-(largest : Int)) (min n largest)

theorem writes_decimal (n : Int) : Writes (decimal n) n := by
  have value : digitsValue (Nat.toDigits 10 n.natAbs) = n.natAbs := by
    rw [← denoted_of_digits isDigit_of_mem_numeral, denoted_numeral]
  rw [decimal_eq, behindSign]
  split_ifs with negative
  · have negated := Writes.negated (Nat.toDigits_ne_nil (n := n.natAbs) (b := 10))
      isDigit_of_mem_numeral
    rwa [value, Int.ofNat_natAbs_of_nonpos (Int.le_of_lt negative), Int.neg_neg] at negated
  · have unsigned := Writes.unsigned (Nat.toDigits_ne_nil (n := n.natAbs) (b := 10))
      isDigit_of_mem_numeral
    rwa [value, Int.natAbs_of_nonneg (Int.not_lt.mp negative)] at unsigned

namespace Writes

variable {text : List Char} {n : Int}

theorem trim_eq (writes : Writes text n) : trim text = text := by
  apply trim_eq_self
  cases writes with
  | unsigned nonempty allDigits =>
      intro c member
      exact isBlank_of_isDigit (allDigits c member)
  | negated nonempty allDigits =>
      rw [List.forall_mem_cons]
      refine ⟨by decide, ?_⟩
      intro c member
      exact isBlank_of_isDigit (allDigits c member)

/-- A number is read as what it is held at. -/
theorem toInt_ofText (writes : Writes text n) : (ofText text).toInt = held n := by
  rw [Number.toInt_ofText, writes.trim_eq, scanned_eq, held, least]
  cases writes with
  | unsigned nonempty allDigits =>
      have noMinus : text.head? ≠ some '-' := by
        intro first
        have digit := allDigits '-' (List.mem_of_mem_head? first)
        contradiction
      have notLeast : ¬ SpellsLeast text := fun spells => noMinus spells.1
      rw [if_neg notLeast, if_neg noMinus, denoted_of_digits allDigits]
      split_ifs <;> omega
  | @negated digits nonempty allDigits =>
      have spellsLeast : SpellsLeast ('-' :: digits) ↔ digitsValue digits = largest + 1 := by
        rw [SpellsLeast, denoted_minus, denoted_of_digits allDigits]
        simpa using fun _ => allDigits
      rw [if_pos List.head?_cons, denoted_minus, denoted_of_digits allDigits]
      simp only [spellsLeast]
      split_ifs <;> omega

end Writes

/-- The second number is the least one, and the first is less still. -/
def IsBelowLeast (m n : Int) : Prop := m < n ∧ n = least

instance (m n : Int) : Decidable (IsBelowLeast m n) := inferInstanceAs (Decidable (_ ∧ _))

theorem held_le_held_iff {m n : Int} (ordered : m ≤ n) :
    held m ≤ held n ↔ ¬ IsBelowLeast m n := by
  simp only [held, IsBelowLeast, least]
  split_ifs <;> omega

theorem held_lt_held_iff {m n : Int} (ordered : m ≤ n) :
    held n < held m ↔ IsBelowLeast m n := by
  rw [← Int.not_le, held_le_held_iff ordered, not_not]

theorem held_of_lt_least {n : Int} (below : n < least) : held n = -(largest : Int) := by
  simp only [held, least] at below ⊢
  split_ifs <;> omega

theorem held_le_of_le_least {n : Int} (below : n ≤ least) : held n ≤ -(largest : Int) := by
  simp only [held, least] at below ⊢
  split_ifs <;> omega

theorem least_le_held (n : Int) : least ≤ held n := by
  simp only [held, least]
  split_ifs <;> omega

end TitleFormatting.Number
