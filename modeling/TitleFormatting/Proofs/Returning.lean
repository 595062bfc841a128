import Mathlib.Algebra.Order.Ring.Int
import TitleFormatting.Functions.Call
import TitleFormatting.Proofs.Text.Checksum
import TitleFormatting.Proofs.Text.Path
import TitleFormatting.Proofs.Text.Search

/-!
# Computations that return

Texts are cut at bytes, lists are read at an index and numbers are computed within
a width, and each of these may have no result.  The operations on texts and
numbers that the functions are made of do none of it in vain, whatever texts and
numbers they are given.
-/

namespace TitleFormatting

/-- The computation comes to a result. -/
def Returns {α : Type} (action : Except Fault α) : Prop := ∃ result, action = .ok result

section Returning

variable {α β : Type}

theorem Returns.ok (result : α) : Returns (.ok result) :=
  ⟨result, rfl⟩

theorem Returns.bind_of_eq {action : Except Fault α} {next : α → Except Fault β}
    {result : α} (acted : action = .ok result) (later : Returns (next result)) :
    Returns (action >>= next) := by
  rw [acted]
  exact later

theorem Returns.bind {action : Except Fault α} {next : α → Except Fault β}
    (first : Returns action) (later : ∀ result, Returns (next result)) :
    Returns (action >>= next) := by
  obtain ⟨result, acted⟩ := first
  exact bind_of_eq acted (later result)

theorem Returns.map {action : Except Fault α} (f : α → β) (first : Returns action) :
    Returns (action.map f) := by
  obtain ⟨result, rfl⟩ := first
  exact .ok (f result)

theorem returns_mapM {step : α → Except Fault β} (items : List α)
    (each : ∀ item, Returns (step item)) : Returns (items.mapM step) := by
  induction items with
  | nil =>
      exact .ok []
  | cons item rest inductionHypothesis =>
      rw [List.mapM_cons]
      exact (each item).bind fun first =>
        inductionHypothesis.bind fun others => .ok (first :: others)

end Returning

/-! ## Numbers -/

theorem natCast_countOfBits (bits : Nat) : (countOfBits bits : Int) = 2 ^ bits := by
  rw [countOfBits, Nat.one_shiftLeft, Nat.cast_pow, Nat.cast_ofNat]

theorem signed_eq {bits : Nat} {value : Int} (least : -2 ^ (bits - 1) ≤ value)
    (greatest : value < 2 ^ (bits - 1)) : signed bits value = .ok value := by
  rw [← natCast_countOfBits] at least greatest
  exact if_pos ⟨least, greatest⟩

theorem unsigned_eq {bits : Nat} {value : Int} (least : 0 ≤ value)
    (greatest : value < 2 ^ bits) : unsigned bits value = .ok value.toNat := by
  rw [← natCast_countOfBits] at greatest
  exact if_pos ⟨least, greatest⟩

namespace Number

theorem returns_writeSymbol (value : Nat) (symbol : List Char) (number : Nat) :
    Returns (writeSymbol value symbol number) := by
  induction number using Nat.strong_induction_on with
  | _ number inductionHypothesis =>
      rw [writeSymbol]
      split
      · next fits =>
          rw [difference_eq fits.2]
          exact (inductionHypothesis _ (Nat.sub_lt_of_pos_le fits.1 fits.2)).bind
            fun _ => .ok _
      · exact .ok _

theorem returns_romanWith (symbols : List (Nat × List Char)) (number : Nat) :
    Returns (romanWith symbols number) := by
  induction symbols generalizing number with
  | nil =>
      exact .ok []
  | cons symbol symbols inductionHypothesis =>
      exact (returns_writeSymbol symbol.1 symbol.2 number).bind fun written =>
        (inductionHypothesis written.2).bind fun _ => .ok _

theorem returns_roman? (n : Int) : Returns (roman? n) := by
  rw [roman?]
  split
  · exact (returns_romanWith romanSymbols n.toNat).bind fun _ => .ok _
  · exact .ok none

/-- A number that is small enough without its sign has the width. -/
theorem signed_eq_of_natAbs {bits : Nat} {value : Int}
    (small : value.natAbs < 2 ^ (bits - 1)) : signed bits value = .ok value := by
  have bound : (value.natAbs : Int) < 2 ^ (bits - 1) := by
    exact_mod_cast small
  exact signed_eq (by omega) (by omega)

/-- A product of 64-bit numbers leaves room for all that is computed from it. -/
theorem returns_roundedQuotient {dividend divisor : Int}
    (dividendSmall : dividend.natAbs ≤ 2 ^ 126) (divisorSmall : divisor.natAbs ≤ 2 ^ 63)
    (nonzero : divisor ≠ 0) :
    Returns (roundedQuotient dividend divisor) := by
  have quotient : (dividend.tdiv divisor).natAbs ≤ dividend.natAbs := by
    rw [Int.natAbs_tdiv]
    exact Nat.div_le_self _ _
  have product : (dividend.tdiv divisor * divisor).natAbs ≤ dividend.natAbs := by
    rw [Int.natAbs_mul, Int.natAbs_tdiv]
    exact Nat.div_mul_le_self _ _
  have remainder : (dividend - dividend.tdiv divisor * divisor).natAbs <
      divisor.natAbs := by
    have equality := Int.mul_tdiv_add_tmod dividend divisor
    rw [mul_comm] at equality
    rw [← eq_sub_of_add_eq' equality, Int.natAbs_tmod]
    exact Nat.mod_lt _ (Int.natAbs_pos.mpr nonzero)
  have sign : (dividend.sign * divisor.sign).natAbs ≤ 1 := by
    rw [Int.natAbs_mul, Int.natAbs_sign, Int.natAbs_sign, if_neg nonzero, mul_one]
    split <;> decide
  rw [roundedQuotient]
  refine .bind_of_eq (signed_eq_of_natAbs (by omega)) ?_
  refine .bind_of_eq (signed_eq_of_natAbs (by omega)) ?_
  refine .bind_of_eq (signed_eq_of_natAbs (by omega)) ?_
  refine .bind_of_eq (signed_eq_of_natAbs (by omega)) ?_
  refine .bind_of_eq (signed_eq_of_natAbs (by omega)) ?_
  split
  · exact ⟨_, signed_eq_of_natAbs (by omega)⟩
  · exact .ok _

theorem natAbs_toInt_le (n : Int64) : n.toInt.natAbs ≤ 2 ^ 63 := by
  have least := n.le_toInt
  have greatest := n.toInt_lt
  omega

theorem returns_scaled (a b c : Int64) : Returns (scaled a b c) := by
  have small : (a.toInt * b.toInt).natAbs ≤ 2 ^ 126 := by
    rw [Int.natAbs_mul]
    exact (Nat.mul_le_mul (natAbs_toInt_le a) (natAbs_toInt_le b)).trans (by decide)
  rw [scaled]
  refine .bind_of_eq (signed_eq_of_natAbs (by omega)) ?_
  split
  · exact .ok _
  · next nonzero =>
      have divisor : c.toInt ≠ 0 := fun zero => nonzero (Int64.toInt_inj.mp zero)
      exact (returns_roundedQuotient small (natAbs_toInt_le c) divisor).bind
        fun _ => .ok _

end Number

/-! ## Texts -/

namespace Text

theorem returns_firstLine (mark text : List Char) : Returns (firstLine mark text) := by
  rw [firstLine]
  cases found : firstOffset? isLineBreak text with
  | none =>
      exact .ok text
  | some offset =>
      obtain ⟨line, c, after, rfl, rfl, -⟩ := exists_of_firstOffset?_eq_some found
      exact .bind_of_eq (textBefore_utf8Length _ _) (.ok _)

/-- The letters that are moved forward and back keep to eight bits. -/
theorem returns_rotateLetter (c : Char) : Returns (rotateLetter c) := by
  rw [rotateLetter]
  split
  · next first =>
      have bound : c.toNat + 13 < 2 ^ 8 := by
        simp only [Bool.or_eq_true, Bool.and_eq_true, decide_eq_true_eq, Char.le_def,
          UInt32.le_iff_toNat_le] at first
        have small : c.toNat ≤ 109 := by
          rcases first with ⟨-, small⟩ | ⟨-, small⟩
          · exact small
          · exact small.trans (by decide)
        omega
      exact .bind_of_eq (unsigned_eq (by omega) (by omega)) (.ok _)
  · split
    · next second =>
        have bounds : 65 ≤ c.toNat ∧ c.toNat ≤ 122 := by
          simp only [Bool.or_eq_true, Bool.and_eq_true, decide_eq_true_eq, Char.le_def,
            UInt32.le_iff_toNat_le] at second
          rcases second with ⟨least, greatest⟩ | ⟨least, greatest⟩
          · exact ⟨le_trans (by decide) least, greatest⟩
          · exact ⟨le_trans (by decide) least, greatest.trans (by decide)⟩
        exact .bind_of_eq (unsigned_eq (by omega) (by omega)) (.ok _)
    · exact .ok c

theorem returns_splitArticle (text article : List Char) :
    Returns (splitArticle text article) := by
  rw [splitArticle]
  cases cut : splitAtBytes (utf8Length article) text with
  | none =>
      exact .ok none
  | some parts =>
      have rest : textFrom (utf8Length article) text = .ok parts.2 := by
        rw [textFrom, cut]
      refine .bind_of_eq rest ?_
      split
      · split
        · exact .ok _
        · exact .ok none
      · exact .ok none

theorem returns_splitLeadingArticle (text : List Char) (articles : List (List Char)) :
    Returns (splitLeadingArticle text articles) := by
  induction articles with
  | nil =>
      exact .ok none
  | cons article articles inductionHypothesis =>
      refine (returns_splitArticle text article).bind fun found => ?_
      cases found with
      | some parts =>
          exact .ok _
      | none =>
          exact inductionHypothesis

theorem returns_stripArticle (articles : List (List Char)) (text : List Char) :
    Returns (stripArticle articles text) := by
  refine (returns_splitLeadingArticle text articles).bind fun found => ?_
  cases found <;> exact .ok _

theorem returns_swapArticle (articles : List (List Char)) (text : List Char) :
    Returns (swapArticle articles text) := by
  refine (returns_splitLeadingArticle text articles).bind fun found => ?_
  cases found <;> exact .ok _

namespace Path

theorem returns_directory (levels : Nat) (path : List Char) :
    Returns (directory levels path) := by
  cases levels with
  | zero =>
      exact ⟨_, directory_zero path⟩
  | succ levels =>
      exact ⟨_, directory_eq (Nat.le_add_left 1 levels) path⟩

theorem returns_parent (path : List Char) : Returns (parent path) := by
  obtain ⟨upper, -, -, cut⟩ := exists_isSplit path
  exact ⟨upper, cut⟩

theorem returns_stem (path : List Char) : Returns (stem path) := by
  obtain ⟨name, -, -, stemmed, -⟩ := exists_isNamed path
  exact ⟨name, stemmed⟩

theorem returns_extension (path : List Char) : Returns (extension path) := by
  obtain ⟨-, suffix, -, -, extended⟩ := exists_isNamed path
  exact ⟨suffix, extended⟩

end Path

theorem Checksum.returns_crc32 (bytes : List UInt8) : Returns (Checksum.crc32 bytes) :=
  ⟨_, Checksum.crc32_eq bytes⟩

end Text

end TitleFormatting
