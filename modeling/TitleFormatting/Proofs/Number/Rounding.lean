import Mathlib.Algebra.Order.Field.Basic
import Mathlib.Algebra.Order.Field.Rat
import Mathlib.Tactic.Linarith
import TitleFormatting.Proofs.Functions.Division
import TitleFormatting.Proofs.Functions.Calls
import TitleFormatting.Proofs.Returning

/-!
# Rounded quotients

A product of two numbers is divided by a third one and rounded to the nearest integer,
halves toward zero.  The truncated quotient is next to the nearest integer: the size of
its remainder says which of the two is meant, and the signs say on which side it lies.
-/

namespace TitleFormatting

namespace Number

/-! ## Nearest integers -/

/-- The integer is nearest to the value, and of two that are equally near it has the
smaller absolute value. -/
structure IsNearest (value : ℚ) (n : ℤ) : Prop where
  nearest : ∀ other : ℤ, |value - n| ≤ |value - other|
  towardZero : ∀ other : ℤ, |value - other| = |value - n| → |n| ≤ |other|

theorem IsNearest.unique {value : ℚ} {n other : ℤ} (nearest : IsNearest value n)
    (otherNearest : IsNearest value other) : n = other := by
  have alike : |value - other| = |value - n| :=
    le_antisymm (otherNearest.nearest n) (nearest.nearest other)
  have sizes : |n| = |other| :=
    le_antisymm (nearest.towardZero other alike) (otherNearest.towardZero n alike.symm)
  rcases abs_eq_abs.mp sizes with same | opposite
  · exact same
  rcases abs_eq_abs.mp alike with same | mirrored
  · have equality : (n : ℚ) = other := by
      linarith
    exact_mod_cast equality
  · -- The value is in the middle of two opposite integers, and zero is nearer to it.
    have middle : value = 0 := by
      rw [opposite, Int.cast_neg] at mirrored
      linarith
    have zero := nearest.nearest 0
    rw [middle, Int.cast_zero, sub_zero, abs_zero, zero_sub, abs_neg, abs_nonpos_iff,
      Int.cast_eq_zero] at zero
    omega

/-- An integer at most one half away is nearest; at one half exactly, its absolute value
decides. -/
theorem isNearest_of_abs_sub_le {value : ℚ} {n : ℤ} (half : |value - n| ≤ 1 / 2)
    (inside : |value - n| = 1 / 2 → |(n : ℚ)| ≤ |value|) : IsNearest value n := by
  have apart {other : ℤ} (different : n ≠ other) : 1 ≤ |value - n| + |value - other| := by
    have whole : 1 ≤ |n - other| := Int.one_le_abs (sub_ne_zero.mpr different)
    have wholeCast : (1 : ℚ) ≤ |(n : ℚ) - other| := by
      exact_mod_cast whole
    have triangle := abs_sub_le (n : ℚ) value other
    rw [abs_sub_comm (n : ℚ) value] at triangle
    linarith
  constructor
  · intro other
    by_cases same : n = other
    · rw [same]
    · have distance := apart same
      linarith
  · intro other equally
    by_cases same : n = other
    · rw [same]
    · have distance := apart same
      have tie : |value - n| = 1 / 2 := by
        linarith
      have below := inside tie
      rcases abs_eq_abs.mp equally with equal | mirrored
      · have equality : (n : ℚ) = other := by
          linarith
        exact absurd (by exact_mod_cast equality) same
      · have reflected : (other : ℚ) = value + (value - n) := by
          linarith
        have size : |(n : ℚ)| ≤ |(other : ℚ)| := by
          have triangle := abs_sub_abs_le_abs_sub (value + value) (n : ℚ)
          rw [reflected, ← add_sub_assoc]
          rw [← two_mul, abs_mul, abs_two] at triangle
          rw [← two_mul]
          linarith
        exact_mod_cast size

/-! ## Rounded quotients -/

/-- The truncated quotient or its neighbour on the side of the sign. -/
def nearestQuotient (dividend divisor : ℤ) : ℤ :=
  if |divisor| < 2 * |dividend.tmod divisor| then
    dividend.tdiv divisor + dividend.sign * divisor.sign
  else dividend.tdiv divisor

theorem abs_tmod_lt {divisor : ℤ} (nonzero : divisor ≠ 0) (dividend : ℤ) :
    |dividend.tmod divisor| < |divisor| := by
  rw [Int.abs_eq_natAbs, Int.abs_eq_natAbs, Int.natAbs_tmod]
  exact_mod_cast Nat.mod_lt _ (Int.natAbs_pos.mpr nonzero)

theorem abs_tdiv_mul_le (dividend divisor : ℤ) :
    |dividend.tdiv divisor| * |divisor| ≤ |dividend| := by
  rw [Int.abs_eq_natAbs, Int.abs_eq_natAbs, Int.abs_eq_natAbs, Int.natAbs_tdiv]
  exact_mod_cast Nat.div_mul_le_self _ _

theorem sub_tdiv_mul (dividend divisor : ℤ) :
    dividend - dividend.tdiv divisor * divisor = dividend.tmod divisor := by
  rw [Int.tmod_def, mul_comm]

/-- The neighbour of the truncated quotient is on the other side of the value. -/
theorem abs_sub_neighbour_mul {dividend divisor : ℤ}
    (remains : dividend.tmod divisor ≠ 0) (nonzero : divisor ≠ 0) :
    |dividend - (dividend.tdiv divisor + dividend.sign * divisor.sign) * divisor| =
      |divisor| - |dividend.tmod divisor| := by
  have dividendNonzero : dividend ≠ 0 := by
    rintro rfl
    exact remains (Int.zero_tmod divisor)
  have remainder := Int.sign_mul_abs (dividend.tmod divisor)
  rw [sign_tmod remains] at remainder
  have apart : dividend - (dividend.tdiv divisor + dividend.sign * divisor.sign) * divisor =
      dividend.sign * (|dividend.tmod divisor| - |divisor|) := by
    have whole := Int.tdiv_mul_add_tmod dividend divisor
    rw [add_mul, mul_assoc, Int.sign_mul_self_eq_abs, mul_sub, remainder]
    linarith
  rw [apart, abs_mul, Int.abs_sign_of_ne_zero dividendNonzero, one_mul, abs_sub_comm]
  exact abs_of_nonneg (sub_nonneg.mpr (abs_tmod_lt nonzero dividend).le)

theorem abs_div_sub {divisor : ℤ} (nonzero : divisor ≠ 0) (dividend n : ℤ) :
    |(dividend : ℚ) / divisor - n| = (|dividend - n * divisor| : ℤ) / (|divisor| : ℤ) := by
  have nonzeroCast : (divisor : ℚ) ≠ 0 := by
    exact_mod_cast nonzero
  rw [div_sub' nonzeroCast, abs_div, Int.cast_abs, Int.cast_abs, Int.cast_sub, Int.cast_mul,
    mul_comm]

theorem isNearest_nearestQuotient {dividend divisor : ℤ} (nonzero : divisor ≠ 0) :
    IsNearest ((dividend : ℚ) / divisor) (nearestQuotient dividend divisor) := by
  have positive : (0 : ℚ) < (|divisor| : ℤ) := by
    exact_mod_cast abs_pos.mpr nonzero
  unfold nearestQuotient
  by_cases beyond : |divisor| < 2 * |dividend.tmod divisor|
  · have remains : dividend.tmod divisor ≠ 0 := by
      intro zero
      rw [zero, abs_zero, mul_zero] at beyond
      exact absurd beyond (not_lt.mpr (abs_nonneg divisor))
    have below : |(dividend : ℚ) / divisor -
        ((dividend.tdiv divisor + dividend.sign * divisor.sign : ℤ) : ℚ)| < 1 / 2 := by
      rw [abs_div_sub nonzero, abs_sub_neighbour_mul remains nonzero,
        div_lt_div_iff₀ positive two_pos, one_mul]
      exact_mod_cast by omega
    rw [if_pos beyond]
    apply isNearest_of_abs_sub_le below.le
    intro tie
    exact absurd tie below.ne
  · rw [if_neg beyond]
    apply isNearest_of_abs_sub_le
    · rw [abs_div_sub nonzero, sub_tdiv_mul, div_le_div_iff₀ positive two_pos, one_mul]
      exact_mod_cast by omega
    · intro _
      rw [abs_div, ← Int.cast_abs, ← Int.cast_abs, ← Int.cast_abs, le_div_iff₀ positive]
      exact_mod_cast abs_tdiv_mul_le dividend divisor

/-! ## Computing in 128 bits -/

theorem eq_of_signed_eq_ok {bits : Nat} {value result : ℤ}
    (fits : signed bits value = .ok result) : value = result := by
  unfold signed at fits
  split at fits
  · exact Except.ok.inj fits
  · contradiction

/-- The numbers that are computed on the way to a rounded quotient. -/
def roundingSteps (dividend divisor : ℤ) : List ℤ :=
  [dividend, dividend.tdiv divisor, dividend.tdiv divisor * divisor,
    dividend.tmod divisor, |dividend.tmod divisor|, 2 * |dividend.tmod divisor|, |divisor|,
    nearestQuotient dividend divisor]

theorem signed_of_natAbs_le {value : ℤ} (small : value.natAbs ≤ 2 ^ 126) :
    signed 128 value = .ok value := by
  apply signed_eq_of_natAbs
  omega

theorem roundedQuotient_eq {dividend divisor : ℤ} (dividendSmall : dividend.natAbs ≤ 2 ^ 126)
    (divisorSmall : divisor.natAbs ≤ 2 ^ 63) (nonzero : divisor ≠ 0) :
    roundedQuotient dividend divisor = .ok (nearestQuotient dividend divisor) ∧
      ∀ step ∈ roundingSteps dividend divisor, signed 128 step = .ok step := by
  obtain ⟨result, rounded⟩ := returns_roundedQuotient dividendSmall divisorSmall nonzero
  -- Every step of a computation that returns has had its width.
  have computed := rounded
  rw [roundedQuotient] at computed
  obtain ⟨product, productFits, computed⟩ := Except.bind_eq_ok_iff.mp computed
  obtain rfl := eq_of_signed_eq_ok productFits
  obtain ⟨remainder, remainderFits, computed⟩ := Except.bind_eq_ok_iff.mp computed
  obtain rfl := eq_of_signed_eq_ok remainderFits
  obtain ⟨size, sizeFits, computed⟩ := Except.bind_eq_ok_iff.mp computed
  obtain rfl := eq_of_signed_eq_ok sizeFits
  obtain ⟨doubled, doubledFits, computed⟩ := Except.bind_eq_ok_iff.mp computed
  obtain rfl := eq_of_signed_eq_ok doubledFits
  obtain ⟨divisorSize, divisorFits, computed⟩ := Except.bind_eq_ok_iff.mp computed
  obtain rfl := eq_of_signed_eq_ok divisorFits
  rw [sub_tdiv_mul] at remainderFits sizeFits doubledFits computed
  rw [Int.natCast_natAbs] at sizeFits doubledFits divisorFits computed
  rw [Int.natCast_natAbs] at computed
  have quotientFits : signed 128 (dividend.tdiv divisor) = .ok (dividend.tdiv divisor) := by
    apply signed_of_natAbs_le
    rw [Int.natAbs_tdiv]
    exact (Nat.div_le_self _ _).trans dividendSmall
  have nearest : result = nearestQuotient dividend divisor ∧
      signed 128 (nearestQuotient dividend divisor) =
        .ok (nearestQuotient dividend divisor) := by
    unfold nearestQuotient
    by_cases beyond : |divisor| < 2 * |dividend.tmod divisor|
    · rw [if_pos beyond] at computed ⊢
      obtain rfl := eq_of_signed_eq_ok computed
      exact ⟨rfl, computed⟩
    · rw [if_neg beyond] at computed ⊢
      exact ⟨(Except.ok.inj computed).symm, quotientFits⟩
  constructor
  · rw [rounded, nearest.1]
  · intro step member
    simp only [roundingSteps, List.mem_cons, List.not_mem_nil, or_false] at member
    rcases member with rfl | rfl | rfl | rfl | rfl | rfl | rfl | rfl
    · exact signed_of_natAbs_le dividendSmall
    · exact quotientFits
    · exact productFits
    · exact remainderFits
    · exact sizeFits
    · exact doubledFits
    · exact divisorFits
    · exact nearest.2

/-! ## Products that are divided -/

theorem natAbs_mul_le (a b : Int64) : (a.toInt * b.toInt).natAbs ≤ 2 ^ 126 := by
  rw [Int.natAbs_mul]
  exact (Nat.mul_le_mul (natAbs_toInt_le a) (natAbs_toInt_le b)).trans (by decide)

theorem toInt_getD_fit? (value : ℤ) :
    ((fit? value).getD (-1)).toInt =
      if -2 ^ 63 ≤ value ∧ value < 2 ^ 63 then value else -1 := by
  have bounds : (Int64.minValue.toInt ≤ value && value ≤ Int64.maxValue.toInt) = true ↔
      -2 ^ 63 ≤ value ∧ value < 2 ^ 63 := by
    rw [Int64.toInt_minValue, Int64.toInt_maxValue, Bool.and_eq_true, decide_eq_true_eq,
      decide_eq_true_eq]
    omega
  unfold fit?
  by_cases fits : -2 ^ 63 ≤ value ∧ value < 2 ^ 63
  · rw [if_pos (bounds.mpr fits), if_pos fits]
    exact Int64.toInt_ofInt_of_le fits.1 fits.2
  · rw [if_neg (bounds.not.mpr fits), if_neg fits]
    rfl

theorem toInt_ne_zero {n : Int64} (nonzero : n ≠ 0) : n.toInt ≠ 0 := by
  intro zero
  apply nonzero
  exact Int64.toInt_inj.mp zero

theorem scaled_zero (a b : Int64) : scaled a b 0 = .ok (-1) := by
  have fits := signed_of_natAbs_le (natAbs_mul_le a b)
  rw [scaled, fits]
  rfl

theorem scaled_of_ne_zero (a b : Int64) {c : Int64} (nonzero : c ≠ 0) :
    scaled a b c =
      .ok ((fit? (nearestQuotient (a.toInt * b.toInt) c.toInt)).getD (-1)) := by
  have fits := signed_of_natAbs_le (natAbs_mul_le a b)
  have rounded := roundedQuotient_eq (natAbs_mul_le a b) (natAbs_toInt_le c)
    (toInt_ne_zero nonzero)
  rw [scaled, fits]
  simp only [bind, Except.bind, if_neg nonzero, rounded.1]
  rfl

end Number

theorem Functions.invoke_muldiv (draw : UInt32) {first second third : Argument} {result : Int64}
    (scaled : Number.scaled first.number second.number third.number = .ok result) :
    invoke draw "muldiv" [first, second, third] =
      .ok (.value (numberAtom result) .all) := by
  have member : ⟨"muldiv", .muldiv, .exact 3, .arithmetic⟩ ∈ Catalog.entries := by
    decide
  rw [invoke_of_mem draw member rfl, run, muldiv, scaled]
  rfl

namespace Number

open Functions

/-- The product of two numbers is divided by a third one and rounded to the nearest
integer, halves toward zero.  Without a divisor, and where that integer has not 64 bits,
the result is minus one.  All that is computed on the way has 128 bits. -/
theorem scaled_isNearest (a b c : Int64) :
    ∃ result : Int64, scaled a b c = .ok result ∧
      (∀ (draw : UInt32) (first second third : Argument),
        first.number = a → second.number = b → third.number = c →
          invoke draw "muldiv" [first, second, third] =
            .ok (.value (numberAtom result) .all)) ∧
      (c = 0 → result = -1) ∧
      (c ≠ 0 →
        (∃ n : ℤ, IsNearest ((a.toInt * b.toInt : ℚ) / c.toInt) n ∧
          (∀ other : ℤ, IsNearest ((a.toInt * b.toInt : ℚ) / c.toInt) other → other = n) ∧
          result.toInt = if -2 ^ 63 ≤ n ∧ n < 2 ^ 63 then n else -1) ∧
        ∀ step ∈ roundingSteps (a.toInt * b.toInt) c.toInt, signed 128 step = .ok step) := by
  have calls {result : Int64} (computed : scaled a b c = .ok result) (draw : UInt32)
      (first second third : Argument) (firstIs : first.number = a) (secondIs : second.number = b)
      (thirdIs : third.number = c) :
      invoke draw "muldiv" [first, second, third] = .ok (.value (numberAtom result) .all) := by
    apply invoke_muldiv
    rw [firstIs, secondIs, thirdIs, computed]
  by_cases zero : c = 0
  · subst zero
    have computed := scaled_zero a b
    refine ⟨-1, computed, calls computed, fun _ => rfl, ?_⟩
    intro nonzero
    contradiction
  · have computed := scaled_of_ne_zero a b zero
    refine ⟨_, computed, calls computed, fun isZero => absurd isZero zero, fun _ => ⟨?_, ?_⟩⟩
    · have nearest : IsNearest ((a.toInt * b.toInt : ℚ) / c.toInt)
          (nearestQuotient (a.toInt * b.toInt) c.toInt) := by
        exact_mod_cast isNearest_nearestQuotient (toInt_ne_zero zero)
      refine ⟨_, nearest, ?_, toInt_getD_fit? _⟩
      intro other otherNearest
      exact otherNearest.unique nearest
    · exact (roundedQuotient_eq (natAbs_mul_le a b) (natAbs_toInt_le c)
        (toInt_ne_zero zero)).2

/-- Minus fifteen halves are rounded toward zero. -/
theorem scaled_isNearest_fifteen_halves :
    let argument (text : String) : Argument := ⟨.literal text, false⟩
    invoke 0 "muldiv" [argument "-5", argument "3", argument "2"] =
        .ok (.value (.found "-7") .all) ∧
      IsNearest (-15 / 2) (-7) ∧ scaled 5 3 0 = .ok (-1) := by
  intro argument
  obtain ⟨result, computed, calls, -, divided⟩ := scaled_isNearest (-5) 3 2
  obtain ⟨⟨n, nearest, -, resultIs⟩, -⟩ := divided (by decide)
  obtain ⟨undivided, passed, -, minusOne, -⟩ := scaled_isNearest 5 3 0
  obtain rfl : result = -7 := by
    have evaluated : scaled (-5) 3 2 = .ok (-7) := by
      rfl
    rw [computed] at evaluated
    exact Except.ok.inj evaluated
  have called := calls 0 (argument "-5") (argument "3") (argument "2") (by decide) (by decide)
    (by decide)
  have nIs : n = -7 := by
    have seven : (-7 : Int64).toInt = -7 := by
      decide
    rw [seven] at resultIs
    by_cases fits : -2 ^ 63 ≤ n ∧ n < 2 ^ 63
    · rw [if_pos fits] at resultIs
      exact resultIs.symm
    · rw [if_neg fits] at resultIs
      contradiction
  have value : ((-5 : Int64).toInt * (3 : Int64).toInt : ℚ) / (2 : Int64).toInt = -15 / 2 := by
    have dividend : (-5 : Int64).toInt * (3 : Int64).toInt = -15 := by
      decide
    have divisor : (2 : Int64).toInt = 2 := by
      decide
    rw [← Int.cast_mul, dividend, divisor]
    norm_num
  refine ⟨called, ?_, ?_⟩
  · rwa [nIs, value] at nearest
  · rw [passed, minusOne rfl]

-- Halves are not rounded away from zero, unlike in the sum of the product and half the divisor.
example : scaled 1 1 2 = .ok 0 ∧ scaled (-17) 1 3 = .ok (-6) ∧
    scaled Int64.minValue Int64.minValue 1 = .ok (-1) := by
  decide

end Number

end TitleFormatting
