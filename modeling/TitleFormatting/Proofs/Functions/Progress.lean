import TitleFormatting.Proofs.Functions.Calls
import TitleFormatting.Proofs.Functions.Division
import TitleFormatting.Proofs.Returning

/-!
# Progress bars

The cell of a position is its share of the bar.  The product of the position and the
length is held within 64 bits before it is divided, so that a bar never shows more than
the share, and shows less only where the numbers are too large.
-/

namespace TitleFormatting

/-! ## Products that are held -/

namespace Number

theorem toInt_saturate (value : Int) :
    (saturate value).toInt = max (-2 ^ 63) (min value (2 ^ 63 - 1)) := by
  rw [saturate, Int64.toInt_minValue, Int64.toInt_maxValue]
  apply Int64.toInt_ofInt_of_le <;> omega

theorem quotient?_of_divides {dividend divisor : Int64}
    (proper : divides divisor dividend = true) :
    quotient? dividend divisor = some (dividend / divisor) :=
  if_pos proper

theorem quotient?_of_divides_eq_false {dividend divisor : Int64}
    (improper : divides divisor dividend = false) : quotient? dividend divisor = none := by
  rw [quotient?, if_neg]
  rw [improper]
  exact Bool.false_ne_true

theorem toNat_tdiv_eq_zero {value divisor : Int}
    (opposite : 0 ≤ value ∧ divisor ≤ 0 ∨ value ≤ 0 ∧ 0 ≤ divisor) :
    (value.tdiv divisor).toNat = 0 := by
  apply Int.toNat_of_nonpos
  rcases opposite with ⟨nonnegative, nonpositive⟩ | ⟨nonpositive, nonnegative⟩
  · exact Int.tdiv_nonpos_of_nonneg_of_nonpos nonnegative nonpositive
  · have mirrored : 0 ≤ (-value).tdiv divisor := by
      apply Int.tdiv_nonneg
      · omega
      · exact nonnegative
    rw [Int.neg_tdiv] at mirrored
    omega

/-- The nearer a number is to zero, the nearer is its quotient. -/
theorem toNat_tdiv_le {held value : Int} (divisor : Int)
    (nearer : 0 ≤ held ∧ held ≤ value ∨ value ≤ held ∧ held ≤ 0) :
    (held.tdiv divisor).toNat ≤ (value.tdiv divisor).toNat := by
  have positive {held value divisor : Int} (divisorPositive : 0 < divisor)
      (nearer : 0 ≤ held ∧ held ≤ value ∨ value ≤ held ∧ held ≤ 0) :
      (held.tdiv divisor).toNat ≤ (value.tdiv divisor).toNat := by
    rcases nearer with ⟨-, below⟩ | ⟨-, nonpositive⟩
    · exact Int.toNat_le_toNat (Int.tdiv_le_tdiv divisorPositive below)
    · rw [toNat_tdiv_eq_zero (Or.inr ⟨nonpositive, divisorPositive.le⟩)]
      exact Nat.zero_le _
  rcases lt_trichotomy divisor 0 with negative | rfl | divisorPositive
  · rw [← Int.neg_tdiv_neg held, ← Int.neg_tdiv_neg value]
    apply positive <;> omega
  · rw [Int.tdiv_zero, Int.tdiv_zero]
  · exact positive divisorPositive nearer

end Number

namespace Functions

open Number

/-! ## The cell of a position -/

/-- The cell of a position by its share of the range, however large the product is. -/
def proportionalCell (position range : Int64) (length : Nat) : Nat :=
  ((position.toInt * length).tdiv range.toInt).toNat

/-- The position has come to a cell of the bar whose product with the range does not fit into
64 bits, or the range is minus one and the share itself does not fit. -/
def FallsShort (position range : Int64) (length : Nat) : Prop :=
  (∃ cell : Nat, cell ≤ length ∧
    (2 ^ 63 ≤ range.toInt * cell ∧ range.toInt * cell ≤ position.toInt * length ∨
      range.toInt * cell < -2 ^ 63 ∧ position.toInt * length ≤ range.toInt * cell)) ∨
    range = -1 ∧ position.toInt * length ≤ -2 ^ 63

instance (position range : Int64) (length : Nat) :
    Decidable (FallsShort position range length) :=
  inferInstanceAs (Decidable (_ ∨ _))

/-- The product of the position and the length, held within 64 bits. -/
def heldProduct (position : Int64) (length : Nat) : Int :=
  max (-2 ^ 63) (min (position.toInt * length) (2 ^ 63 - 1))

theorem cellOfPosition_eq (position range : Int64) (length : Nat) :
    cellOfPosition position range length =
      if heldProduct position length = -2 ^ 63 ∧ range = -1 then 0
      else ((heldProduct position length).tdiv range.toInt).toNat := by
  have held : (saturate (position.toInt * length)).toInt = heldProduct position length :=
    toInt_saturate _
  have least : saturate (position.toInt * length) = Int64.minValue ↔
      heldProduct position length = -2 ^ 63 := by
    rw [← held, ← Int64.toInt_minValue, Int64.toInt_inj]
  rw [cellOfPosition]
  by_cases proper : divides range (saturate (position.toInt * length)) = true
  · obtain ⟨-, fits⟩ := divides_iff.mp proper
    rw [quotient?_of_divides proper, Option.getD_some, toInt_div fits, held, if_neg]
    rwa [← least]
  · rw [Bool.not_eq_true] at proper
    rw [quotient?_of_divides_eq_false proper, Option.getD_none]
    by_cases excepted : heldProduct position length = -2 ^ 63 ∧ range = -1
    · rw [if_pos excepted, Int64.toInt_zero, Int.toNat_zero]
    · have zero : range = 0 := by
        by_contra nonzero
        rw [← least] at excepted
        have divided := divides_iff.mpr ⟨nonzero, excepted⟩
        rw [proper] at divided
        contradiction
      rw [if_neg excepted, zero, Int64.toInt_zero, Int.tdiv_zero]

/-- A bar never shows more than the share. -/
theorem cellOfPosition_le (position range : Int64) (length : Nat) :
    cellOfPosition position range length ≤ proportionalCell position range length := by
  rw [cellOfPosition_eq]
  split
  · exact Nat.zero_le _
  · apply toNat_tdiv_le
    rw [heldProduct]
    omega

theorem le_toNat_tdiv_iff {value divisor : Int} (positive : 0 < divisor)
    (nonnegative : 0 ≤ value) (n : Nat) :
    n ≤ (value.tdiv divisor).toNat ↔ divisor * n ≤ value := by
  have quotient : 0 ≤ value.tdiv divisor := Int.tdiv_nonneg nonnegative positive.le
  have cast : n ≤ (value.tdiv divisor).toNat ↔ (n : Int) ≤ value.tdiv divisor := by
    omega
  rw [cast, Int.tdiv_eq_ediv_of_nonneg nonnegative, Int.le_ediv_iff_mul_le positive, mul_comm]

theorem lt_min_iff (n first second : Nat) :
    n < min first second ↔ ∃ next, next ≤ second ∧ next ≤ first ∧ ¬ next ≤ n := by
  constructor
  · intro below
    refine ⟨n + 1, ?_, ?_, ?_⟩ <;> omega
  · rintro ⟨next, _, _, _⟩
    omega

theorem toNat_tdiv_lt_min_iff {held value divisor : Int} (positive : 0 < divisor)
    (heldNonnegative : 0 ≤ held) (nonnegative : 0 ≤ value) (length : Nat) :
    (held.tdiv divisor).toNat < min (value.tdiv divisor).toNat length ↔
      ∃ n : Nat, n ≤ length ∧ divisor * n ≤ value ∧ held < divisor * n := by
  rw [lt_min_iff]
  simp only [le_toNat_tdiv_iff positive heldNonnegative,
    le_toNat_tdiv_iff positive nonnegative, Int.not_le]

theorem not_fallsShort_of_opposite {position range : Int64} {length : Nat}
    (opposite : 0 ≤ position.toInt * length ∧ range.toInt ≤ 0 ∨
      position.toInt * length ≤ 0 ∧ 0 ≤ range.toInt)
    (proper : ¬ (range = -1 ∧ position.toInt * length ≤ -2 ^ 63)) :
    ¬ FallsShort position range length := by
  rintro (⟨cell, -, crossed⟩ | improper)
  · rcases opposite with ⟨ahead, nonpositive⟩ | ⟨behind, nonnegative⟩
    · have side : range.toInt * cell ≤ 0 := by
        apply Int.mul_nonpos_of_nonpos_of_nonneg nonpositive
        omega
      omega
    · have side : 0 ≤ range.toInt * cell := by
        apply Int.mul_nonneg nonnegative
        omega
      omega
  · exact proper improper

/-- A bar shows less than the share exactly where the numbers are too large. -/
theorem cellOfPosition_lt_iff (position range : Int64) (length : Nat) :
    cellOfPosition position range length <
        min (proportionalCell position range length) length ↔
      FallsShort position range length := by
  by_cases improper : range = -1 ∧ position.toInt * length ≤ -2 ^ 63
  · have held : heldProduct position length = -2 ^ 63 := by
      rw [heldProduct]
      omega
    have share : proportionalCell position range length =
        (-(position.toInt * length)).toNat := by
      have minusOne : (-1 : Int64).toInt = -1 := by
        decide
      rw [proportionalCell, improper.1, minusOne, Int.tdiv_neg, Int.tdiv_one]
    have nonempty : length ≠ 0 := by
      rintro rfl
      simp at improper
    rw [cellOfPosition_eq, if_pos ⟨held, improper.1⟩, share]
    apply iff_of_true
    · omega
    · exact Or.inr improper
  have cell : cellOfPosition position range length =
      ((heldProduct position length).tdiv range.toInt).toNat := by
    rw [cellOfPosition_eq, if_neg]
    rintro ⟨held, minusOne⟩
    apply improper
    rw [heldProduct] at held
    exact ⟨minusOne, by omega⟩
  by_cases opposite : 0 ≤ position.toInt * length ∧ range.toInt ≤ 0 ∨
      position.toInt * length ≤ 0 ∧ 0 ≤ range.toInt
  · have nothing := toNat_tdiv_eq_zero opposite
    apply iff_of_false
    · rw [proportionalCell, nothing]
      omega
    · exact not_fallsShort_of_opposite opposite improper
  rw [cell, proportionalCell]
  by_cases positive : 0 < range.toInt
  · have held : 0 ≤ heldProduct position length := by
      rw [heldProduct]
      omega
    rw [toNat_tdiv_lt_min_iff positive held (by omega), heldProduct]
    constructor
    · rintro ⟨cell, within, passed, missed⟩
      exact Or.inl ⟨cell, within, Or.inl ⟨by omega, passed⟩⟩
    · rintro (⟨cell, within, ⟨far, passed⟩ | ⟨far, -⟩⟩ | minusOne)
      · exact ⟨cell, within, passed, by omega⟩
      · have side : 0 ≤ range.toInt * cell := by
          apply Int.mul_nonneg positive.le
          omega
        omega
      · exact absurd minusOne improper
  · have held : 0 ≤ -heldProduct position length := by
      rw [heldProduct]
      omega
    rw [← Int.neg_tdiv_neg, ← Int.neg_tdiv_neg (position.toInt * length),
      toNat_tdiv_lt_min_iff (by omega) held (by omega), heldProduct]
    constructor
    · rintro ⟨cell, within, passed, missed⟩
      rw [neg_mul] at passed missed
      exact Or.inl ⟨cell, within, Or.inr ⟨by omega, by omega⟩⟩
    · rintro (⟨cell, within, ⟨far, -⟩ | ⟨far, passed⟩⟩ | minusOne)
      · have side : range.toInt * cell ≤ 0 := by
          apply Int.mul_nonpos_of_nonpos_of_nonneg <;> omega
        omega
      · refine ⟨cell, within, ?_, ?_⟩ <;> rw [neg_mul] <;> omega
      · exact absurd minusOne improper

theorem min_cellOfPosition_eq {position range : Int64} {length : Nat}
    (fits : ¬ FallsShort position range length) (bound : Nat) (within : bound ≤ length) :
    min (cellOfPosition position range length) bound =
      min (proportionalCell position range length) bound := by
  have shown := cellOfPosition_le position range length
  rw [← cellOfPosition_lt_iff] at fits
  omega

/-! ## Positions within a range -/

theorem cellOfPosition_of_pos {range : Int64} (positive : 0 < range.toInt)
    (position : Int64) (length : Nat) :
    cellOfPosition position range length =
      ((heldProduct position length).tdiv range.toInt).toNat := by
  rw [cellOfPosition_eq, if_neg]
  rintro ⟨-, rfl⟩
  contradiction

/-- A bar does not go back when the position goes forward. -/
theorem cellOfPosition_mono {position further range : Int64} (positive : 0 < range.toInt)
    (forward : position.toInt ≤ further.toInt) (length : Nat) :
    cellOfPosition position range length ≤ cellOfPosition further range length := by
  have products : position.toInt * length ≤ further.toInt * length := by
    apply Int.mul_le_mul_of_nonneg_right forward
    omega
  rw [cellOfPosition_of_pos positive, cellOfPosition_of_pos positive]
  apply Int.toNat_le_toNat
  apply Int.tdiv_le_tdiv positive
  rw [heldProduct, heldProduct]
  omega

/-- At the end of the range and behind it a bar is full, unless the product for the end
does not fit. -/
theorem length_le_cellOfPosition_iff {position range : Int64} (positive : 0 < range.toInt)
    (behind : range.toInt ≤ position.toInt) (length : Nat) :
    length ≤ cellOfPosition position range length ↔ range.toInt * length < 2 ^ 63 := by
  have products : range.toInt * length ≤ position.toInt * length := by
    apply Int.mul_le_mul_of_nonneg_right behind
    omega
  have nonnegative : 0 ≤ range.toInt * length := by
    apply Int.mul_nonneg positive.le
    omega
  have held : 0 ≤ heldProduct position length := by
    rw [heldProduct]
    omega
  rw [cellOfPosition_of_pos positive, le_toNat_tdiv_iff positive held, heldProduct]
  omega

/-! ## Bars -/

/-- The cells of a bar with a knob in one of them, at most in the last one. -/
def knobCells (length cell : Nat) (knob bar : List Char) : List (List Char) :=
  (List.replicate length bar).set (min cell (length - 1)) knob

/-- The cells of a bar whose first cells are filled, at most all of them. -/
def filledCells (length cell : Nat) (filled empty : List Char) : List (List Char) :=
  List.replicate (min cell length) filled ++ List.replicate (length - min cell length) empty

@[simp]
theorem length_knobCells (length cell : Nat) (knob bar : List Char) :
    (knobCells length cell knob bar).length = length := by
  rw [knobCells, List.length_set, List.length_replicate]

@[simp]
theorem length_filledCells (length cell : Nat) (filled empty : List Char) :
    (filledCells length cell filled empty).length = length := by
  rw [filledCells, List.length_append, List.length_replicate, List.length_replicate]
  omega

theorem knobBar_eq (length cell : Nat) (knob bar : List Char) :
    knobBar length cell knob bar = (knobCells length cell knob bar).flatten := by
  rw [knobBar, List.flatMap_def]
  congr 1
  apply List.ext_getElem
  · simp
  · intro index inRange inCells
    simp [knobCells, List.getElem_set, eq_comm]

theorem filledBar_eq (length cell : Nat) (filled empty : List Char) :
    filledBar length cell filled empty = .ok (filledCells length cell filled empty).flatten := by
  have counted := difference_eq (Nat.min_le_right cell length)
  rw [filledBar, filledCells, List.flatten_append]
  simp only [counted]
  rfl

/-- Both functions draw bars with this cell for the position. -/
structure DrawsBars (draw : UInt32) (position range length marked plain : Argument)
    (cell : Nat) : Prop where
  progress : invoke draw "progress" [position, range, length, marked, plain] =
    .ok (.value (.literal (String.ofList
      (knobCells (widthOf length) cell marked.characters plain.characters).flatten)) .all)
  progress2 : invoke draw "progress2" [position, range, length, marked, plain] =
    .ok (.value (.literal (String.ofList
      (filledCells (widthOf length) cell marked.characters plain.characters).flatten)) .all)

theorem drawsBars (draw : UInt32) (position range length marked plain : Argument) :
    DrawsBars draw position range length marked plain
      (cellOfPosition position.number range.number (widthOf length)) := by
  constructor
  · have member : ⟨"progress", .progress, .exact 5, .misc⟩ ∈ Catalog.entries := by
      decide
    rw [invoke_of_mem draw member rfl, run, progress, knobBar_eq]
    rfl
  · have member : ⟨"progress2", .progress2, .exact 5, .misc⟩ ∈ Catalog.entries := by
      decide
    rw [invoke_of_mem draw member rfl, run, progress2]
    simp only [filledBar_eq]
    rfl

theorem DrawsBars.congr {draw : UInt32} {position range length marked plain : Argument}
    {cell other : Nat} (draws : DrawsBars draw position range length marked plain cell)
    (alike : ∀ bound ≤ widthOf length, min cell bound = min other bound) :
    DrawsBars draw position range length marked plain other := by
  have knobs := alike (widthOf length - 1) (Nat.sub_le _ _)
  have cells := alike (widthOf length) (Nat.le_refl _)
  obtain ⟨progress, progress2⟩ := draws
  rw [knobCells, knobs] at progress
  rw [filledCells, cells] at progress2
  exact ⟨progress, progress2⟩

/-- Unless the numbers are too large, the bars show the share that the position has of the
range.  They never show more.  In a range that is not negative or empty the cell moves
forward with the position, and from the end of the range on the bar is full, as far as
the product for the end fits into 64 bits. -/
theorem bars_follow_share (draw : UInt32) (position range length marked plain : Argument) :
    let cells := widthOf length
    let cell := cellOfPosition position.number range.number cells
    let share := proportionalCell position.number range.number cells
    DrawsBars draw position range length marked plain cell ∧
      cell ≤ share ∧
      (cell < min share cells ↔ FallsShort position.number range.number cells) ∧
      (¬ FallsShort position.number range.number cells →
        DrawsBars draw position range length marked plain share) ∧
      (0 < range.number →
        (∀ further : Int64, position.number ≤ further →
          cell ≤ cellOfPosition further range.number cells) ∧
        (range.number ≤ position.number →
          (cells ≤ cell ↔ range.number.toInt * cells < 2 ^ 63))) := by
  intro cells cell share
  have draws := drawsBars draw position range length marked plain
  refine ⟨draws, cellOfPosition_le _ _ _, cellOfPosition_lt_iff _ _ _, ?proportional, ?positive⟩
  case proportional =>
    intro fits
    apply draws.congr
    intro bound within
    exact min_cellOfPosition_eq fits bound within
  case positive =>
    intro positive
    rw [Int64.lt_iff_toInt_lt, Int64.toInt_zero] at positive
    constructor
    · intro further forward
      exact cellOfPosition_mono positive (Int64.le_iff_toInt_le.mp forward) cells
    · intro behind
      exact length_le_cellOfPosition_iff positive (Int64.le_iff_toInt_le.mp behind) cells

theorem bars_follow_share_three_tenths :
    let argument (text : String) : Argument := ⟨.literal text, false⟩
    invoke 0 "progress2"
          [argument "3", argument "10", argument "10", argument "#", argument "-"] =
        .ok (.value (.literal "###-------") .all) ∧
      invoke 0 "progress"
          [argument "3", argument "10", argument "10", argument "#", argument "-"] =
        .ok (.value (.literal "---#------") .all) ∧
      cellOfPosition 3 10 10 ≤ cellOfPosition 4 10 10 ∧ 10 ≤ cellOfPosition 20 10 10 := by
  intro argument
  obtain ⟨-, -, -, proportional, positive⟩ := bars_follow_share 0 (argument "3")
    (argument "10") (argument "10") (argument "#") (argument "-")
  have numbers : (argument "3").number = 3 ∧ (argument "10").number = 10 ∧
      (argument "20").number = 20 ∧ widthOf (argument "10") = 10 := by
    decide
  obtain ⟨three, ten, twenty, cells⟩ := numbers
  rw [three, ten, cells] at proportional positive
  have share : proportionalCell 3 10 10 = 3 := by
    decide
  have draws := proportional (by decide)
  rw [share] at draws
  obtain ⟨knob, filled⟩ := draws
  have knobText : (knobCells 10 3 (argument "#").characters (argument "-").characters).flatten =
      "---#------".toList := by
    decide
  have filledText :
      (filledCells 10 3 (argument "#").characters (argument "-").characters).flatten =
        "###-------".toList := by
    decide
  rw [cells, knobText, String.ofList_toList] at knob
  rw [cells, filledText, String.ofList_toList] at filled
  obtain ⟨-, -, -, -, behind⟩ := bars_follow_share 0 (argument "20")
    (argument "10") (argument "10") (argument "#") (argument "-")
  rw [twenty, ten, cells] at behind
  exact ⟨filled, knob, (positive (by decide)).1 4 (by decide),
    ((behind (by decide)).2 (by decide)).mpr (by decide)⟩

set_option maxRecDepth 4000 in
/-- The product for the end of the longest range is about twice as large as what it is held
at, so that a bar of two cells is half full there. -/
theorem progress2_at_end_of_longest_range :
    formatOnce "$progress2(9223372036854775807,9223372036854775807,2,#,-)" (.ofFields .empty)
        (fun _ => 0) = .ok (.literal "#-") ∧
      proportionalCell Int64.maxValue Int64.maxValue 2 = 2 ∧
      FallsShort Int64.maxValue Int64.maxValue 2 := by
  refine ⟨?_, ?_, ?_⟩
  · cbv
  · decide
  · decide

end Functions

end TitleFormatting
