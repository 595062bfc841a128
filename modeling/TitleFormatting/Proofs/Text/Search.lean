import Mathlib.Data.List.Infix
import Mathlib.Order.Bounds.Basic
import TitleFormatting.Proofs.Text.Offsets
import TitleFormatting.Text.Search

/-!
# Texts found in texts

A text is searched for among the endings of another one, from the longest to the shortest,
although the search counts bytes and cuts the text at the place that it comes to.  Positions
count characters from one, as they do where a text is sliced, so that what stands in a text
from its position on is what was searched for.
-/

namespace TitleFormatting.Text

variable {sought text : List Char}

/-! ## Positions -/

/-- The characters from one position to another, both included. -/
def slice (first last : Nat) (text : List Char) : List Char :=
  (text.take last).drop (first - 1)

/-- The positions from which on the sought text stands in a text. -/
def positions (sought text : List Char) : Set Nat :=
  {position | 1 ≤ position ∧ slice position (position + sought.length - 1) text = sought}

example : slice 2 3 "Ärger".toList = "rg".toList := by
  decide

theorem succ_mem_positions_iff (sought text : List Char) (index : Nat) :
    index + 1 ∈ positions sought text ↔ sought <+: text.drop index := by
  have last : index + 1 + sought.length - 1 = index + sought.length := by
    omega
  have cut : slice (index + 1) (index + sought.length) text =
      (text.drop index).take sought.length := by
    rw [slice, Nat.add_sub_cancel, List.drop_take, Nat.add_sub_cancel_left]
  rw [positions, Set.mem_ofPred_eq, last, cut, List.prefix_iff_eq_take]
  constructor
  · intro standing
    exact standing.2.symm
  · intro standing
    exact ⟨Nat.le_add_left 1 index, standing.symm⟩

theorem exists_of_mem_positions {position : Nat} (member : position ∈ positions sought text) :
    ∃ index, position = index + 1 ∧ sought <+: text.drop index := by
  obtain ⟨index, rfl⟩ := Nat.exists_eq_add_of_le' member.1
  exact ⟨index, rfl, (succ_mem_positions_iff sought text index).mp member⟩

/-! ## First occurrences -/

/-- The first of the endings of a text that begin with the sought text. -/
def firstEnding? (sought text : List Char) : Option Nat :=
  text.tails.findIdx? sought.isPrefixOf

theorem firstEnding?_cons (sought : List Char) (c : Char) (rest : List Char) :
    firstEnding? sought (c :: rest) =
      if sought.isPrefixOf (c :: rest) then some 0
      else (firstEnding? sought rest).map (· + 1) := by
  rw [firstEnding?, List.tails_cons, List.findIdx?_cons]
  rfl

theorem isLeast_of_firstEnding? {index : Nat} (found : firstEnding? sought text = some index) :
    IsLeast (positions sought text) (index + 1) := by
  obtain ⟨within, here, before⟩ := List.findIdx?_eq_some_iff_getElem.mp found
  rw [List.getElem_tails, List.isPrefixOf_iff_prefix] at here
  refine ⟨(succ_mem_positions_iff sought text index).mpr here, ?_⟩
  intro position member
  obtain ⟨other, rfl, standing⟩ := exists_of_mem_positions member
  by_contra earlier
  have passed := before other (by omega)
  rw [List.getElem_tails, List.isPrefixOf_iff_prefix] at passed
  exact passed standing

theorem firstEnding?_eq_none_iff : firstEnding? sought text = none ↔ ¬ sought <:+: text := by
  rw [firstEnding?, List.findIdx?_eq_none_iff, List.infix_iff_prefix_suffix]
  constructor
  · rintro passed ⟨ending, begins, ends⟩
    have refused := passed ending ((List.mem_tails _ _).mpr ends)
    rw [List.isPrefixOf_iff_prefix.mpr begins] at refused
    contradiction
  · intro missing ending member
    rw [← Bool.not_eq_true, List.isPrefixOf_iff_prefix]
    intro begins
    exact missing ⟨ending, begins, (List.mem_tails _ _).mp member⟩

/-- The search yields the bytes before the first ending. -/
theorem offsetOf?_eq (sought text : List Char) :
    offsetOf? sought text =
      (firstEnding? sought text).map fun index => utf8Length (text.take index) := by
  induction text with
  | nil =>
      cases sought <;> rfl
  | cons c rest inductionHypothesis =>
      rw [offsetOf?, firstEnding?_cons, inductionHypothesis]
      by_cases here : sought.isPrefixOf (c :: rest) = true
      · rw [if_pos here, if_pos here]
        rfl
      · rw [if_neg here, if_neg here, Option.map_map, Option.map_map]
        apply congrFun
        apply congrArg
        funext index
        exact Nat.add_comm _ _

theorem indexOf?_eq (sought text : List Char) :
    indexOf? sought text = .ok (firstEnding? sought text) := by
  rw [indexOf?, offsetOf?_eq]
  cases found : firstEnding? sought text with
  | none =>
      rfl
  | some index =>
      obtain ⟨within, -⟩ := List.findIdx?_eq_some_iff_getElem.mp found
      rw [List.length_tails] at within
      have cut := textBefore_utf8Length (text.take index) (text.drop index)
      rw [List.take_append_drop] at cut
      have counted : (text.take index).length = index := by
        rw [List.length_take]
        omega
      dsimp only [Option.map_some]
      rw [cut]
      dsimp only [bind, Except.bind]
      rw [counted]
      rfl

/-! ## Single characters -/

theorem singleton_isPrefixOf_cons (c d : Char) (rest : List Char) :
    [c].isPrefixOf (d :: rest) = (d == c) := by
  rw [List.isPrefixOf, List.isPrefixOf_nil_left, Bool.and_true, Bool.beq_comm]

theorem indexOfChar?_eq (c : Char) (text : List Char) :
    indexOfChar? c text = firstEnding? [c] text := by
  induction text with
  | nil =>
      rfl
  | cons d rest inductionHypothesis =>
      rw [firstEnding?_cons, ← inductionHypothesis, singleton_isPrefixOf_cons]
      exact List.findIdx?_cons

theorem singleton_prefix_drop_iff {c : Char} {index : Nat} :
    [c] <+: text.drop index ↔ text[index]? = some c := by
  rw [← List.head?_drop]
  cases text.drop index with
  | nil =>
      simp
  | cons d rest =>
      simp [eq_comm]

theorem isGreatest_of_lastIndexOfChar? {c : Char} {index : Nat}
    (found : lastIndexOfChar? c text = some index) :
    IsGreatest (positions [c] text) (index + 1) := by
  obtain ⟨behind, scanned, rfl⟩ := Option.map_eq_some_iff.mp found
  obtain ⟨within, here, after⟩ := List.findIdx?_eq_some_iff_getElem.mp scanned
  rw [List.length_reverse] at within
  rw [List.getElem_reverse, beq_iff_eq] at here
  constructor
  · rw [succ_mem_positions_iff, singleton_prefix_drop_iff, List.getElem?_eq_some_iff]
    exact ⟨by omega, here⟩
  · intro position member
    obtain ⟨other, rfl, standing⟩ := exists_of_mem_positions member
    obtain ⟨inside, standing⟩ :=
      List.getElem?_eq_some_iff.mp (singleton_prefix_drop_iff.mp standing)
    by_contra later
    -- Counted from the end, the other place comes first.
    have passed := after (text.length - 1 - other) (by omega)
    rw [List.getElem_reverse, beq_iff_eq] at passed
    apply passed
    rw [← standing]
    congr 1
    omega

theorem lastIndexOfChar?_eq_none_iff {c : Char} :
    lastIndexOfChar? c text = none ↔ c ∉ text := by
  rw [lastIndexOfChar?, Option.map_eq_none_iff, indexOfChar?, List.findIdx?_eq_none_iff]
  constructor
  · intro passed member
    have refused := passed c (List.mem_reverse.mpr member)
    rw [beq_self_eq_true] at refused
    contradiction
  · intro missing d member
    apply beq_eq_false_iff_ne.mpr
    rintro rfl
    exact missing (List.mem_reverse.mp member)

end TitleFormatting.Text
