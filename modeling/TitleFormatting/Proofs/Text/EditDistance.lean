import Mathlib.Order.Bounds.Defs
import Mathlib.Order.MinMax
import TitleFormatting.Text.EditDistance

/-!
# The least number of edits

A character is inserted, deleted or exchanged anywhere in a text.  The least number of such
edits that turn one text into another obeys a recursion over the last characters of both:
one edit of the other text changes what the recursion yields by one at most.  The rows of
the distance table hold what it yields for the beginnings of the two texts, so that the last
entry of the last row is the least number of edits between the whole texts.
-/

namespace TitleFormatting.Text

/-! ## Edits one after another -/

/-- One character is inserted, deleted or exchanged. -/
inductive Edit : List Char → List Char → Prop
  | insert (before : List Char) (c : Char) (after : List Char) :
      Edit (before ++ after) (before ++ c :: after)
  | delete (before : List Char) (c : Char) (after : List Char) :
      Edit (before ++ c :: after) (before ++ after)
  | exchange (before : List Char) (c d : Char) (after : List Char) :
      Edit (before ++ c :: after) (before ++ d :: after)

/-- So many edits turn the one text into the other. -/
inductive Edits (text : List Char) : Nat → List Char → Prop
  | none : Edits text 0 text
  | more {count : Nat} {reached other : List Char} (reaching : Edits text count reached)
      (edit : Edit reached other) : Edits text (count + 1) other

theorem Edit.cons {text other : List Char} (edit : Edit text other) (c : Char) :
    Edit (c :: text) (c :: other) := by
  cases edit with
  | insert before d after =>
      exact .insert (c :: before) d after
  | delete before d after =>
      exact .delete (c :: before) d after
  | exchange before d e after =>
      exact .exchange (c :: before) d e after

theorem Edit.reverse {text other : List Char} (edit : Edit text other) :
    Edit text.reverse other.reverse := by
  cases edit with
  | insert before c after =>
      simpa using Edit.insert after.reverse c before.reverse
  | delete before c after =>
      simpa using Edit.delete after.reverse c before.reverse
  | exchange before c d after =>
      simpa using Edit.exchange after.reverse c d before.reverse

namespace Edits

variable {text other : List Char} {count : Nat}

theorem cons (edits : Edits text count other) (c : Char) :
    Edits (c :: text) count (c :: other) := by
  induction edits with
  | none =>
      exact .none
  | more _ edit inductionHypothesis =>
      exact .more inductionHypothesis (edit.cons c)

theorem reverse (edits : Edits text count other) :
    Edits text.reverse count other.reverse := by
  induction edits with
  | none =>
      exact .none
  | more _ edit inductionHypothesis =>
      exact .more inductionHypothesis edit.reverse

theorem reverse_iff : Edits text.reverse count other.reverse ↔ Edits text count other := by
  constructor
  · intro edits
    simpa using edits.reverse
  · exact reverse

end Edits

/-! ## The recursion for the least number of edits -/

/-- The least number of edits between two texts, each given from its last character on: the
last character of the one is deleted, that of the other inserted, or the last characters
are exchanged if they differ. -/
def leastEdits : List Char → List Char → Nat
  | [], other => other.length
  | text, [] => text.length
  | c :: text, d :: other =>
    let exchanged := if c = d then leastEdits text other else leastEdits text other + 1
    min (min (leastEdits (c :: text) other + 1) (leastEdits text (d :: other) + 1)) exchanged

@[simp]
theorem leastEdits_nil_left (other : List Char) : leastEdits [] other = other.length := by
  rw [leastEdits]

@[simp]
theorem leastEdits_nil_right (text : List Char) : leastEdits text [] = text.length := by
  cases text with
  | nil =>
      rw [leastEdits_nil_left]
  | cons c text =>
      rw [leastEdits]
      exact List.cons_ne_nil c text

theorem leastEdits_cons_cons (c d : Char) (text other : List Char) :
    leastEdits (c :: text) (d :: other) =
      min (min (leastEdits (c :: text) other + 1) (leastEdits text (d :: other) + 1))
        (if c = d then leastEdits text other else leastEdits text other + 1) := by
  rw [leastEdits]

/-! ## No edits are fewer -/

theorem leastEdits_insert (text : List Char) (c : Char) (other : List Char) :
    leastEdits text (c :: other) ≤ leastEdits text other + 1 := by
  cases text with
  | nil =>
      simp
  | cons d text =>
      rw [leastEdits_cons_cons]
      omega

theorem leastEdits_delete (text : List Char) (c : Char) (other : List Char) :
    leastEdits text other ≤ leastEdits text (c :: other) + 1 := by
  induction text with
  | nil =>
      simp only [leastEdits_nil_left, List.length_cons]
      omega
  | cons d text inductionHypothesis =>
      have grown : leastEdits (d :: text) other ≤ leastEdits text other + 1 := by
        cases other with
        | nil =>
            simp
        | cons e other =>
            rw [leastEdits_cons_cons]
            omega
      rw [leastEdits_cons_cons]
      split_ifs <;> omega

theorem leastEdits_exchange (text : List Char) (c d : Char) (other : List Char) :
    leastEdits text (d :: other) ≤ leastEdits text (c :: other) + 1 := by
  induction text with
  | nil =>
      simp
  | cons e text inductionHypothesis =>
      rw [leastEdits_cons_cons, leastEdits_cons_cons]
      split_ifs <;> omega

/-- What an edit changes by one at most, it changes by one at most after any character. -/
theorem leastEdits_cons_le {reached other : List Char}
    (near : ∀ text, leastEdits text other ≤ leastEdits text reached + 1) (c : Char)
    (text : List Char) :
    leastEdits text (c :: other) ≤ leastEdits text (c :: reached) + 1 := by
  induction text with
  | nil =>
      simpa using near []
  | cons d text inductionHypothesis =>
      have shorter := near (d :: text)
      have both := near text
      rw [leastEdits_cons_cons, leastEdits_cons_cons]
      split_ifs <;> omega

theorem leastEdits_append_le {reached other : List Char}
    (near : ∀ text, leastEdits text other ≤ leastEdits text reached + 1)
    (front : List Char) :
    ∀ text, leastEdits text (front ++ other) ≤ leastEdits text (front ++ reached) + 1 := by
  induction front with
  | nil =>
      exact near
  | cons c front inductionHypothesis =>
      exact leastEdits_cons_le inductionHypothesis c

theorem leastEdits_le_of_edit {reached other : List Char} (edit : Edit reached other)
    (text : List Char) : leastEdits text other ≤ leastEdits text reached + 1 := by
  cases edit with
  | insert before c after =>
      exact leastEdits_append_le (leastEdits_insert · c after) before text
  | delete before c after =>
      exact leastEdits_append_le (leastEdits_delete · c after) before text
  | exchange before c d after =>
      exact leastEdits_append_le (leastEdits_exchange · c d after) before text

@[simp]
theorem leastEdits_self (text : List Char) : leastEdits text text = 0 := by
  induction text with
  | nil =>
      simp
  | cons c text inductionHypothesis =>
      rw [leastEdits_cons_cons, if_pos rfl, inductionHypothesis]
      exact Nat.min_zero _

theorem leastEdits_le_of_edits {text other : List Char} {count : Nat}
    (edits : Edits text count other) : leastEdits text other ≤ count := by
  induction edits with
  | none =>
      exact (leastEdits_self text).le
  | more _ edit inductionHypothesis =>
      exact (leastEdits_le_of_edit edit text).trans (Nat.succ_le_succ inductionHypothesis)

/-! ## So few edits are enough -/

theorem Edits.min {text other : List Char} {first second : Nat}
    (edits : Edits text first other) (others : Edits text second other) :
    Edits text (min first second) other := by
  rcases min_choice first second with chosen | chosen
  · rwa [chosen]
  · rwa [chosen]

theorem edits_nil_left (other : List Char) : Edits [] other.length other := by
  induction other with
  | nil =>
      exact .none
  | cons c other inductionHypothesis =>
      exact .more inductionHypothesis (.insert [] c other)

theorem edits_nil_right (text : List Char) : Edits text text.length [] := by
  induction text with
  | nil =>
      exact .none
  | cons c text inductionHypothesis =>
      exact .more (inductionHypothesis.cons c) (.delete [] c [])

theorem edits_leastEdits (text other : List Char) :
    Edits text (leastEdits text other) other := by
  induction text generalizing other with
  | nil =>
      rw [leastEdits_nil_left]
      exact edits_nil_left other
  | cons c text shorterText =>
      induction other with
      | nil =>
          rw [leastEdits_nil_right]
          exact edits_nil_right (c :: text)
      | cons d other shorterOther =>
          have inserted : Edits (c :: text) (leastEdits (c :: text) other + 1) (d :: other) :=
            .more shorterOther (.insert [] d other)
          have deleted : Edits (c :: text) (leastEdits text (d :: other) + 1) (d :: other) :=
            .more ((shorterText (d :: other)).cons c) (.delete [] c (d :: other))
          have exchanged : Edits (c :: text)
              (if c = d then leastEdits text other else leastEdits text other + 1)
              (d :: other) := by
            split_ifs with same
            · exact same ▸ (shorterText other).cons c
            · exact .more ((shorterText other).cons c) (.exchange [] c d other)
          rw [leastEdits_cons_cons]
          exact (inserted.min deleted).min exchanged

/-! ## The rows of the distance table -/

/-- A row of the table: the least numbers of edits between the characters `seen` of the one
text and the beginnings of the other, those `passed` and each longer one.  What is `seen`
and `passed` is given from its last character on. -/
def distances (seen passed : List Char) : List Char → List Nat
  | [] => [leastEdits seen passed]
  | d :: other => leastEdits seen passed :: distances seen (d :: passed) other

theorem distances_eq_cons (seen passed other : List Char) :
    distances seen passed other =
      leastEdits seen passed :: (distances seen passed other).tail := by
  cases other <;> rfl

theorem distanceRowFrom_distances (c : Char) (seen passed other : List Char) :
    distanceRowFrom c (leastEdits (c :: seen) passed) other (distances seen passed other) =
      (distances (c :: seen) passed other).tail := by
  induction other generalizing passed with
  | nil =>
      rfl
  | cons d other inductionHypothesis =>
      have below := inductionHypothesis (d :: passed)
      rw [distances_eq_cons seen (d :: passed) other] at below
      rw [distances, distances, List.tail_cons, distances_eq_cons seen (d :: passed) other,
        distances_eq_cons (c :: seen) (d :: passed) other, ← below, leastEdits_cons_cons]
      rfl

theorem distanceRow_distances (c : Char) (seen other : List Char) :
    distanceRow other (distances seen [] other) c = distances (c :: seen) [] other := by
  have below := distanceRowFrom_distances c seen [] other
  rw [distances_eq_cons seen [] other] at below ⊢
  rw [distances_eq_cons (c :: seen) [] other, ← below]
  simp [distanceRow]

theorem foldl_distanceRow (text seen other : List Char) :
    text.foldl (distanceRow other) (distances seen [] other) =
      distances (text.reverse ++ seen) [] other := by
  induction text generalizing seen with
  | nil =>
      rfl
  | cons c text inductionHypothesis =>
      rw [List.foldl_cons, distanceRow_distances, inductionHypothesis]
      simp

theorem distances_nil (passed other : List Char) :
    distances [] passed other = List.range' passed.length (other.length + 1) := by
  induction other generalizing passed with
  | nil =>
      simp [distances]
  | cons d other inductionHypothesis =>
      rw [distances, inductionHypothesis, leastEdits_nil_left]
      exact List.range'_succ.symm

theorem getLast?_distances (seen passed other : List Char) :
    (distances seen passed other).getLast? =
      some (leastEdits seen (other.reverse ++ passed)) := by
  induction other generalizing passed with
  | nil =>
      rfl
  | cons d other inductionHypothesis =>
      rw [distances, distances_eq_cons, List.getLast?_cons_cons, ← distances_eq_cons,
        inductionHypothesis]
      simp

theorem editDistance_eq_leastEdits (text other : List Char) :
    editDistance text other = leastEdits text.reverse other.reverse := by
  have start : List.range (other.length + 1) = distances [] [] other := by
    rw [distances_nil, List.range_eq_range', List.length_nil]
  rw [editDistance, start, foldl_distanceRow, getLast?_distances]
  simp

/-- The table yields the least number of edits that turn one text into the other. -/
theorem isLeast_editDistance (text other : List Char) :
    IsLeast {count | Edits text count other} (editDistance text other) := by
  rw [editDistance_eq_leastEdits]
  constructor
  · exact Edits.reverse_iff.mp (edits_leastEdits text.reverse other.reverse)
  · intro count edits
    exact leastEdits_le_of_edits edits.reverse

end TitleFormatting.Text
