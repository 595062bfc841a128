import Mathlib.Data.List.Forall2
import TitleFormatting.Formatter
import TitleFormatting.Proofs.Functions.Calls
import TitleFormatting.Proofs.Number.Order

/-!
# Numbers compared

The functions that compare numbers go by what they read.  They follow the order of the
numbers that are written, however large these are, but for one step: the least number of 64
bits is read as less than the numbers below it.
-/

namespace TitleFormatting

open Number (IsBelowLeast held least largest)

namespace Argument

/-- The argument is not quoted, and its text writes the number. -/
def Writes (argument : Argument) (n : Int) : Prop :=
  argument.quoted = false ∧ Number.Writes argument.characters n

variable {argument : Argument} {n : Int}

theorem Writes.number_eq (writes : argument.Writes n) :
    argument.number = Number.ofText argument.characters := by
  rw [number, if_neg (by simp [writes.1])]

theorem Writes.toInt_number (writes : argument.Writes n) : argument.number.toInt = held n := by
  rw [writes.number_eq, writes.2.toInt_ofText]

end Argument

namespace Functions

/-! ## Two numbers -/

section Pairs

variable {first second : Argument} {m n : Int} (writes : first.Writes m)
  (writesOther : second.Writes n) (ordered : m ≤ n)

include writes writesOther ordered

theorem number_le_number_iff : first.number ≤ second.number ↔ ¬ IsBelowLeast m n := by
  rw [Int64.le_iff_toInt_le, writes.toInt_number, writesOther.toInt_number,
    Number.held_le_held_iff ordered]

theorem decide_number_lt :
    decide (second.number < first.number) = decide (IsBelowLeast m n) := by
  rw [decide_eq_decide, Int64.lt_iff_toInt_lt, writes.toInt_number, writesOther.toInt_number,
    Number.held_lt_held_iff ordered]

theorem invoke_greater (draw : UInt32) :
    invoke draw "greater" [first, second] =
      .ok (.value (.boolean (IsBelowLeast m n)) .all) := by
  have member : ⟨"greater", .greater, .exact 2, .arithmetic⟩ ∈ Catalog.entries := by
    decide
  rw [invoke_of_mem draw member rfl, ← decide_number_lt writes writesOther ordered]
  rfl

theorem invoke_ifGreater (draw : UInt32) (chosen other : Argument) :
    invoke draw "ifgreater" [first, second, chosen, other] =
      .ok (if IsBelowLeast m n then .value chosen.atom (.argument 2)
        else .value other.atom (.argument 3)) := by
  have member : ⟨"ifgreater", .ifGreater, .atLeast 0, .control⟩ ∈ Catalog.entries := by
    decide
  have branched : run draw .ifGreater [first, second, chosen, other] =
      .ok (choose [first, second, chosen, other] (branch (second.number < first.number))) :=
    rfl
  rw [invoke_of_mem draw member rfl, branched, decide_number_lt writes writesOther ordered]
  split_ifs with below
  · rw [decide_eq_true below]
    rfl
  · rw [decide_eq_false below]
    rfl

end Pairs

/-! ## Several numbers -/

section Numbers

variable {numbers : List Int}

theorem min?_map_held {lowest : Int} (found : numbers.min? = some lowest) :
    (numbers.map held).min? =
      some (if lowest < least ∧ least ∈ numbers then least else held lowest) := by
  rw [List.min?_eq_some_iff] at found ⊢
  obtain ⟨member, lower⟩ := found
  rw [List.forall_mem_map]
  split_ifs with overtaken
  · have leastHeld : held least = least := if_pos rfl
    refine ⟨leastHeld ▸ List.mem_map_of_mem overtaken.2, ?_⟩
    intro n _
    exact Number.least_le_held n
  · refine ⟨List.mem_map_of_mem member, ?_⟩
    intro n isNumber
    rw [Number.held_le_held_iff (lower n isNumber)]
    rintro ⟨below, rfl⟩
    exact overtaken ⟨below, isNumber⟩

theorem max?_map_held {greatest : Int} (found : numbers.max? = some greatest) :
    (numbers.map held).max? =
      some (if greatest = least ∧ ∃ n ∈ numbers, n < least then -(largest : Int)
        else held greatest) := by
  rw [List.max?_eq_some_iff] at found ⊢
  obtain ⟨member, upper⟩ := found
  rw [List.forall_mem_map]
  split_ifs with overtaken
  · obtain ⟨rfl, n, isNumber, below⟩ := overtaken
    refine ⟨Number.held_of_lt_least below ▸ List.mem_map_of_mem isNumber, ?_⟩
    intro n isNumber
    exact Number.held_le_of_le_least (upper n isNumber)
  · refine ⟨List.mem_map_of_mem member, ?_⟩
    intro n isNumber
    rw [Number.held_le_held_iff (upper n isNumber)]
    rintro ⟨below, isLeast⟩
    exact overtaken ⟨isLeast, n, isNumber, isLeast ▸ below⟩

end Numbers

/-- An operation on 64 bits does on every two numbers what another does on integers, and so
on the numbers of a list. -/
theorem toInt_foldl {operation : Int64 → Int64 → Int64} {wide : Int → Int → Int}
    (follows : ∀ a b, (operation a b).toInt = wide a.toInt b.toInt) (first : Int64)
    (rest : List Int64) :
    (rest.foldl operation first).toInt = (rest.map Int64.toInt).foldl wide first.toInt := by
  induction rest generalizing first with
  | nil =>
      rfl
  | cons next rest inductionHypothesis =>
      rw [List.foldl_cons, inductionHypothesis, follows, List.map_cons, List.foldl_cons]

section Lists

variable {arguments : List Argument}

theorem minimum_eq {lowest : Int64}
    (found : ((arguments.map Argument.number).map Int64.toInt).min? = some lowest.toInt) :
    minimum arguments = numberAtom lowest := by
  cases arguments with
  | nil =>
      contradiction
  | cons first rest =>
      have follows (a b : Int64) : (if b < a then b else a).toInt = min a.toInt b.toInt := by
        simp only [Int64.lt_iff_toInt_lt]
        split_ifs <;> omega
      rw [List.map_cons, List.map_cons, List.min?_cons', Option.some.injEq,
        ← toInt_foldl follows, Int64.toInt_inj] at found
      rw [minimum, combine, found]

theorem maximum_eq {greatest : Int64}
    (found : ((arguments.map Argument.number).map Int64.toInt).max? = some greatest.toInt) :
    maximum arguments = numberAtom greatest := by
  cases arguments with
  | nil =>
      contradiction
  | cons first rest =>
      have follows (a b : Int64) : (if a < b then b else a).toInt = max a.toInt b.toInt := by
        simp only [Int64.lt_iff_toInt_lt]
        split_ifs <;> omega
      rw [List.map_cons, List.map_cons, List.max?_cons', Option.some.injEq,
        ← toInt_foldl follows, Int64.toInt_inj] at found
      rw [maximum, combine, found]

variable {numbers : List Int} (writes : List.Forall₂ Argument.Writes arguments numbers)

include writes

theorem map_toInt_number : (arguments.map Argument.number).map Int64.toInt = numbers.map held := by
  induction writes with
  | nil =>
      rfl
  | cons written _ inductionHypothesis =>
      rw [List.map_cons, List.map_cons, List.map_cons, written.toInt_number,
        inductionHypothesis]

theorem invoke_min (draw : UInt32) {lowest : Int} (found : numbers.min? = some lowest) :
    invoke draw "min" arguments =
      .ok (.value (numberAtom (if lowest < least ∧ least ∈ numbers then Int64.minValue
        else Number.ofText (Number.decimal lowest))) .all) := by
  have member : ⟨"min", .min, .atLeast 0, .arithmetic⟩ ∈ Catalog.entries := by
    decide
  have accepted : (Arity.atLeast 0).accepts arguments.length = true := by
    simp [Arity.accepts]
  have smallest : ((arguments.map Argument.number).map Int64.toInt).min? =
      some (if lowest < least ∧ least ∈ numbers then Int64.minValue
        else Number.ofText (Number.decimal lowest)).toInt := by
    rw [map_toInt_number writes, min?_map_held found, apply_ite Int64.toInt,
      (Number.writes_decimal lowest).toInt_ofText]
    rfl
  rw [invoke_of_mem draw member accepted, ← minimum_eq smallest]
  rfl

theorem invoke_max (draw : UInt32) {greatest : Int} (found : numbers.max? = some greatest) :
    invoke draw "max" arguments =
      .ok (.value (numberAtom
        (if greatest = least ∧ ∃ n ∈ numbers, n < least then -Int64.maxValue
          else Number.ofText (Number.decimal greatest))) .all) := by
  have member : ⟨"max", .max, .atLeast 0, .arithmetic⟩ ∈ Catalog.entries := by
    decide
  have accepted : (Arity.atLeast 0).accepts arguments.length = true := by
    simp [Arity.accepts]
  have largest : ((arguments.map Argument.number).map Int64.toInt).max? =
      some (if greatest = least ∧ ∃ n ∈ numbers, n < least then -Int64.maxValue
        else Number.ofText (Number.decimal greatest)).toInt := by
    rw [map_toInt_number writes, max?_map_held found, apply_ite Int64.toInt,
      (Number.writes_decimal greatest).toInt_ofText]
    rfl
  rw [invoke_of_mem draw member accepted, ← maximum_eq largest]
  rfl

end Lists

/-! ## All comparisons -/

/-- Numbers of any size are compared in their order, and the least and the greatest of a list
are found, unless the least number of 64 bits is compared with one below it.  It is read as
it is, and those below it are read as the number that follows it. -/
theorem comparisons_keep_order_but_below_least (draw : UInt32) :
    (∀ (first second : Argument) (m n : Int), first.Writes m → second.Writes n → m ≤ n →
      (first.number ≤ second.number ↔ ¬ IsBelowLeast m n) ∧
      invoke draw "greater" [first, second] =
        .ok (.value (.boolean (IsBelowLeast m n)) .all) ∧
      ∀ chosen other : Argument,
        invoke draw "ifgreater" [first, second, chosen, other] =
          .ok (if IsBelowLeast m n then .value chosen.atom (.argument 2)
            else .value other.atom (.argument 3))) ∧
    ∀ (arguments : List Argument) (numbers : List Int) (lowest greatest : Int),
      List.Forall₂ Argument.Writes arguments numbers →
      numbers.min? = some lowest → numbers.max? = some greatest →
      invoke draw "min" arguments =
        .ok (.value (numberAtom (if lowest < least ∧ least ∈ numbers then Int64.minValue
          else Number.ofText (Number.decimal lowest))) .all) ∧
      invoke draw "max" arguments =
        .ok (.value (numberAtom
          (if greatest = least ∧ ∃ n ∈ numbers, n < least then -Int64.maxValue
            else Number.ofText (Number.decimal greatest))) .all) := by
  constructor
  · intro first second m n writes writesOther ordered
    exact ⟨number_le_number_iff writes writesOther ordered,
      invoke_greater writes writesOther ordered draw,
      invoke_ifGreater writes writesOther ordered draw⟩
  · intro arguments numbers lowest greatest writes foundLowest foundGreatest
    exact ⟨invoke_min writes draw foundLowest, invoke_max writes draw foundGreatest⟩

/-- Numbers far beyond 64 bits are compared in their order. -/
theorem comparisons_keep_order_but_below_least_sample :
    let first : Argument := ⟨.literal "-18446744073709551616", false⟩
    let second : Argument := ⟨.literal "18446744073709551616", false⟩
    first.Writes (-18446744073709551616) ∧ second.Writes 18446744073709551616 ∧
      first.number ≤ second.number ∧
      invoke 0 "greater" [first, second] = .ok (.value (.boolean false) .all) ∧
      List.Forall₂ Argument.Writes [second, first]
        [18446744073709551616, -18446744073709551616] ∧
      invoke 0 "min" [second, first] = .ok (.value (.found "-9223372036854775807") .all) := by
  intro first second
  have writes : first.Writes (-18446744073709551616) := by
    have text : first.characters = Number.decimal (-18446744073709551616) := by
      cbv
    exact ⟨rfl, text ▸ Number.writes_decimal _⟩
  have writesOther : second.Writes 18446744073709551616 := by
    have text : second.characters = Number.decimal 18446744073709551616 := by
      cbv
    exact ⟨rfl, text ▸ Number.writes_decimal _⟩
  have both : List.Forall₂ Argument.Writes [second, first]
      [18446744073709551616, -18446744073709551616] :=
    .cons writesOther (.cons writes .nil)
  have coerced : numberAtom (Number.ofText (Number.decimal (-18446744073709551616))) =
      .found "-9223372036854775807" := by
    cbv
  obtain ⟨pairs, lists⟩ := comparisons_keep_order_but_below_least 0
  obtain ⟨kept, greater, -⟩ := pairs first second _ _ writes writesOther (by decide)
  obtain ⟨lowest, -⟩ := lists [second, first] _ (-18446744073709551616) _ both rfl rfl
  rw [if_neg (by decide), coerced] at lowest
  exact ⟨writes, writesOther, kept.mpr (by decide), greater, both, lowest⟩

/-- The number below the least one is taken for the greater of the two, so that both change
places as the least and the greatest. -/
theorem below_least_is_greater :
    let below : Argument := ⟨.literal "-9223372036854775809", false⟩
    let lowest : Argument := ⟨.literal "-9223372036854775808", false⟩
    below.Writes (-9223372036854775809) ∧ lowest.Writes (-9223372036854775808) ∧
      ¬ below.number ≤ lowest.number ∧
      formatOnce "$greater(-9223372036854775809,-9223372036854775808)"
        (.ofFields .empty) (fun _ => 0) = .ok (.boolean true) ∧
      invoke 0 "min" [below, lowest] = .ok (.value (.found "-9223372036854775808") .all) ∧
      invoke 0 "max" [below, lowest] = .ok (.value (.found "-9223372036854775807") .all) := by
  intro below lowest
  have writes : below.Writes (-9223372036854775809) := by
    have text : below.characters = Number.decimal (-9223372036854775809) := by
      cbv
    exact ⟨rfl, text ▸ Number.writes_decimal _⟩
  have writesLowest : lowest.Writes (-9223372036854775808) := by
    have text : lowest.characters = Number.decimal (-9223372036854775808) := by
      cbv
    exact ⟨rfl, text ▸ Number.writes_decimal _⟩
  refine ⟨writes, writesLowest, ?_, ?_, ?_, ?_⟩
  · rw [number_le_number_iff writes writesLowest (by decide)]
    decide
  · cbv
  · cbv
  · cbv

end Functions

end TitleFormatting
