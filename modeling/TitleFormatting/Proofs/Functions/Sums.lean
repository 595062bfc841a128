import Mathlib.Algebra.BigOperators.Group.List.Basic
import TitleFormatting.Proofs.Functions.Calls
import TitleFormatting.Proofs.Functions.Division

/-!
# Sums and products

Sums and products of arguments wrap at every step, and nothing is lost by that: the result
is the exact sum or product, reduced once.  A result that is written as a text and read
again by another call is the same number, so that calls may be put into one another.
-/

namespace TitleFormatting

namespace Number

/-- Reducing every step reduces the result. -/
theorem foldl_ofInt {operation : Int64 → Int64 → Int64} {exact : Int → Int → Int}
    (reduced : ∀ a b, Int64.ofInt (exact a b) = operation (Int64.ofInt a) (Int64.ofInt b))
    (numbers : List Int64) (start : Int) :
    numbers.foldl operation (Int64.ofInt start) =
      Int64.ofInt ((numbers.map Int64.toInt).foldl exact start) := by
  induction numbers generalizing start with
  | nil =>
      rfl
  | cons n rest inductionHypothesis =>
      have step : operation (Int64.ofInt start) n = Int64.ofInt (exact start n.toInt) := by
        rw [reduced, Int64.ofInt_toInt]
      rw [List.foldl_cons, step, inductionHypothesis]
      rfl

theorem foldl_sub (numbers : List Int) (start : Int) :
    numbers.foldl (· - ·) start = start - numbers.sum := by
  induction numbers generalizing start with
  | nil =>
      rw [List.foldl_nil, List.sum_nil, sub_zero]
  | cons n rest inductionHypothesis =>
      rw [List.foldl_cons, inductionHypothesis, List.sum_cons, sub_sub]

end Number

/-- The result of a call, as an argument of another call. -/
def Argument.ofResult (atom : Atom) : Argument := ⟨atom, false⟩

namespace Functions

open Number

/-! ## Calls -/

/-- The exact numbers of the arguments. -/
def numbersOf (arguments : List Argument) : List Int :=
  (arguments.map Argument.number).map Int64.toInt

theorem numbersOf_append (first second : List Argument) :
    numbersOf (first ++ second) = numbersOf first ++ numbersOf second := by
  rw [numbersOf, List.map_append, List.map_append]
  rfl

theorem numbersOf_nil : numbersOf [] = [] :=
  rfl

theorem numbersOf_cons (first : Argument) (rest : List Argument) :
    numbersOf (first :: rest) = first.number.toInt :: numbersOf rest :=
  rfl

theorem numbersOf_perm {first second : List Argument} (permuted : first.Perm second) :
    (numbersOf first).Perm (numbersOf second) := by
  exact (permuted.map _).map _

theorem add_eq (arguments : List Argument) :
    add arguments = numberAtom (Int64.ofInt (numbersOf arguments).sum) := by
  have folded := foldl_ofInt Int64.ofInt_add (arguments.map Argument.number) 0
  rw [List.sum_eq_foldl, add, numbersOf]
  exact congrArg numberAtom folded

theorem mul_eq (arguments : List Argument) :
    mul arguments = numberAtom (Int64.ofInt (numbersOf arguments).prod) := by
  have folded := foldl_ofInt Int64.ofInt_mul (arguments.map Argument.number) 1
  rw [List.prod_eq_foldl, mul, numbersOf]
  exact congrArg numberAtom folded

theorem sub_cons_eq (first : Argument) (rest : List Argument) :
    sub (first :: rest) =
      numberAtom (Int64.ofInt (first.number.toInt - (numbersOf rest).sum)) := by
  have folded := foldl_ofInt Int64.ofInt_sub (rest.map Argument.number) first.number.toInt
  rw [foldl_sub, Int64.ofInt_toInt] at folded
  exact congrArg numberAtom folded

/-- A number that a call yields is read again by the call around it. -/
theorem number_ofResult_numberAtom (n : Int64) :
    (Argument.ofResult (numberAtom n)).number = n := by
  apply Argument.number_eq_of_characters
  · rfl
  · exact String.toList_ofList

theorem numberAtom_ofInt (value : Int) :
    numberAtom (Int64.ofInt value) =
      .found (String.ofList (decimal (value.bmod (2 ^ 64)))) := by
  rw [numberAtom, Int64.toInt_ofInt]
  rfl

theorem add_nested (first middle last : List Argument) :
    add (first ++ Argument.ofResult (add middle) :: last) = add (first ++ middle ++ last) := by
  rw [add_eq middle, add_eq, add_eq]
  simp only [numbersOf_append, numbersOf_cons, number_ofResult_numberAtom, List.sum_append,
    List.sum_cons, Int64.ofInt_add, Int64.ofInt_toInt, Int64.add_assoc]

theorem mul_nested (first middle last : List Argument) :
    mul (first ++ Argument.ofResult (mul middle) :: last) = mul (first ++ middle ++ last) := by
  rw [mul_eq middle, mul_eq, mul_eq]
  simp only [numbersOf_append, numbersOf_cons, number_ofResult_numberAtom, List.prod_append,
    List.prod_cons, Int64.ofInt_mul, Int64.ofInt_toInt, Int64.mul_assoc]

theorem sub_nested (first : Argument) (rest : List Argument) :
    sub [first, Argument.ofResult (add rest)] = sub (first :: rest) := by
  rw [add_eq, sub_cons_eq, sub_cons_eq]
  simp only [numbersOf_cons, numbersOf_nil, number_ofResult_numberAtom, List.sum_cons,
    List.sum_nil, add_zero, Int64.ofInt_sub, Int64.ofInt_toInt]

theorem invoke_add (draw : UInt32) (arguments : List Argument) :
    invoke draw "add" arguments = .ok (.value (add arguments) .all) := by
  have member : ⟨"add", .add, .atLeast 0, .arithmetic⟩ ∈ Catalog.entries := by
    decide
  exact invoke_of_mem draw member rfl

theorem invoke_sub (draw : UInt32) (arguments : List Argument) :
    invoke draw "sub" arguments = .ok (.value (sub arguments) .all) := by
  have member : ⟨"sub", .sub, .atLeast 0, .arithmetic⟩ ∈ Catalog.entries := by
    decide
  exact invoke_of_mem draw member rfl

theorem invoke_mul (draw : UInt32) (arguments : List Argument) :
    invoke draw "mul" arguments = .ok (.value (mul arguments) .all) := by
  have member : ⟨"mul", .mul, .atLeast 0, .arithmetic⟩ ∈ Catalog.entries := by
    decide
  exact invoke_of_mem draw member rfl

/-- Sums may be taken of sums and products of products, in any order of the arguments, and a
sum may be taken off at once.  Every result is the exact one reduced to 64 bits, present
and true. -/
theorem sums_compose (first : Argument) (before middle behind : List Argument)
    (draw : UInt32) :
    (∀ arguments : List Argument,
      invoke draw "add" arguments = .ok (.value (add arguments) .all) ∧
      invoke draw "mul" arguments = .ok (.value (mul arguments) .all) ∧
      invoke draw "sub" (first :: arguments) =
        .ok (.value (sub (first :: arguments)) .all) ∧
      add arguments =
        .found (String.ofList (decimal ((numbersOf arguments).sum.bmod (2 ^ 64)))) ∧
      mul arguments =
        .found (String.ofList (decimal ((numbersOf arguments).prod.bmod (2 ^ 64)))) ∧
      sub (first :: arguments) =
        .found (String.ofList (decimal
          ((first.number.toInt - (numbersOf arguments).sum).bmod (2 ^ 64))))) ∧
    add (before ++ Argument.ofResult (add middle) :: behind) =
      add (before ++ middle ++ behind) ∧
    mul (before ++ Argument.ofResult (mul middle) :: behind) =
      mul (before ++ middle ++ behind) ∧
    (∀ permuted : List Argument, before.Perm permuted →
      add before = add permuted ∧ mul before = mul permuted) ∧
    sub (first :: behind) = sub [first, Argument.ofResult (add behind)] := by
  refine ⟨?_, add_nested before middle behind, mul_nested before middle behind, ?_,
    (sub_nested first behind).symm⟩
  · intro arguments
    refine ⟨invoke_add draw arguments, invoke_mul draw arguments, invoke_sub draw _, ?_, ?_, ?_⟩
    · rw [add_eq, numberAtom_ofInt]
    · rw [mul_eq, numberAtom_ofInt]
    · rw [sub_cons_eq, numberAtom_ofInt]
  · intro permuted permutation
    have numbers := numbersOf_perm permutation
    constructor
    · rw [add_eq, add_eq, numbers.sum_eq]
    · rw [mul_eq, mul_eq, numbers.prod_eq]

/-- The greatest number and one are added to the least number, which is read again as
such. -/
theorem sums_compose_greatest_and_one :
    let one : Argument := .ofNumber 1
    let greatest : Argument := .ofNumber Int64.maxValue
    [greatest, one].Perm [one, greatest] ∧
      add [greatest, one] = .found "-9223372036854775808" ∧
      add [one, greatest] = .found "-9223372036854775808" ∧
      add [one, Argument.ofResult (add [greatest, one])] = add [one, greatest, one] := by
  intro one greatest
  have permutation : [greatest, one].Perm [one, greatest] :=
    List.Perm.swap one greatest []
  obtain ⟨-, -, -, permuted, -⟩ := sums_compose one [greatest, one] [] [] 0
  obtain ⟨-, nested, -⟩ := sums_compose one [one] [greatest, one] [] 0
  have least : add [greatest, one] = .found "-9223372036854775808" := by
    decide
  refine ⟨permutation, least, ?_, nested⟩
  rw [← (permuted _ permutation).1, least]

end Functions

end TitleFormatting
