import TitleFormatting.Proofs.Compilation.Concatenation
import TitleFormatting.Proofs.Functions.Calls
import TitleFormatting.Proofs.Number.Reading
import TitleFormatting.Proofs.Template.Assembling

/-!
# Quotients and remainders

Calls of the two functions that divide are folds of one division after the other.
A division by zero is passed over.  So is the one division whose quotient is too
large for 64 bits, by both functions alike, although its remainder is zero.  Every
other division has a quotient and a remainder that fit together.
-/

namespace TitleFormatting

/-! ## One division -/

namespace Number

/-- The quotient, or the dividend where there is none. -/
def quotient (dividend divisor : Int64) : Int64 :=
  (quotient? dividend divisor).getD dividend

/-- The remainder, or the dividend where there is none. -/
def remainder (dividend divisor : Int64) : Int64 :=
  (remainder? dividend divisor).getD dividend

/-- The quotient and the remainder fit together. -/
structure IsDivision (dividend divisor quotient remainder : Int64) : Prop where
  restored : quotient * divisor + remainder = dividend
  smaller : remainder.toInt.natAbs < divisor.toInt.natAbs
  signed : remainder = 0 ∨ remainder.toInt.sign = dividend.toInt.sign

theorem divides_iff {dividend divisor : Int64} :
    divides divisor dividend = true ↔
      divisor ≠ 0 ∧ ¬ (dividend = Int64.minValue ∧ divisor = -1) := by
  simp [divides, imp_iff_not_or]

theorem eq_dividend_of_divides_eq_false {dividend divisor : Int64}
    (none : divides divisor dividend = false) :
    quotient dividend divisor = dividend ∧ remainder dividend divisor = dividend := by
  have refused : ¬ divides divisor dividend = true := by
    simp [none]
  rw [quotient, quotient?, if_neg refused, remainder, remainder?, if_neg refused]
  exact ⟨rfl, rfl⟩

theorem toInt_div {dividend divisor : Int64}
    (fits : ¬ (dividend = Int64.minValue ∧ divisor = -1)) :
    (dividend / divisor).toInt = dividend.toInt.tdiv divisor.toInt := by
  by_cases least : dividend = Int64.minValue
  · apply Int64.toInt_div_of_ne_right
    intro minusOne
    exact fits ⟨least, minusOne⟩
  · exact Int64.toInt_div_of_ne_left _ _ least

/-- A truncating remainder that is not zero has the sign of the dividend. -/
theorem sign_tmod {dividend divisor : Int} (nonzero : dividend.tmod divisor ≠ 0) :
    (dividend.tmod divisor).sign = dividend.sign := by
  by_cases negative : dividend < 0
  · have opposite : 0 ≤ (-dividend).tmod divisor := by
      apply Int.tmod_nonneg
      omega
    rw [Int.neg_tmod] at opposite
    have below : dividend.tmod divisor < 0 := by
      omega
    rw [Int.sign_eq_neg_one_of_neg below, Int.sign_eq_neg_one_of_neg negative]
  · have nonnegative : 0 ≤ dividend.tmod divisor := by
      apply Int.tmod_nonneg
      omega
    have above : 0 < dividend.tmod divisor := by
      omega
    have positive : 0 < dividend := by
      by_contra zero
      apply nonzero
      obtain rfl : dividend = 0 := by
        omega
      exact Int.zero_tmod divisor
    rw [Int.sign_eq_one_of_pos above, Int.sign_eq_one_of_pos positive]

theorem isDivision_of_divides {dividend divisor : Int64}
    (proper : divides divisor dividend = true) :
    IsDivision dividend divisor (quotient dividend divisor)
      (remainder dividend divisor) := by
  obtain ⟨nonzero, fits⟩ := divides_iff.mp proper
  have nonzeroInt : divisor.toInt ≠ 0 := by
    intro zero
    apply nonzero
    apply Int64.toInt_inj.mp
    exact zero
  have quotientInt := toInt_div fits
  have remainderInt : (dividend % divisor).toInt = dividend.toInt.tmod divisor.toInt :=
    Int64.toInt_mod _ _
  have whole : dividend.toInt.tdiv divisor.toInt * divisor.toInt +
      dividend.toInt.tmod divisor.toInt = dividend.toInt :=
    Int.tdiv_mul_add_tmod _ _
  rw [quotient, quotient?, if_pos proper, remainder, remainder?, if_pos proper,
    Option.getD_some, Option.getD_some]
  refine ⟨?restored, ?smaller, ?signed⟩
  case restored =>
    rw [← quotientInt, ← remainderInt] at whole
    have reduced := congrArg Int64.ofInt whole
    rw [Int64.ofInt_add, Int64.ofInt_mul, Int64.ofInt_toInt, Int64.ofInt_toInt,
      Int64.ofInt_toInt, Int64.ofInt_toInt] at reduced
    exact reduced
  case smaller =>
    rw [remainderInt, Int.natAbs_tmod]
    apply Nat.mod_lt
    omega
  case signed =>
    by_cases zero : dividend % divisor = 0
    · exact Or.inl zero
    · right
      have nonzeroRemainder : (dividend % divisor).toInt ≠ 0 := by
        intro zeroInt
        apply zero
        apply Int64.toInt_inj.mp
        exact zeroInt
      rw [remainderInt] at nonzeroRemainder ⊢
      exact sign_tmod nonzeroRemainder

/-- No remainder of a division by minus one is the least number. -/
theorem not_isDivision_least :
    ¬ IsDivision Int64.minValue (-1) Int64.minValue Int64.minValue := by
  intro divided
  have smaller := divided.smaller
  revert smaller
  decide

theorem isDivision_iff {dividend divisor : Int64} (nonzero : divisor ≠ 0) :
    IsDivision dividend divisor (quotient dividend divisor) (remainder dividend divisor) ↔
      ¬ (dividend = Int64.minValue ∧ divisor = -1) := by
  constructor
  · rintro divided ⟨rfl, rfl⟩
    exact not_isDivision_least divided
  · intro fits
    exact isDivision_of_divides (divides_iff.mpr ⟨nonzero, fits⟩)

end Number

/-! ## Calls -/

namespace Functions

open Number

theorem invoke_div (draw : UInt32) (first : Argument) (rest : List Argument) :
    invoke draw "div" (first :: rest) =
      .ok (.value
        (numberAtom ((rest.map Argument.number).foldl quotient first.number)) .all) := by
  have member : ⟨"div", .div, .atLeast 0, .arithmetic⟩ ∈ Catalog.entries := by
    decide
  rw [invoke_of_mem draw member rfl]
  rfl

theorem invoke_mod (draw : UInt32) (first : Argument) (rest : List Argument) :
    invoke draw "mod" (first :: rest) =
      .ok (.value
        (numberAtom ((rest.map Argument.number).foldl remainder first.number)) .all) := by
  have member : ⟨"mod", .mod, .atLeast 0, .arithmetic⟩ ∈ Catalog.entries := by
    decide
  rw [invoke_of_mem draw member rfl]
  rfl

end Functions

/-! ## Calls on numerals -/

/-- The value of a numeral that is an argument of a call. -/
def Argument.ofNumber (n : Int64) : Argument :=
  ⟨.literal (String.ofList (Number.decimal n.toInt)), false⟩

/-- An argument whose text is a numeral is the number that the numeral was written
for. -/
theorem Argument.number_eq_of_characters {argument : Argument} {n : Int64}
    (unquoted : argument.quoted = false)
    (written : argument.characters = Number.decimal n.toInt) : argument.number = n := by
  have signed : ¬ argument.quoted = true := by
    rw [unquoted]
    exact Bool.false_ne_true
  rw [number, if_neg signed, written, Number.ofText_decimal]

theorem Token.isWellFormed_openCall {name : String} (nonempty : name.toList ≠ [])
    (each : name.toList.all isFunctionCharacter = true) : (openCall name).IsWellFormed :=
  ⟨nonempty, List.all_eq_true.mp each⟩

/-- A number as it stands in a template. -/
def Template.numeral (n : Int64) : Template :=
  ⟨[.literal (String.ofList (Number.decimal n.toInt))]⟩

/-- The template that calls a function on numbers and is nothing else. -/
def Template.callOn (name : String) (numbers : List Int64) : Template :=
  ⟨[.call name (numbers.map numeral) 0]⟩

example : (Template.callOn "div" [7, -2]).source = "$div(7,-2)" := by
  cbv

namespace Template

open Number

theorem isPlainCharacter_of_mem_decimal {n : Int} {c : Char} (member : c ∈ decimal n) :
    Token.isPlainCharacter c = true ∧ openParentheses 0 c = some 0 := by
  have each : ∀ value < 10,
      Token.isPlainCharacter (Nat.digitChar value) = true ∧
        openParentheses 0 (Nat.digitChar value) = some 0 := by
    decide
  rcases mem_decimal member with rfl | ⟨value, small, rfl⟩
  · decide
  · exact each value small

theorem isCanonical_numeral (n : Int64) :
    (numeral n).IsCanonical ∧ (numeral n).IsBalanced := by
  have written : (String.ofList (decimal n.toInt)).toList = decimal n.toInt :=
    String.toList_ofList
  have balanced (text : List Char) (digits : ∀ c ∈ text, c ∈ decimal n.toInt) :
      text.foldlM openParentheses 0 = some 0 := by
    induction text with
    | nil =>
        rfl
    | cons c rest inductionHypothesis =>
        obtain ⟨first, others⟩ := List.forall_mem_cons.mp digits
        rw [List.foldlM_cons, (isPlainCharacter_of_mem_decimal first).2]
        exact inductionHypothesis others
  constructor
  · refine ⟨List.isChain_singleton _, ?_, trivial⟩
    rw [Segment.IsCanonical, written]
    refine ⟨decimal_ne_nil _, ?_⟩
    intro c member
    exact (isPlainCharacter_of_mem_decimal member).1
  · have plain : (numeral n).plainCharacters = decimal n.toInt := by
      simp [plainCharacters, numeral, Segment.plainCharacters]
    rw [IsBalanced, plain]
    exact balanced _ fun _ member => member

theorem isCanonical_callOn {name : String} (numbers : List Int64)
    (named : (Token.openCall name).IsWellFormed) : (callOn name numbers).IsCanonical := by
  have arguments : ArgumentsCanonical (numbers.map numeral) := by
    apply argumentsCanonical_iff.mpr
    intro argument member
    obtain ⟨n, -, rfl⟩ := List.mem_map.mp member
    exact isCanonical_numeral n
  have given : numbers.map numeral ≠ [.empty] := by
    intro empty
    obtain ⟨n, -, nothing⟩ := List.map_eq_singleton_iff.mp empty
    exact List.cons_ne_nil _ _ (congrArg segments nothing)
  refine ⟨List.isChain_singleton _, ?_, trivial⟩
  rw [Segment.IsCanonical]
  exact ⟨named, given, arguments⟩

theorem nesting_callOn (name : String) (numbers : List Int64) :
    (callOn name numbers).nesting = 1 := by
  have flat : argumentNesting (numbers.map numeral) ≤ 0 := by
    apply argumentNesting_le_iff.mpr
    intro argument member
    obtain ⟨n, -, rfl⟩ := List.mem_map.mp member
    exact Nat.le_refl 0
  rw [callOn, nesting, segmentNesting, segmentNesting, Segment.nesting]
  omega

theorem placed_callOn (name : String) (numbers : List Int64) :
    (callOn name numbers).placed 0 = callOn name numbers := by
  have kept (start : Nat) :
      placedArguments (numbers.map numeral) start = numbers.map numeral := by
    induction numbers generalizing start with
    | nil =>
        rfl
    | cons n rest inductionHypothesis =>
        rw [List.map_cons, placedArguments, inductionHypothesis]
        rfl
  rw [callOn, placed, placedSegments, placedSegments, Segment.placed, kept]

end Template

theorem argumentValues_map_numeral (environment : Environment) (numbers : List Int64) :
    argumentValues environment (numbers.map Template.numeral) =
      .ok (numbers.map Argument.ofNumber) := by
  induction numbers with
  | nil =>
      rfl
  | cons n rest inductionHypothesis =>
      have valued : (Template.numeral n).value environment =
          .ok ⟨.literal (String.ofList (Number.decimal n.toInt)) ++ .absent, 0⟩ := by
        rfl
      rw [List.map_cons, argumentValues, inductionHypothesis, valued,
        Atom.append_absent]
      rfl

theorem formatOnce_callOn {name : String} {numbers : List Int64} {atom : Atom}
    {source : Origin} (track : Track) (draw : Nat → UInt32)
    (named : (Token.openCall name).IsWellFormed)
    (invoked : invoke (draw 0) name (numbers.map Argument.ofNumber) =
      .ok (.value atom source)) :
    formatOnce (Template.callOn name numbers).source track draw = .ok atom := by
  have fits : (Template.callOn name numbers).nesting ≤ ({} : Options).maxDepth := by
    rw [Template.nesting_callOn]
    decide
  have read := Template.parse_source (Template.isCanonical_callOn numbers named) fits
  rw [Template.placed_callOn] at read
  have valued : (Template.callOn name numbers).value ⟨track, {}, draw⟩ =
      .ok ⟨atom ++ .absent, if atom.isPresent then 1 else 0⟩ := by
    have nonempty : (Template.callOn name numbers).segments ≠ [] :=
      List.cons_ne_nil _ _
    rw [Template.value_eq_segmentsValue _ nonempty, Template.callOn, segmentsValue,
      Segment.value, argumentValues_map_numeral]
    simp only [bind, Except.bind, invoked]
    rfl
  have compiled : Compiled.compile (Template.callOn name numbers).source {} =
      .ok ⟨(Template.callOn name numbers).source, Template.callOn name numbers⟩ := by
    rw [Compiled.compile, read]
    rfl
  rw [formatOnce, compiled]
  dsimp only
  rw [Compiled.apply, Compiled.applyWithMarkers_eq, valued, Atom.append_absent]
  rfl

namespace Functions

open Number

theorem number_ofNumber (n : Int64) : (Argument.ofNumber n).number = n :=
  Argument.number_eq_of_characters rfl String.toList_ofList

theorem map_number_map_ofNumber (numbers : List Int64) :
    (numbers.map Argument.ofNumber).map Argument.number = numbers := by
  induction numbers with
  | nil =>
      rfl
  | cons n rest inductionHypothesis =>
      rw [List.map_cons, List.map_cons, inductionHypothesis, number_ofNumber]

/-- Quotient and remainder fit together, except where the least number is divided by minus
one: there, as where the divisor is zero, both are the dividend. Calls of the two functions
that divide are folds of them, and what a call renders is read as the number that it was
written for. -/
theorem quotient_fits_remainder (dividend divisor : Int64) :
    (divisor ≠ 0 →
      (IsDivision dividend divisor (quotient dividend divisor)
          (remainder dividend divisor) ↔
        ¬ (dividend = Int64.minValue ∧ divisor = -1))) ∧
    (divisor = 0 ∨ (dividend = Int64.minValue ∧ divisor = -1) →
      quotient dividend divisor = dividend ∧ remainder dividend divisor = dividend) ∧
    (∀ (track : Track) (draw : Nat → UInt32) (rest : List Int64),
      formatOnce (Template.callOn "div" (dividend :: rest)).source track draw =
        .ok (numberAtom (rest.foldl quotient dividend)) ∧
      formatOnce (Template.callOn "mod" (dividend :: rest)).source track draw =
        .ok (numberAtom (rest.foldl remainder dividend))) ∧
    (∀ n : Int64, (⟨numberAtom n, false⟩ : Argument).number = n) ∧
    ∀ (draw : UInt32) (first : Argument) (rest : List Argument),
      invoke draw "div" (first :: rest) =
        .ok (.value
          (numberAtom ((rest.map Argument.number).foldl quotient first.number)) .all) ∧
      invoke draw "mod" (first :: rest) =
        .ok (.value
          (numberAtom ((rest.map Argument.number).foldl remainder first.number))
            .all) := by
  refine ⟨isDivision_iff, ?undivided, ?sources, ?readBack, ?calls⟩
  case undivided =>
    intro improper
    apply eq_dividend_of_divides_eq_false
    by_contra divides
    rw [Bool.not_eq_false, divides_iff] at divides
    rcases improper with zero | least
    · exact divides.1 zero
    · exact divides.2 least
  case sources =>
    intro track draw rest
    constructor
    · apply formatOnce_callOn track draw (Token.isWellFormed_openCall (by decide) rfl)
      rw [List.map_cons, invoke_div, map_number_map_ofNumber, number_ofNumber]
    · apply formatOnce_callOn track draw (Token.isWellFormed_openCall (by decide) rfl)
      rw [List.map_cons, invoke_mod, map_number_map_ofNumber, number_ofNumber]
  case readBack =>
    intro n
    exact Argument.number_eq_of_characters rfl String.toList_ofList
  case calls =>
    intro draw first rest
    exact ⟨invoke_div draw first rest, invoke_mod draw first rest⟩

theorem quotient_fits_remainder_sample :
    (2 : Int64) ≠ 0 ∧ IsDivision (-7) 2 (-3) (-1) ∧
      quotient 7 0 = 7 ∧ remainder 7 0 = 7 := by
  have nonzero : (2 : Int64) ≠ 0 := by
    decide
  have divided := ((quotient_fits_remainder (-7) 2).1 nonzero).mpr (by decide)
  have passed := (quotient_fits_remainder 7 0).2.1 (Or.inl rfl)
  have quotientIs : quotient (-7) 2 = -3 := by
    decide
  have remainderIs : remainder (-7) 2 = -1 := by
    decide
  rw [quotientIs, remainderIs] at divided
  exact ⟨nonzero, divided, passed⟩

theorem mod_least_by_minus_one :
    formatOnce "$div(-9223372036854775808,-1)" (.ofFields .empty) (fun _ => 0) =
      .ok (.found "-9223372036854775808") ∧
    formatOnce "$mod(-9223372036854775808,-1)" (.ofFields .empty) (fun _ => 0) =
      .ok (.found "-9223372036854775808") ∧
    ¬ IsDivision Int64.minValue (-1) Int64.minValue Int64.minValue := by
  refine ⟨?_, ?_, not_isDivision_least⟩
  · cbv
  · cbv

end Functions

end TitleFormatting
