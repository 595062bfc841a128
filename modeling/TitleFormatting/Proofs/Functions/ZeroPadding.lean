import Mathlib.Data.Nat.Log
import TitleFormatting.Proofs.Functions.Calls
import TitleFormatting.Proofs.Number.Reading

/-!
# Zeros in front of numerals

Padding puts zeros between the sign of a numeral and its digits.  They fill the text up
to its width and do not change the number that is read from it, neither a decimal one
nor a hexadecimal one.
-/

namespace TitleFormatting

namespace Number

/-! ## Padding -/

theorem length_zeroPadded (width : Nat) (numeral : List Char) :
    (zeroPadded width numeral).length = max width numeral.length := by
  unfold zeroPadded
  split
  · simp only [List.length_cons, List.length_append, List.length_replicate]
    omega
  · simp only [List.length_append, List.length_replicate]
    omega

theorem zeroPadded_of_unsigned {numeral : List Char} (unsigned : numeral.head? ≠ some '-')
    (width : Nat) :
    zeroPadded width numeral = List.replicate (width - numeral.length) '0' ++ numeral := by
  unfold zeroPadded
  split
  · contradiction
  · rfl

/-- The zeros stand behind the sign. -/
theorem exists_zeroPadded_behindSign {digits : List Char}
    (allDigits : ∀ c ∈ digits, c.isDigit = true) (n : Int) (width : Nat) :
    ∃ zeros, zeroPadded width (behindSign n digits) =
      behindSign n (List.replicate zeros '0' ++ digits) := by
  by_cases negative : n < 0
  · refine ⟨width - (digits.length + 1), ?_⟩
    rw [behindSign, if_pos negative, behindSign, if_pos negative]
    rfl
  · have unsigned : digits.head? ≠ some '-' := by
      intro first
      have digit := allDigits '-' (List.mem_of_mem_head? first)
      contradiction
    refine ⟨width - digits.length, ?_⟩
    rw [behindSign, if_neg negative, behindSign, if_neg negative,
      zeroPadded_of_unsigned unsigned]

/-! ## Decimal numerals -/

theorem isDigit_of_mem_zeros_append {digits : List Char}
    (allDigits : ∀ c ∈ digits, c.isDigit = true) (zeros : Nat) :
    ∀ c ∈ List.replicate zeros '0' ++ digits, c.isDigit = true := by
  intro c member
  rcases List.mem_append.mp member with zero | digit
  · rw [List.eq_of_mem_replicate zero]
    rfl
  · exact allDigits c digit

theorem digitsValue_zeros_append (zeros : Nat) (digits : List Char) :
    digitsValue (List.replicate zeros '0' ++ digits) = digitsValue digits := by
  induction zeros with
  | zero =>
      rfl
  | succ zeros inductionHypothesis =>
      exact inductionHypothesis

/-- The text is the decimal numeral of this number with zeros up to a width. -/
structure IsPaddedDecimal (width : Nat) (number : Int64) (text : List Char) : Prop where
  length : text.length = max width (decimal number.toInt).length
  sign : ∃ digits, text = behindSign number.toInt digits ∧ ∀ c ∈ digits, c.isDigit = true
  readBack : ofText text = number

theorem isPaddedDecimal_zeroPadded (width : Nat) (number : Int64) :
    IsPaddedDecimal width number (zeroPadded width (decimal number.toInt)) := by
  obtain ⟨zeros, padded⟩ :=
    exists_zeroPadded_behindSign (isDigit_of_mem_numeral (n := number.toInt.natAbs))
      number.toInt width
  rw [← decimal_eq] at padded
  have allDigits := isDigit_of_mem_zeros_append
    (isDigit_of_mem_numeral (n := number.toInt.natAbs)) zeros
  refine ⟨length_zeroPadded _ _, ⟨_, padded, allDigits⟩, ?_⟩
  rw [padded]
  apply ofText_behindSign allDigits
  · exact List.append_ne_nil_of_right_ne_nil _ Nat.toDigits_ne_nil
  · rw [denoted_of_digits allDigits, digitsValue_zeros_append,
      ← denoted_of_digits isDigit_of_mem_numeral, denoted_numeral]

/-! ## Hexadecimal numerals -/

/-- A digit or a capital letter up to `F`. -/
def IsHexadecimalDigit (c : Char) : Prop := c.isDigit = true ∨ 'A' ≤ c ∧ c ≤ 'F'

instance (c : Char) : Decidable (IsHexadecimalDigit c) :=
  inferInstanceAs (Decidable (_ ∨ _))

/-- The value of a hexadecimal digit. -/
def hexadecimalValue (c : Char) : Nat :=
  if c.isDigit then digitValue c else c.toNat - 'A'.toNat + 10

/-- The number that hexadecimal digits spell. -/
def ofHexadecimal (text : List Char) : Nat :=
  text.foldl (fun value c => 16 * value + hexadecimalValue c) 0

theorem ofHexadecimal_append_singleton (text : List Char) (c : Char) :
    ofHexadecimal (text ++ [c]) = 16 * ofHexadecimal text + hexadecimalValue c := by
  rw [ofHexadecimal, List.foldl_append]
  rfl

theorem ofHexadecimal_zeros_append (zeros : Nat) (text : List Char) :
    ofHexadecimal (List.replicate zeros '0' ++ text) = ofHexadecimal text := by
  induction zeros with
  | zero =>
      rfl
  | succ zeros inductionHypothesis =>
      exact inductionHypothesis

/-- Every value below sixteen has a hexadecimal digit. -/
theorem hexadecimalDigit_of_lt {value : Nat} (small : value < 16) :
    IsHexadecimalDigit (Nat.digitChar value).toUpper ∧
      hexadecimalValue (Nat.digitChar value).toUpper = value := by
  have each : ∀ value < 16, IsHexadecimalDigit (Nat.digitChar value).toUpper ∧
      hexadecimalValue (Nat.digitChar value).toUpper = value := by
    decide
  exact each value small

theorem hexadecimal_of_lt {n : Nat} (small : n < 16) :
    hexadecimal n = [(Nat.digitChar n).toUpper] := by
  rw [hexadecimal, Nat.toDigits_of_lt_base small, List.map_singleton]

theorem hexadecimal_of_le {n : Nat} (large : 16 ≤ n) :
    hexadecimal n = hexadecimal (n / 16) ++ [(Nat.digitChar (n % 16)).toUpper] := by
  rw [hexadecimal, Nat.toDigits_of_base_le (by decide) large, List.map_append,
    List.map_singleton, hexadecimal]

/-- The text is a hexadecimal numeral of this number, which has one digit more than its
logarithm, with zeros up to a width. -/
structure IsPaddedHexadecimal (width : Nat) (number : Nat) (text : List Char) : Prop where
  length : text.length = max width (Nat.log 16 number + 1)
  digits : ∀ c ∈ text, IsHexadecimalDigit c
  readBack : ofHexadecimal text = number

theorem isPaddedHexadecimal_hexadecimal (n : Nat) :
    IsPaddedHexadecimal 0 n (hexadecimal n) := by
  -- The last digit is split off, as the numeral is written.
  induction n using Nat.strongRecOn with
  | ind n inductionHypothesis =>
      by_cases small : n < 16
      · obtain ⟨digit, value⟩ := hexadecimalDigit_of_lt small
        rw [hexadecimal_of_lt small]
        refine ⟨?_, List.forall_mem_singleton.mpr digit, ?_⟩
        · rw [Nat.log_of_lt small]
          rfl
        · rw [ofHexadecimal, List.foldl_cons, List.foldl_nil, value]
          omega
      · have large : 16 ≤ n := by
          omega
        obtain ⟨length, digits, readBack⟩ := inductionHypothesis (n / 16) (by omega)
        obtain ⟨digit, value⟩ := hexadecimalDigit_of_lt (Nat.mod_lt n (by decide : 0 < 16))
        rw [hexadecimal_of_le large]
        refine ⟨?_, ?_, ?_⟩
        · rw [List.length_append, length, Nat.log_of_one_lt_of_le (by decide) large]
          simp
        · exact List.forall_mem_append.mpr ⟨digits, List.forall_mem_singleton.mpr digit⟩
        · rw [ofHexadecimal_append_singleton, readBack, value]
          omega

theorem isPaddedHexadecimal_zeroPadded (width n : Nat) :
    IsPaddedHexadecimal width n (zeroPadded width (hexadecimal n)) := by
  obtain ⟨length, digits, readBack⟩ := isPaddedHexadecimal_hexadecimal n
  have unsigned : (hexadecimal n).head? ≠ some '-' := by
    intro first
    have digit := digits '-' (List.mem_of_mem_head? first)
    exact absurd digit (by decide)
  refine ⟨?_, ?_, ?_⟩
  · rw [length_zeroPadded, length, Nat.zero_max]
  · rw [zeroPadded_of_unsigned unsigned]
    refine List.forall_mem_append.mpr ⟨?_, digits⟩
    intro c zero
    rw [List.eq_of_mem_replicate zero]
    decide
  · rw [zeroPadded_of_unsigned unsigned, ofHexadecimal_zeros_append, readBack]

end Number

/-! ## Calls -/

namespace Functions

/-- A width that is not too large is the one that a numeral is padded to. -/
theorem padded_of_le {width : Argument} (narrow : width.count ≤ Number.widestNumeral)
    (numeral : List Char) :
    (if Number.widestNumeral < widthOf width then throw .widthOutOfRange
      else return .found (String.ofList (Number.zeroPadded (widthOf width) numeral)) :
        Except Fault Atom) =
      .ok (.found (String.ofList (Number.zeroPadded width.count numeral))) := by
  have kept : widthOf width = width.count := by
    rw [Number.widestNumeral] at narrow
    rw [widthOf, greatestWidth]
    omega
  rw [kept, if_neg (Nat.not_lt.mpr narrow)]
  rfl

theorem invoke_num (draw : UInt32) (number : Argument) {width : Argument}
    (narrow : width.count ≤ Number.widestNumeral) :
    invoke draw "num" [number, width] =
      .ok (.value (.found (String.ofList
        (Number.zeroPadded width.count (Number.decimal number.number.toInt)))) .all) := by
  have member : ⟨"num", .num, .exact 2, .string⟩ ∈ Catalog.entries := by
    decide
  have padded : num [number, width] = .ok (.found (String.ofList
      (Number.zeroPadded width.count (Number.decimal number.number.toInt)))) :=
    padded_of_le narrow _
  rw [invoke_of_mem draw member rfl, run, padded]
  rfl

/-- The number of digits that a call for a hexadecimal numeral asks for. -/
def askedDigits (width : Option Argument) : Nat := (width.map Argument.count).getD 0

theorem invoke_hex (draw : UInt32) (number : Argument) {width : Option Argument}
    (narrow : askedDigits width ≤ Number.widestNumeral) :
    invoke draw "hex" (number :: width.toList) =
      .ok (.value (.found (String.ofList
        (Number.zeroPadded (askedDigits width)
          (Number.hexadecimal number.wrapped.toNat)))) .all) := by
  have member : ⟨"hex", .hex, .range 1 2, .misc⟩ ∈ Catalog.entries := by
    decide
  have accepted : (Arity.range 1 2).accepts (number :: width.toList).length = true := by
    cases width <;> rfl
  have padded : hex (number :: width.toList) = .ok (.found (String.ofList
      (Number.zeroPadded (askedDigits width)
        (Number.hexadecimal number.wrapped.toNat)))) := by
    cases width with
    | none =>
        rfl
    | some width =>
        exact padded_of_le narrow _
  rw [invoke_of_mem draw member accepted, run, padded]
  rfl

/-- A number that is written with zeros in front is the number that is read back.  The
decimal text has the digits of the number and the width that is asked for, whichever is
longer, and its minus sign first; the hexadecimal text, in capitals, stands for the
number modulo `2 ^ 32`. -/
theorem padded_reads_back (draw : UInt32) (number : Argument) :
    (∀ width : Argument, width.count < 65536 → ∃ text,
      invoke draw "num" [number, width] = .ok (.value (.found text) .all) ∧
        Number.IsPaddedDecimal width.count number.number text.toList) ∧
    ∀ width : Option Argument, askedDigits width < 65536 → ∃ text,
      invoke draw "hex" (number :: width.toList) = .ok (.value (.found text) .all) ∧
        Number.IsPaddedHexadecimal (askedDigits width) number.wrapped.toNat
          text.toList := by
  constructor
  · intro width narrow
    refine ⟨_, invoke_num draw number (Nat.le_of_lt_succ narrow), ?_⟩
    rw [String.toList_ofList]
    exact Number.isPaddedDecimal_zeroPadded _ _
  · intro width narrow
    refine ⟨_, invoke_hex draw number (Nat.le_of_lt_succ narrow), ?_⟩
    rw [String.toList_ofList]
    exact Number.isPaddedHexadecimal_zeroPadded _ _

/-- The widths of the calls `$num(-9223372036854775808,25)` and `$hex(-1,12)` are narrow
enough, and so is the one that `$hex(-1)` goes without. -/
theorem padded_reads_back_least :
    let argument (text : String) : Argument := ⟨.literal text, false⟩
    ((argument "25").count < 65536 ∧ ∃ text,
      invoke 0 "num" [argument "-9223372036854775808", argument "25"] =
          .ok (.value (.found text) .all) ∧
        Number.IsPaddedDecimal 25 Int64.minValue text.toList) ∧
    (askedDigits (some (argument "12")) < 65536 ∧ ∃ text,
      invoke 0 "hex" [argument "-1", argument "12"] = .ok (.value (.found text) .all) ∧
        Number.IsPaddedHexadecimal 12 4294967295 text.toList) ∧
    (askedDigits none < 65536 ∧ ∃ text,
      invoke 0 "hex" [argument "-1"] = .ok (.value (.found text) .all) ∧
        Number.IsPaddedHexadecimal 0 4294967295 text.toList) := by
  intro argument
  have count : (argument "25").count = 25 ∧
      (argument "-9223372036854775808").number = Int64.minValue ∧
      askedDigits (some (argument "12")) = 12 ∧
      (argument "-1").wrapped.toNat = 4294967295 := by
    decide
  obtain ⟨count, least, digits, wrapped⟩ := count
  have decimal := (padded_reads_back 0 (argument "-9223372036854775808")).1 (argument "25")
  have hexadecimal := (padded_reads_back 0 (argument "-1")).2
  have asked := hexadecimal (some (argument "12"))
  have unasked := hexadecimal none
  rw [count, least] at decimal
  rw [digits, wrapped] at asked
  rw [wrapped] at unasked
  refine ⟨⟨by rw [count]; decide, decimal (by decide)⟩,
    ⟨by rw [digits]; decide, asked (by decide)⟩, by decide, unasked (by decide)⟩

end Functions

end TitleFormatting
