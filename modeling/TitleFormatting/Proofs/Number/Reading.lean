import Mathlib.Data.List.TakeWhile
import TitleFormatting.Number.Numeral
import TitleFormatting.Number.Reading

/-!
# One number, read in several ways

A text denotes the number of the digits behind the blanks and the punctuation that
it begins with.  That number is not bounded.  The readings of a text differ in
where they look for a sign and in what they make of a number that is too large, and
in nothing else: each of them yields the number that the text denotes, capped or
reduced.
-/

namespace TitleFormatting

/-! ## Trimmed texts -/

namespace Text

theorem exists_dropTrailing (p : Char → Bool) (text : List Char) :
    ∃ after, text = dropTrailing p text ++ after ∧ ∀ c ∈ after, p c = true := by
  refine ⟨(text.reverse.takeWhile p).reverse, ?_, ?_⟩
  · rw [dropTrailing, ← List.reverse_append, List.takeWhile_append_dropWhile,
      List.reverse_reverse]
  · intro c member
    exact List.mem_takeWhile_imp (List.mem_reverse.mp member)

/-- A text is what trimming leaves of it, with blanks around. -/
theorem exists_trim (text : List Char) :
    ∃ before after, text = before ++ trim text ++ after ∧
      (∀ c ∈ before, isBlank c = true) ∧ ∀ c ∈ after, isBlank c = true := by
  obtain ⟨after, split, blank⟩ := exists_dropTrailing isBlank (text.dropWhile isBlank)
  refine ⟨text.takeWhile isBlank, after, ?_, ?_, blank⟩
  · rw [List.append_assoc, trim, ← split, List.takeWhile_append_dropWhile]
  · intro c member
    exact List.mem_takeWhile_imp member

theorem dropWhile_eq_self {p : Char → Bool} {text : List Char}
    (none : ∀ c ∈ text, p c = false) : text.dropWhile p = text := by
  cases text with
  | nil =>
      rfl
  | cons c rest =>
      have kept := none c List.mem_cons_self
      apply List.dropWhile_cons_of_neg
      simp [kept]

/-- A text without blanks is left as it is. -/
theorem trim_eq_self {text : List Char} (solid : ∀ c ∈ text, isBlank c = false) :
    trim text = text := by
  have back : text.reverse.dropWhile isBlank = text.reverse := by
    apply dropWhile_eq_self
    intro c member
    exact solid c (List.mem_reverse.mp member)
  rw [trim, dropWhile_eq_self solid, dropTrailing, back, List.reverse_reverse]

end Text

namespace Number

open Text

/-! ## Digits -/

theorem exists_digitChar {c : Char} (digit : c.isDigit = true) :
    ∃ value < 10, c = Nat.digitChar value := by
  have bounds : 48 ≤ c.toNat ∧ c.toNat ≤ 57 := Char.isDigit_iff_toNat.mp digit
  have small : c.toNat - 48 < 10 := by
    omega
  refine ⟨c.toNat - 48, small, ?_⟩
  apply Char.toNat_inj.mp
  rw [Nat.toNat_digitChar_of_lt_ten small]
  omega

theorem isSkipped_of_isDigit {c : Char} (digit : c.isDigit = true) :
    isSkipped c = false := by
  have none : ∀ value < 10, isSkipped (Nat.digitChar value) = false := by
    decide
  obtain ⟨value, small, rfl⟩ := exists_digitChar digit
  exact none value small

theorem isDigit_of_isSkipped {c : Char} (skipped : isSkipped c = true) :
    c.isDigit = false := by
  by_contra digit
  rw [Bool.not_eq_false] at digit
  rw [isSkipped_of_isDigit digit] at skipped
  contradiction

theorem isSkipped_of_isBlank {c : Char} (blank : isBlank c = true) :
    isSkipped c = true := by
  rw [isSkipped, blank, Bool.true_or]

theorem isBlank_of_isDigit {c : Char} (digit : c.isDigit = true) : isBlank c = false := by
  have kept := isSkipped_of_isDigit digit
  rw [isSkipped, Bool.or_eq_false_iff] at kept
  exact kept.1

theorem digitsValue_eq (digits : List Char) :
    digitsValue digits = Nat.ofDigitChars 10 digits 0 := by
  rw [Nat.ofDigitChars_eq_foldl]
  rfl

/-- Holding every step at the largest number holds the value at it. -/
theorem cappedValue_eq (digits : List Char) :
    cappedValue digits = min largest (digitsValue digits) := by
  have held (value : Nat) :
      digits.foldl (fun value digit => min largest (10 * value + digitValue digit))
          (min largest value) =
        min largest
          (digits.foldl (fun value digit => 10 * value + digitValue digit) value) := by
    induction digits generalizing value with
    | nil =>
        rfl
    | cons digit rest inductionHypothesis =>
        have stepped : min largest (10 * min largest value + digitValue digit) =
            min largest (10 * value + digitValue digit) := by
          rw [largest]
          omega
        rw [List.foldl_cons, List.foldl_cons, stepped, inductionHypothesis]
  exact held 0

/-- Reducing every step reduces the value. -/
theorem wrappedValue_eq (digits : List Char) :
    wrappedValue digits = UInt32.ofNat (digitsValue digits) := by
  have reduced (value : Nat) :
      digits.foldl
          (fun value digit => 10 * value + UInt32.ofNat (digitValue digit))
          (UInt32.ofNat value) =
        UInt32.ofNat
          (digits.foldl (fun value digit => 10 * value + digitValue digit) value) := by
    induction digits generalizing value with
    | nil =>
        rfl
    | cons digit rest inductionHypothesis =>
        have stepped : 10 * UInt32.ofNat value + UInt32.ofNat (digitValue digit) =
            UInt32.ofNat (10 * value + digitValue digit) := by
          rw [UInt32.ofNat_add, UInt32.ofNat_mul]
          rfl
        rw [List.foldl_cons, List.foldl_cons, stepped, inductionHypothesis]
  exact reduced 0

/-! ## What a text denotes -/

/-- The number of the digits behind the blanks and punctuation that a text begins
with, however large it is. -/
def denoted (text : List Char) : Nat :=
  digitsValue (digitRun (text.dropWhile isSkipped))

theorem denoted_cons {c : Char} (skipped : isSkipped c = true) (text : List Char) :
    denoted (c :: text) = denoted text := by
  rw [denoted, List.dropWhile_cons_of_pos skipped, denoted]

theorem denoted_minus (text : List Char) : denoted ('-' :: text) = denoted text :=
  denoted_cons (by decide) text

theorem denoted_plus (text : List Char) : denoted ('+' :: text) = denoted text :=
  denoted_cons (by decide) text

theorem denoted_of_digits {digits : List Char}
    (allDigits : ∀ c ∈ digits, c.isDigit = true) : denoted digits = digitsValue digits := by
  have front : digits.dropWhile isSkipped = digits := by
    apply dropWhile_eq_self
    intro c member
    exact isSkipped_of_isDigit (allDigits c member)
  have run : digits.takeWhile Char.isDigit = digits := by
    exact List.takeWhile_eq_self_iff.mpr allDigits
  rw [denoted, front, digitRun, run]

/-- Blanks behind a text are not among its digits. -/
theorem denoted_append_blanks (text : List Char) {after : List Char}
    (blank : ∀ c ∈ after, isBlank c = true) :
    denoted (text ++ after) = denoted text := by
  have behind : digitRun after = [] := by
    cases after with
    | nil =>
        rfl
    | cons c rest =>
        have skipped := isSkipped_of_isBlank (blank c List.mem_cons_self)
        have noDigit := isDigit_of_isSkipped skipped
        apply List.takeWhile_cons_of_neg
        simp [noDigit]
  have noise : after.dropWhile isSkipped = [] := by
    apply List.dropWhile_eq_nil_iff.mpr
    intro c member
    exact isSkipped_of_isBlank (blank c member)
  have front : digitRun ((text ++ after).dropWhile isSkipped) =
      digitRun (text.dropWhile isSkipped) := by
    rw [List.dropWhile_append]
    by_cases passed : (text.dropWhile isSkipped).isEmpty
    · rw [if_pos passed, noise, List.isEmpty_iff.mp passed]
    · rw [if_neg passed, digitRun, List.takeWhile_append]
      by_cases run : ((text.dropWhile isSkipped).takeWhile Char.isDigit).length =
          (text.dropWhile isSkipped).length
      · have whole : (text.dropWhile isSkipped).takeWhile Char.isDigit =
            text.dropWhile isSkipped := by
          exact (List.takeWhile_sublist _).eq_of_length run
        rw [if_pos run, ← digitRun, behind, List.append_nil, digitRun, whole]
      · rw [if_neg run, digitRun]
  rw [denoted, front, denoted]

theorem denoted_trim (text : List Char) : denoted (trim text) = denoted text := by
  obtain ⟨before, after, split, blankBefore, blankAfter⟩ := exists_trim text
  have skipped : ∀ c ∈ before, isSkipped c = true := by
    intro c member
    exact isSkipped_of_isBlank (blankBefore c member)
  have denotes : denoted text = denoted (trim text) := by
    calc
      denoted text = denoted (before ++ trim text ++ after) := congrArg denoted split
      _ = denoted (before ++ trim text) := denoted_append_blanks _ blankAfter
      _ = denoted (trim text) := by
        rw [denoted, List.dropWhile_append_of_pos skipped, denoted]
  exact denotes.symm

/-! ## Spelled and scanned numbers -/

/-- The number that digits spell behind a sign or none, when it fits. -/
def spelledBehind? (negative : Bool) (digits : List Char) : Option Int :=
  if digits.isEmpty || !digits.all Char.isDigit then none
  else
    let value : Int := digitsValue digits
    let signed := if negative then -value else value
    if -(largest + 1 : Int) ≤ signed && signed ≤ largest then some signed else none

/-- The number that is found by scanning, in a text without blanks around it: after at
most one sign and any noise, the digits that come first. -/
def scanned (text : List Char) : Int :=
  match text with
  | '-' :: rest => -(magnitude rest : Int)
  | '+' :: rest => magnitude rest
  | rest => magnitude rest

theorem magnitude_eq (text : List Char) : magnitude text = min largest (denoted text) :=
  cappedValue_eq _

theorem spelled?_minus (rest : List Char) :
    spelled? ('-' :: rest) = spelledBehind? true rest :=
  rfl

theorem scanned_minus (rest : List Char) :
    scanned ('-' :: rest) = -((min largest (denoted rest) : Nat) : Int) := by
  rw [scanned, magnitude_eq]

theorem spelled?_of_unsigned {text : List Char} (notMinus : text.head? ≠ some '-')
    (notPlus : text.head? ≠ some '+') : spelled? text = spelledBehind? false text := by
  cases text with
  | nil =>
      rfl
  | cons c rest =>
      have notMinus : c ≠ '-' := by
        simpa using notMinus
      have notPlus : c ≠ '+' := by
        simpa using notPlus
      simp [spelled?, spelledBehind?, notMinus, notPlus]

/-- Without a minus sign it does not matter whether there is a plus sign. -/
theorem exists_unsigned {text : List Char} (unsigned : text.head? ≠ some '-') :
    ∃ rest, denoted text = denoted rest ∧ spelled? text = spelledBehind? false rest ∧
      scanned text = magnitude rest := by
  by_cases plus : text.head? = some '+'
  · obtain ⟨rest, rfl⟩ := List.head?_eq_some_iff.mp plus
    exact ⟨rest, denoted_plus rest, rfl, rfl⟩
  · refine ⟨text, rfl, spelled?_of_unsigned unsigned plus, ?_⟩
    cases text with
    | nil =>
        rfl
    | cons c rest =>
        have notMinus : c ≠ '-' := by
          simpa using unsigned
        have notPlus : c ≠ '+' := by
          simpa using plus
        simp [scanned, notMinus, notPlus]

theorem spelledBehind?_eq_some_iff {negative : Bool} {digits : List Char} {value : Int} :
    spelledBehind? negative digits = some value ↔
      digits ≠ [] ∧ (∀ c ∈ digits, c.isDigit = true) ∧
        value = (if negative then -(denoted digits : Int) else denoted digits) ∧
        -(largest + 1 : Int) ≤ value ∧ value ≤ largest := by
  unfold spelledBehind?
  by_cases spelling : digits ≠ [] ∧ ∀ c ∈ digits, c.isDigit = true
  · have accepted : ¬ (digits.isEmpty || !digits.all Char.isDigit) = true := by
      simpa using spelling
    rw [if_neg accepted, denoted_of_digits spelling.2]
    simp only [Bool.and_eq_true, decide_eq_true_eq, Option.ite_none_right_eq_some,
      Option.some.injEq]
    constructor
    · rintro ⟨bounds, rfl⟩
      exact ⟨spelling.1, spelling.2, rfl, bounds⟩
    · rintro ⟨-, -, rfl, bounds⟩
      exact ⟨bounds, rfl⟩
  · have refused : (digits.isEmpty || !digits.all Char.isDigit) = true := by
      by_contra accepted
      apply spelling
      simpa using accepted
    rw [if_pos refused]
    constructor
    · intro impossible
      contradiction
    · rintro ⟨nonempty, allDigits, -⟩
      exact absurd ⟨nonempty, allDigits⟩ spelling

/-- The text is a minus sign and digits which spell the least number of 64 bits. -/
def SpellsLeast (text : List Char) : Prop :=
  text.head? = some '-' ∧ (∀ c ∈ text.tail, c.isDigit = true) ∧
    denoted text = largest + 1

instance (text : List Char) : Decidable (SpellsLeast text) :=
  inferInstanceAs (Decidable (_ ∧ _ ∧ _))

theorem spelled?_of_spellsLeast {text : List Char} (least : SpellsLeast text) :
    spelled? text = some (-(largest + 1 : Int)) := by
  obtain ⟨minus, allDigits, value⟩ := least
  obtain ⟨rest, rfl⟩ := List.head?_eq_some_iff.mp minus
  rw [denoted_minus] at value
  rw [spelled?_minus, spelledBehind?_eq_some_iff, if_pos rfl, value]
  refine ⟨?_, allDigits, ?_, ?_, ?_⟩
  · rintro rfl
    have nothing : denoted [] = 0 := by
      rfl
    omega
  · omega
  · omega
  · omega

/-- Scanning finds the number that a text spells, unless that is the least number. -/
theorem eq_scanned_of_spelled?_eq_some {text : List Char} {value : Int}
    (spelled : spelled? text = some value) :
    value = scanned text ∨ SpellsLeast text ∧ value = -(largest + 1 : Int) := by
  by_cases minus : text.head? = some '-'
  · obtain ⟨rest, rfl⟩ := List.head?_eq_some_iff.mp minus
    rw [spelled?_minus, spelledBehind?_eq_some_iff, if_pos rfl] at spelled
    obtain ⟨-, allDigits, rfl, least, -⟩ := spelled
    by_cases held : denoted rest ≤ largest
    · left
      rw [scanned_minus, Nat.min_eq_right held]
    · have value : denoted rest = largest + 1 := by
        omega
      right
      refine ⟨⟨minus, allDigits, ?_⟩, ?_⟩
      · rw [denoted_minus, value]
      · omega
  · obtain ⟨rest, -, read, found⟩ := exists_unsigned minus
    rw [read, spelledBehind?_eq_some_iff, if_neg Bool.false_ne_true] at spelled
    obtain ⟨-, -, rfl, -, greatest⟩ := spelled
    have held : denoted rest ≤ largest := by
      omega
    left
    rw [found, magnitude_eq, Nat.min_eq_right held]

theorem ofText_eq (text : List Char) :
    ofText text = Int64.ofInt ((spelled? (trim text)).getD (scanned (trim text))) := by
  rw [ofText]
  generalize trim text = trimmed
  cases spelled? trimmed with
  | some value =>
      rfl
  | none =>
      cases trimmed with
      | nil =>
          rfl
      | cons c rest =>
          by_cases minus : c = '-'
          · subst minus
            rfl
          · by_cases plus : c = '+'
            · subst plus
              rfl
            · simp [scanned, minus, plus]

theorem toInt_ofInt {value : Int} (least : -(largest + 1 : Int) ≤ value)
    (greatest : value ≤ largest) : (Int64.ofInt value).toInt = value := by
  rw [largest] at least greatest
  apply Int64.toInt_ofInt_of_le
  · omega
  · omega

theorem toInt_unsignedOfText_nonneg (text : List Char) :
    0 ≤ (unsignedOfText text).toInt := by
  rw [unsignedOfText, magnitude_eq, toInt_ofInt] <;> omega

theorem scanned_eq (text : List Char) :
    scanned text =
      if text.head? = some '-' then -((min largest (denoted text) : Nat) : Int)
      else (min largest (denoted text) : Nat) := by
  by_cases minus : text.head? = some '-'
  · obtain ⟨rest, rfl⟩ := List.head?_eq_some_iff.mp minus
    rw [if_pos minus, scanned_minus, denoted_minus]
  · obtain ⟨rest, denotes, -, found⟩ := exists_unsigned minus
    rw [if_neg minus, found, magnitude_eq, denotes]

theorem toInt_ofText (text : List Char) :
    (ofText text).toInt =
      if SpellsLeast (trim text) then -(largest + 1 : Int) else scanned (trim text) := by
  have found : (Int64.ofInt (scanned (trim text))).toInt = scanned (trim text) := by
    rw [scanned_eq]
    apply toInt_ofInt <;> split <;> omega
  by_cases least : SpellsLeast (trim text)
  · rw [if_pos least, ofText_eq, spelled?_of_spellsLeast least, Option.getD_some]
    apply toInt_ofInt <;> omega
  · rw [if_neg least, ofText_eq]
    cases spelled : spelled? (trim text) with
    | none =>
        exact found
    | some value =>
        rcases eq_scanned_of_spelled?_eq_some spelled with rfl | ⟨spellsLeast, -⟩
        · exact found
        · contradiction

/-! ## Numerals -/

theorem isDigit_of_mem_numeral {n : Nat} : ∀ c ∈ Nat.toDigits 10 n, c.isDigit = true := by
  intro c member
  exact Nat.isDigit_of_mem_toDigits (by decide) (by decide) member

theorem denoted_numeral (n : Nat) : denoted (Nat.toDigits 10 n) = n := by
  rw [denoted_of_digits isDigit_of_mem_numeral, digitsValue_eq]
  exact Nat.ofDigitChars_toDigits (by decide) (by decide)

theorem decimal_ne_nil (n : Int) : decimal n ≠ [] := by
  unfold decimal
  by_cases negative : n < 0
  · rw [if_pos negative]
    exact List.cons_ne_nil _ _
  · rw [if_neg negative]
    exact Nat.toDigits_ne_nil

theorem mem_decimal {n : Int} {c : Char} (member : c ∈ decimal n) :
    c = '-' ∨ ∃ value < 10, c = Nat.digitChar value := by
  have digit (digits : c ∈ Nat.toDigits 10 n.natAbs) :
      ∃ value < 10, c = Nat.digitChar value := by
    exact exists_digitChar (isDigit_of_mem_numeral c digits)
  unfold decimal at member
  by_cases negative : n < 0
  · rw [if_pos negative, List.mem_cons] at member
    rcases member with minus | digits
    · exact Or.inl minus
    · exact Or.inr (digit digits)
  · rw [if_neg negative] at member
    exact Or.inr (digit member)

/-- Digits behind the sign of a number, where only a minus sign is written. -/
def behindSign (n : Int) (digits : List Char) : List Char :=
  if n < 0 then '-' :: digits else digits

theorem decimal_eq (n : Int) : decimal n = behindSign n (Nat.toDigits 10 n.natAbs) :=
  rfl

section BehindSign

variable {digits : List Char} (allDigits : ∀ c ∈ digits, c.isDigit = true)

include allDigits

theorem isBlank_of_mem_behindSign (n : Int) : ∀ c ∈ behindSign n digits, isBlank c = false := by
  have solid : ∀ c ∈ digits, isBlank c = false := by
    intro c member
    exact isBlank_of_isDigit (allDigits c member)
  unfold behindSign
  by_cases negative : n < 0
  · rw [if_pos negative]
    exact List.forall_mem_cons.mpr ⟨by decide, solid⟩
  · rw [if_neg negative]
    exact solid

/-- Digits behind a sign spell the number that has this sign and that they denote. -/
theorem spelled?_behindSign {n : Int} (nonempty : digits ≠ [])
    (value : denoted digits = n.natAbs) (least : -(largest + 1 : Int) ≤ n)
    (greatest : n ≤ largest) : spelled? (behindSign n digits) = some n := by
  unfold behindSign
  by_cases negative : n < 0
  · rw [if_pos negative, spelled?_minus, spelledBehind?_eq_some_iff, if_pos rfl, value]
    refine ⟨nonempty, allDigits, ?_, least, greatest⟩
    omega
  · have begins {sign : Char} (noDigit : sign.isDigit = false) :
        digits.head? ≠ some sign := by
      intro first
      have digit := allDigits sign (List.mem_of_mem_head? first)
      rw [noDigit] at digit
      contradiction
    rw [if_neg negative, spelled?_of_unsigned (begins rfl) (begins rfl),
      spelledBehind?_eq_some_iff, if_neg Bool.false_ne_true, value]
    refine ⟨nonempty, allDigits, ?_, least, greatest⟩
    omega

/-- A number is read back from its digits, whether or not they begin with zeros. -/
theorem ofText_behindSign (n : Int64) (nonempty : digits ≠ [])
    (value : denoted digits = n.toInt.natAbs) :
    ofText (behindSign n.toInt digits) = n := by
  have least := n.le_toInt
  have greatest := n.toInt_lt
  have spelled : spelled? (behindSign n.toInt digits) = some n.toInt := by
    apply spelled?_behindSign allDigits nonempty value
    · rw [largest]
      omega
    · rw [largest]
      omega
  rw [ofText_eq, trim_eq_self (isBlank_of_mem_behindSign allDigits _), spelled,
    Option.getD_some, Int64.ofInt_toInt]

end BehindSign

/-- A number is read back from its numeral. -/
theorem ofText_decimal (n : Int64) : ofText (decimal n.toInt) = n :=
  ofText_behindSign isDigit_of_mem_numeral n Nat.toDigits_ne_nil (denoted_numeral _)

/-! ## The readings of a text -/

/-- The text begins with a minus sign, blanks aside. -/
def IsNegative (text : List Char) : Prop := (trim text).head? = some '-'

instance (text : List Char) : Decidable (IsNegative text) :=
  inferInstanceAs (Decidable (_ = _))

theorem wrappedOfText_eq (text : List Char) (signed : Bool) :
    wrappedOfText text signed =
      if signed = true ∧ IsNegative text then -UInt32.ofNat (denoted text)
      else UInt32.ofNat (denoted text) := by
  have read (rest : List Char) :
      wrappedValue (digitRun (rest.dropWhile isSkipped)) = UInt32.ofNat (denoted rest) :=
    wrappedValue_eq _
  by_cases negative : IsNegative text
  · obtain ⟨rest, trimmed⟩ := List.head?_eq_some_iff.mp negative
    have denotes : denoted text = denoted rest := by
      rw [← denoted_trim, trimmed, denoted_minus]
    rw [wrappedOfText, trimmed]
    cases signed with
    | true =>
        rw [if_pos ⟨rfl, negative⟩, denotes]
        exact congrArg Neg.neg (read rest)
    | false =>
        rw [if_neg (fun both => Bool.false_ne_true both.1), denotes, ← denoted_minus]
        exact read ('-' :: rest)
  · rw [if_neg (fun both => negative both.2), ← denoted_trim, ← read, wrappedOfText]
    unfold IsNegative at negative
    cases trimmed : trim text with
    | nil =>
        rfl
    | cons c rest =>
        have notMinus : c ≠ '-' := by
          simpa [trimmed] using negative
        simp [notMinus]

/-- The three readings of a text yield the number that it denotes: the unsigned reading
holds it at the largest number of 64 bits, the signed one negates what it holds when
the text is negative, and the reading modulo a power of two reduces it. The least number
of 64 bits alone has to be spelled out; every other number that a text spells is also
found by scanning. -/
theorem readings_of_denoted (text : List Char) :
    (unsignedOfText text).toInt = min (denoted text : Int) largest ∧
    (ofText text).toInt =
      (if SpellsLeast (trim text) then -(largest + 1 : Int)
      else if IsNegative text then -min (denoted text : Int) largest
      else min (denoted text : Int) largest) ∧
    (∀ value, spelled? (trim text) = some value →
      value = scanned (trim text) ∨
        SpellsLeast (trim text) ∧ value = -(largest + 1 : Int)) ∧
    (wrappedOfText text false).toNat = denoted text % UInt32.size ∧
    ((wrappedOfText text true).toNat : Int) =
      (if IsNegative text then -(denoted text : Int) else denoted text) %
        (UInt32.size : Int) := by
  refine ⟨?unsigned, ?signed, ?spelled, ?reduced, ?negated⟩
  case unsigned =>
    rw [unsignedOfText, magnitude_eq, toInt_ofInt] <;> omega
  case signed =>
    have held : ((min largest (denoted text) : Nat) : Int) =
        min (denoted text : Int) largest := by
      omega
    rw [toInt_ofText, scanned_eq, denoted_trim, held]
    rfl
  case spelled =>
    intro value spelled
    exact eq_scanned_of_spelled?_eq_some spelled
  case reduced =>
    rw [wrappedOfText_eq, if_neg (by simp), UInt32.toNat_ofNat']
  case negated =>
    have size : UInt32.size = 4294967296 := by
      rfl
    rw [wrappedOfText_eq]
    by_cases negative : IsNegative text
    · rw [if_pos ⟨rfl, negative⟩, if_pos negative, UInt32.toNat_neg,
        UInt32.toNat_ofNat', size]
      omega
    · rw [if_neg (by simp [negative]), if_neg negative, UInt32.toNat_ofNat', size]
      omega

/-- The least number of 64 bits is the one that scanning would not find. -/
theorem readings_of_denoted_least :
    spelled? (trim " -9223372036854775808".toList) = some (-9223372036854775808) ∧
      (SpellsLeast (trim " -9223372036854775808".toList) ∧
        (-9223372036854775808 : Int) = -(largest + 1 : Int)) ∧
      (ofText " -9223372036854775808".toList).toInt = -(largest + 1 : Int) := by
  have spelled :
      spelled? (trim " -9223372036854775808".toList) = some (-9223372036854775808) := by
    decide
  obtain ⟨-, signed, agree, -⟩ := readings_of_denoted " -9223372036854775808".toList
  have unfound : scanned (trim " -9223372036854775808".toList) ≠ -9223372036854775808 := by
    decide
  have least := (agree _ spelled).resolve_left unfound.symm
  rw [if_pos least.1] at signed
  exact ⟨spelled, least, signed⟩

-- A second minus sign is noise, and the unsigned reading takes the first one for noise.
example : ofText "--5".toList = -5 ∧ unsignedOfText "--5".toList = 5 ∧
    wrappedOfText "--5".toList true = 4294967291 := by
  decide

end Number

end TitleFormatting
