import TitleFormatting.Proofs.Functions.Comparison
import TitleFormatting.Proofs.Functions.Searching

/-!
# Texts sliced at integers

The functions that slice a text count its characters in different ways: from the front, from
the end, up to the byte behind them, or between two positions.  At an integer they all cut the
text at one place, which is the front for a negative integer and the end for one that is larger
than the text is long.
-/

namespace TitleFormatting

namespace Argument

theorem length_characters (argument : Argument) :
    argument.characters.length = argument.length :=
  rfl

/-- The argument is this integer where a text is sliced: it is read as the integer or, if the
text is shorter than the largest number, writes the integer in any number of digits. -/
def IsIntegerFor (argument text : Argument) (n : Int) : Prop :=
  argument.number.toInt = n ∨ argument.Writes n ∧ text.length < Number.largest

namespace IsIntegerFor

variable {argument text : Argument} {n : Int} (isInteger : argument.IsIntegerFor text n)

include isInteger

/-- An argument counts as far as its integer does, or both count beyond the text. -/
theorem count_eq_or : argument.count = n.toNat ∨
    text.length < argument.count ∧ text.length < n.toNat := by
  rcases isInteger with read | ⟨writes, short⟩
  · left
    rw [count, read]
  · rw [count, writes.toInt_number, Number.held, Number.least]
    split_ifs <;> omega

theorem take_count : text.characters.take argument.count = text.characters.take n.toNat := by
  rw [List.take_eq_take_iff, length_characters]
  rcases isInteger.count_eq_or with same | beyond <;> omega

theorem drop_count : text.characters.drop argument.count = text.characters.drop n.toNat := by
  rw [List.drop_eq_drop_iff, length_characters]
  rcases isInteger.count_eq_or with same | beyond <;> omega

/-- A position counts from one. -/
theorem drop_before_position {part : List Char} (within : part.length ≤ text.length) :
    part.drop (argument.count - 1) = part.drop (n.toNat - 1) := by
  rw [List.drop_eq_drop_iff]
  rcases isInteger.count_eq_or with same | beyond <;> omega

theorem length_sub_count : text.length - argument.count = text.length - n.toNat := by
  rcases isInteger.count_eq_or with same | beyond <;> omega

end IsIntegerFor

end Argument

namespace Functions

/-! ## Calls -/

theorem invoke_cut (draw : UInt32) (text count : Argument) :
    invoke draw "cut" [text, count] = invoke draw "left" [text, count] := by
  have cut : ⟨"cut", .cut, .exact 2, .string⟩ ∈ Catalog.entries := by
    decide
  have left : ⟨"left", .left, .exact 2, .string⟩ ∈ Catalog.entries := by
    decide
  rw [invoke_of_mem draw cut rfl, invoke_of_mem draw left rfl]
  rfl

section Calls

variable {text : Argument} (present : text.atom.isPresent = true) (draw : UInt32)

include present

theorem invoke_len :
    invoke draw "len" [text] = .ok (changed text (numeral text.length)) := by
  have member : ⟨"len", .len, .exact 1, .string⟩ ∈ Catalog.entries := by
    decide
  exact invoke_deriveText draw (fun t => numeral t.length) member rfl rfl present

variable {first count : Argument} {m n : Int} (isFirst : first.IsIntegerFor text m)
  (isCount : count.IsIntegerFor text n)

include isCount

theorem invoke_left :
    invoke draw "left" [text, count] = .ok (changed text (text.characters.take n.toNat)) := by
  have member : ⟨"left", .left, .exact 2, .string⟩ ∈ Catalog.entries := by
    decide
  rw [← isCount.take_count]
  exact invoke_deriveText draw (·.take count.count) member rfl rfl present

theorem invoke_right :
    invoke draw "right" [text, count] =
      .ok (changed text (text.characters.drop (text.length - n.toNat))) := by
  have member : ⟨"right", .right, .exact 2, .string⟩ ∈ Catalog.entries := by
    decide
  rw [← isCount.length_sub_count]
  exact invoke_deriveText draw (fun t => t.drop (t.length - count.count)) member rfl rfl present

theorem invoke_insert (inserted : Argument) :
    invoke draw "insert" [text, inserted, count] =
      .ok (changed text (text.characters.take n.toNat ++ inserted.characters ++
        text.characters.drop n.toNat)) := by
  have member : ⟨"insert", .insert, .exact 3, .string⟩ ∈ Catalog.entries := by
    decide
  have runs : run draw .insert [text, inserted, count] =
      .ok (.value (text.atom.deriveText fun t =>
        t.take count.count ++ inserted.characters ++ t.drop count.count) .all) := by
    rw [run, insertAt_eq]
    rfl
  rw [← isCount.take_count, ← isCount.drop_count]
  exact invoke_deriveText draw _ member rfl runs present

include isFirst

theorem invoke_substr_of_integers :
    invoke draw "substr" [text, first, count] =
      .ok (changed text ((text.characters.take n.toNat).drop (m.toNat - 1))) := by
  have within : (text.characters.take n.toNat).length ≤ text.length :=
    List.length_take_le' _ _
  rw [invoke_substr, value_deriveText present, Text.slice, isCount.take_count,
    isFirst.drop_before_position within]

end Calls

/-- Slices of a text fit together.  An integer cuts the text into a front and a back, and the
functions come to these two parts in their own ways: the front is as long as the integer says
but not longer than the text, the back is counted from the end or begins at the next position,
and what is inserted stands between them.  A slice between two positions is what the front up
to the second one leaves from the first one on. -/
theorem slices_fit_together (draw : UInt32) {text first count : Argument} {m n : Int}
    (present : text.atom.isPresent = true) (isFirst : first.IsIntegerFor text m)
    (isCount : count.IsIntegerFor text n) :
    ∃ front back,
      front ++ back = text.characters ∧
      invoke draw "left" [text, count] = .ok (changed text front) ∧
      invoke draw "cut" [text, count] = .ok (changed text front) ∧
      (0 ≤ n → n ≤ text.length →
        ∀ remaining : Argument, remaining.IsIntegerFor text (text.length - n) →
          invoke draw "right" [text, remaining] = .ok (changed text back)) ∧
      (∀ inserted remaining : Argument,
        remaining.IsIntegerFor text (text.length - min (max n 0) text.length) →
          invoke draw "right" [text, remaining] = .ok (changed text back) ∧
          invoke draw "insert" [text, inserted, count] =
            .ok (changed text (front ++ inserted.characters ++ back))) ∧
      invoke draw "substr" [text, first, count] =
        .ok (changed text (front.drop (max m 1 - 1).toNat)) ∧
      (∀ before next last : Argument, before.IsIntegerFor text (max n 0) →
        next.IsIntegerFor text (max n 0 + 1) → last.IsIntegerFor text text.length →
          invoke draw "left" [text, before] = .ok (changed text front) ∧
          invoke draw "substr" [text, next, last] = .ok (changed text back)) ∧
      (front.length : Int) = min (max n 0) text.length ∧
      ∀ cut : Argument, invoke draw "left" [text, count] = .ok (.value cut.atom .all) →
        invoke draw "len" [cut] = .ok (changed cut (numeral front.length)) := by
  have left := invoke_left present draw isCount
  refine ⟨text.characters.take n.toNat, text.characters.drop n.toNat, List.take_append_drop _ _,
    left, by rw [invoke_cut, left], ?remaining, ?insertion, ?between, ?next, ?length, ?measured⟩
  case remaining =>
    intro nonnegative within remaining isRemaining
    have behind : text.length - (text.length - n).toNat = n.toNat := by
      omega
    rw [invoke_right present draw isRemaining, behind]
  case insertion =>
    intro inserted remaining isRemaining
    have behind : text.characters.drop
        (text.length - (text.length - min (max n 0) text.length).toNat) =
          text.characters.drop n.toNat := by
      rw [List.drop_eq_drop_iff, Argument.length_characters]
      omega
    rw [invoke_right present draw isRemaining, behind]
    exact ⟨rfl, invoke_insert present draw isCount inserted⟩
  case between =>
    have position : m.toNat - 1 = (max m 1 - 1).toNat := by
      omega
    rw [invoke_substr_of_integers present draw isFirst isCount, position]
  case next =>
    intro before next last isBefore isNext isLast
    have clamped : (max n 0).toNat = n.toNat := by
      omega
    have position : (max n 0 + 1).toNat - 1 = n.toNat := by
      omega
    have whole : text.characters.take (text.length : Int).toNat = text.characters :=
      List.take_length
    rw [invoke_left present draw isBefore, invoke_substr_of_integers present draw isNext isLast,
      clamped, position, whole]
    exact ⟨rfl, rfl⟩
  case length =>
    rw [List.length_take, Argument.length_characters]
    omega
  case measured =>
    intro cut replied
    obtain ⟨cutPresent, characters, -⟩ :=
      of_value_eq_changed (Except.ok.inj (replied.symm.trans left))
    rw [invoke_len cutPresent, Argument.length, characters]

/-- Characters of several bytes are cut apart, and the greatest number of 64 bits cuts behind
the end, so that nothing is left at the position after it. -/
theorem slices_fit_together_sample :
    let argument (text : String) : Argument := ⟨.literal text, false⟩
    let text : Argument := ⟨.found "日Äb", false⟩
    let front : Argument := ⟨.found "日Ä", false⟩
    text.atom.isPresent = true ∧ (argument "-7").IsIntegerFor text (-7) ∧
    ((argument "2").IsIntegerFor text 2 ∧ (argument "1").IsIntegerFor text (text.length - 2) ∧
      (argument "2").IsIntegerFor text (max 2 0) ∧
      (argument "3").IsIntegerFor text (max 2 0 + 1) ∧
      (argument "3").IsIntegerFor text text.length ∧
      invoke 0 "left" [text, argument "2"] = .ok (.value front.atom .all) ∧
      invoke 0 "right" [text, argument "1"] = .ok (changed text "b".toList) ∧
      invoke 0 "substr" [text, argument "-7", argument "2"] = .ok (changed text "日Ä".toList) ∧
      invoke 0 "substr" [text, argument "3", argument "3"] = .ok (changed text "b".toList) ∧
      invoke 0 "len" [front] = .ok (changed front (numeral 2))) ∧
    ((argument "9223372036854775807").IsIntegerFor text 9223372036854775807 ∧
      (argument "0").IsIntegerFor text
        (text.length - min (max 9223372036854775807 0) (text.length : Int)) ∧
      (argument "9223372036854775808").IsIntegerFor text (max 9223372036854775807 0 + 1) ∧
      invoke 0 "insert" [text, argument "ß", argument "9223372036854775807"] =
        .ok (changed text "日Äbß".toList) ∧
      invoke 0 "substr" [text, argument "9223372036854775808", argument "3"] =
        .ok (changed text [])) := by
  intro argument text front
  have read : (argument "-7").number.toInt = -7 ∧ (argument "0").number.toInt = 0 ∧
      (argument "1").number.toInt = 1 ∧ (argument "2").number.toInt = 2 ∧
      (argument "3").number.toInt = 3 ∧
      (argument "9223372036854775807").number.toInt = 9223372036854775807 := by
    decide
  obtain ⟨isNegative, isZero, isOne, isTwo, isThree, isGreatest⟩ := read
  have beyond : (argument "9223372036854775808").IsIntegerFor text
      (max 9223372036854775807 0 + 1) := by
    have written : (argument "9223372036854775808").characters =
        Number.decimal (max 9223372036854775807 0 + 1) := by
      cbv
    exact .inr ⟨⟨rfl, written ▸ Number.writes_decimal _⟩, by decide⟩
  have remaining : (argument "1").IsIntegerFor text (text.length - 2) :=
    .inl (isOne.trans (by decide))
  have nothing : (argument "0").IsIntegerFor text
      (text.length - min (max 9223372036854775807 0) (text.length : Int)) :=
    .inl (isZero.trans (by decide))
  have last : (argument "3").IsIntegerFor text text.length :=
    .inl (isThree.trans (by decide))
  have present : text.atom.isPresent = true := rfl
  have cutAtTwo : invoke 0 "left" [text, argument "2"] = .ok (changed text "日Ä".toList) := by
    cbv
  have cutBehind : invoke 0 "left" [text, argument "9223372036854775807"] =
      .ok (changed text "日Äb".toList) := by
    cbv
  have replied : invoke 0 "left" [text, argument "2"] = .ok (.value front.atom .all) := by
    cbv
  obtain ⟨head, tail, parts, left, -, right, -, between, next, -, measured⟩ :=
    slices_fit_together 0 present (.inl isNegative) (.inl isTwo)
  obtain ⟨whole, rest, wholeParts, wholeLeft, -, -, insertion, -, behind, -⟩ :=
    slices_fit_together 0 present (.inl isNegative) (.inl isGreatest)
  obtain rfl := eq_of_changed_eq (Except.ok.inj (left.symm.trans cutAtTwo))
  obtain rfl := eq_of_changed_eq (Except.ok.inj (wholeLeft.symm.trans cutBehind))
  have written : text.characters = "日Ä".toList ++ "b".toList ∧
      text.characters = "日Äb".toList ++ [] := by
    decide
  have joined : "日Äb".toList ++ (argument "ß").characters ++ [] = "日Äbß".toList := by
    decide
  obtain rfl : tail = "b".toList := List.append_cancel_left (parts.trans written.1)
  obtain rfl : rest = [] := List.append_cancel_left (wholeParts.trans written.2)
  exact ⟨present, .inl isNegative,
    ⟨.inl isTwo, remaining, .inl isTwo, .inl isThree, last, replied,
      right (by decide) (by decide) _ remaining, between,
      (next _ _ _ (.inl isTwo) (.inl isThree) last).2, measured front replied⟩,
    .inl isGreatest, nothing, beyond, joined ▸ (insertion (argument "ß") _ nothing).2,
    (behind _ _ _ (.inl isGreatest) beyond last).2⟩

end Functions

end TitleFormatting
