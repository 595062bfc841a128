import Mathlib.Data.String.Basic

/-!
# The order of texts in bytes

Texts are ordered by their characters, and characters by their code points.  In UTF-8 the
first byte in which the bytes of two characters differ is greater for the greater code
point, and no character has the bytes of another one in front.  The bytes of texts are
therefore in the order of the texts.
-/

namespace TitleFormatting.Text

/-- The bytes of a text in UTF-8. -/
def utf8Bytes (text : String) : List UInt8 := text.toUTF8.data.toList

theorem utf8Bytes_eq (text : String) :
    utf8Bytes text = text.toList.flatMap String.utf8EncodeChar := by
  have encoded : text.toUTF8 = (text.toList.flatMap String.utf8EncodeChar).toByteArray := by
    conv_lhs => rw [← String.ofList_toList (s := text)]
    exact String.toByteArray_ofList
  rw [utf8Bytes, encoded, List.toList_data_toByteArray]

/-- The digits that a code point is cut into, the last three of six bits. -/
theorem eq_of_sixBitDigits {code : Nat} (valid : code < 0x110000) :
    code = 262144 * (code / 262144 % 8) + 4096 * (code / 4096 % 64) +
      64 * (code / 64 % 64) + code % 64 := by
  omega

/-- The bytes of different characters differ in the direction of their code points, whatever
follows them. -/
theorem utf8EncodeChar_append_lt {c d : Char} (lt : c < d) (rest more : List UInt8) :
    String.utf8EncodeChar c ++ rest < String.utf8EncodeChar d ++ more := by
  have below : c.val.toNat < d.val.toNat := lt
  have greatest : d.val.toNat < 0x110000 := by
    have valid := d.valid
    simp only [UInt32.isValidChar, Nat.isValidChar] at valid
    omega
  have digits := eq_of_sixBitDigits (below.trans greatest)
  have otherDigits := eq_of_sixBitDigits greatest
  simp only [String.utf8EncodeChar]
  -- One case for each pair of lengths: the first bytes differ, or all bytes are compared.
  split_ifs <;>
    simp (disch := simp only [UInt8.size]; omega) only [List.cons_append, List.nil_append,
      List.cons_lt_cons_iff, UInt8.lt_iff_toNat_lt, ← UInt8.toNat_inj,
      UInt8.toNat_ofNat_of_lt'] <;>
    omega

theorem append_lt_append_left_iff (front first second : List UInt8) :
    front ++ first < front ++ second ↔ first < second := by
  induction front with
  | nil =>
      rfl
  | cons byte rest inductionHypothesis =>
      rw [List.cons_append, List.cons_append, List.cons_lt_cons_iff, inductionHypothesis]
      simp

theorem flatMap_utf8EncodeChar_lt_iff (first second : List Char) :
    first.flatMap String.utf8EncodeChar < second.flatMap String.utf8EncodeChar ↔
      first < second := by
  induction first generalizing second with
  | nil =>
      cases second with
      | nil =>
          exact iff_of_false (List.lt_irrefl _) (List.lt_irrefl _)
      | cons d rest =>
          have nonempty : (d :: rest).flatMap String.utf8EncodeChar ≠ [] := by
            rw [List.flatMap_cons]
            exact List.append_ne_nil_of_left_ne_nil String.utf8EncodeChar_ne_nil _
          obtain ⟨byte, bytes, encoded⟩ := List.exists_cons_of_ne_nil nonempty
          rw [encoded]
          exact iff_of_true (List.nil_lt_cons byte bytes) (List.nil_lt_cons d rest)
  | cons c rest inductionHypothesis =>
      cases second with
      | nil =>
          exact iff_of_false (List.not_lt_nil _) (List.not_lt_nil _)
      | cons d more =>
          rw [List.flatMap_cons, List.flatMap_cons, List.cons_lt_cons_iff]
          rcases lt_trichotomy c d with lt | rfl | gt
          · exact iff_of_true (utf8EncodeChar_append_lt lt _ _) (.inl lt)
          · rw [append_lt_append_left_iff, inductionHypothesis]
            simp
          · have behind := utf8EncodeChar_append_lt gt (more.flatMap String.utf8EncodeChar)
              (rest.flatMap String.utf8EncodeChar)
            refine iff_of_false (List.lt_asymm behind) ?_
            rintro (lt | ⟨rfl, -⟩)
            · exact lt_asymm lt gt
            · exact lt_irrefl _ gt

/-- Texts are in the order of their bytes. -/
theorem utf8Bytes_lt_iff {first second : String} :
    utf8Bytes first < utf8Bytes second ↔ first < second := by
  rw [utf8Bytes_eq, utf8Bytes_eq, flatMap_utf8EncodeChar_lt_iff, String.lt_iff_toList_lt]

end TitleFormatting.Text
