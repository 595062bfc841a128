import TitleFormatting.Proofs.Functions.Calls
import TitleFormatting.Proofs.Text.Checksum

/-!
# Checksums of texts

A call renders the checksum of the bytes of its text, the CRC-32 that takes one bit after the
other.
-/

namespace TitleFormatting

namespace Functions

open Text.Checksum

/-- The checksum is the CRC-32 that takes one bit after the other, and a call renders that of
the bytes of its text. -/
theorem checksum_bit_by_bit :
    (∀ bytes, Text.Checksum.crc32 bytes = .ok (UInt32.ofBitVec (bitwise bytes))) ∧
      ∀ (draw : UInt32) (text : Argument), text.atom.isPresent = true →
        invoke draw "crc32" [text] =
          .ok (.value ⟨some (bitwise text.text.toUTF8.toList).toNat.repr, text.truth⟩ .all) := by
  refine ⟨crc32_eq, ?_⟩
  intro draw text present
  have member : ⟨"crc32", .crc32, .exact 1, .misc⟩ ∈ Catalog.entries := by
    decide
  have bytes : (String.ofList text.characters).toUTF8.toList = text.text.toUTF8.toList := by
    rw [Argument.characters, String.ofList_toList]
  have ends : (Text.Checksum.crc32 (String.ofList text.characters).toUTF8.toList >>=
      fun checksum => .ok (numeral checksum.toNat)) =
        .ok (numeral (bitwise text.text.toUTF8.toList).toNat) := by
    rw [crc32_eq, bytes]
    rfl
  rw [← ofList_numeral]
  exact invoke_onTextChecked draw member rfl rfl present ends

theorem checksum_bit_by_bit_sample :
    let text : Argument := ⟨.found "日123", false⟩
    text.atom.isPresent = true ∧
      invoke 0 "crc32" [text] = .ok (.value ⟨some "524677579", true⟩ .all) := by
  intro text
  have computed : bitwise text.text.toUTF8.toList = 524677579#32 := by
    cbv
  have called := checksum_bit_by_bit.2 0 text rfl
  rw [computed] at called
  exact ⟨rfl, called⟩

end Functions

end TitleFormatting
