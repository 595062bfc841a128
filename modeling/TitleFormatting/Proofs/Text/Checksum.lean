import TitleFormatting.Text.Checksum

/-!
# Checksums bit by bit

The checksum takes a whole byte in one step from a table.  Shifting bits out of the register
is linear, so that the lowest byte and the rest of the register can be shifted apart: the
table has the former, and the latter only moves.
-/

namespace TitleFormatting.Text.Checksum

/-! ## Bit by bit -/

/-- One bit is shifted out on the right, and the polynomial is added when it was set. -/
def shiftBit (register : BitVec 32) : BitVec 32 :=
  if register.getLsbD 0 then (register >>> 1) ^^^ 0xEDB88320#32 else register >>> 1

/-- A byte is added to the lowest eight bits, and these are shifted out. -/
def feedBits (register : BitVec 32) (byte : UInt8) : BitVec 32 :=
  Nat.repeat shiftBit 8 (register ^^^ byte.toBitVec.setWidth 32)

/-- The CRC-32 of IEEE 802.3, bit by bit. -/
def bitwise (bytes : List UInt8) : BitVec 32 :=
  ~~~(bytes.foldl feedBits (BitVec.allOnes 32))

theorem and_one_eq_zero_iff (register : UInt32) :
    register &&& 1 = 0 ↔ register.toBitVec.getLsbD 0 = false := by
  have lowest : (register &&& 1).toBitVec =
      BitVec.setWidth 32 (BitVec.ofBool (register.toBitVec.getLsbD 0)) := by
    rw [UInt32.toBitVec_and]
    exact BitVec.and_one_eq_setWidth_ofBool_getLsbD
  rw [← UInt32.toBitVec_inj, lowest]
  cases register.toBitVec.getLsbD 0 <;> decide

theorem toBitVec_shift (register : UInt32) :
    (shift register).toBitVec = shiftBit register.toBitVec := by
  rw [shift, shiftBit]
  by_cases clear : register &&& 1 = 0
  · rw [if_pos clear, (and_one_eq_zero_iff register).mp clear]
    rfl
  · have set : register.toBitVec.getLsbD 0 = true := by
      rw [← Bool.not_eq_false, ← and_one_eq_zero_iff]
      exact clear
    rw [if_neg clear, if_pos set, BitVec.xor_comm]
    rfl

theorem toBitVec_repeat_shift (count : Nat) (register : UInt32) :
    (Nat.repeat shift count register).toBitVec =
      Nat.repeat shiftBit count register.toBitVec := by
  induction count with
  | zero =>
      rfl
  | succ count inductionHypothesis =>
      rw [Nat.repeat, Nat.repeat, toBitVec_shift, inductionHypothesis]

/-! ## Linearity -/

/-- What is added when a bit is shifted out. -/
def carried (bit : Bool) : BitVec 32 := if bit then 0xEDB88320#32 else 0#32

theorem shiftBit_eq (register : BitVec 32) :
    shiftBit register = (register >>> 1) ^^^ carried (register.getLsbD 0) := by
  rw [shiftBit]
  cases register.getLsbD 0 with
  | true =>
      rfl
  | false =>
      exact BitVec.xor_zero.symm

theorem carried_xor (first second : Bool) :
    carried (first ^^ second) = carried first ^^^ carried second := by
  cases first <;> cases second <;> decide

theorem shiftBit_xor (first second : BitVec 32) :
    shiftBit (first ^^^ second) = shiftBit first ^^^ shiftBit second := by
  rw [shiftBit_eq, shiftBit_eq, shiftBit_eq, BitVec.getLsbD_xor, carried_xor,
    BitVec.ushiftRight_xor_distrib]
  ac_rfl

theorem repeat_shiftBit_xor (count : Nat) (first second : BitVec 32) :
    Nat.repeat shiftBit count (first ^^^ second) =
      Nat.repeat shiftBit count first ^^^ Nat.repeat shiftBit count second := by
  induction count with
  | zero =>
      rfl
  | succ count inductionHypothesis =>
      rw [Nat.repeat, inductionHypothesis, shiftBit_xor]
      rfl

/-- As long as no bit that is shifted out is set, the register only moves. -/
theorem repeat_shiftBit_of_clear {register : BitVec 32} {count : Nat}
    (clear : ∀ i < count, register.getLsbD i = false) :
    Nat.repeat shiftBit count register = register >>> count := by
  induction count with
  | zero =>
      exact (BitVec.ushiftRight_zero register).symm
  | succ count inductionHypothesis =>
      have lowest : (register >>> count).getLsbD 0 = false := by
        rw [BitVec.getLsbD_ushiftRight]
        exact clear count (Nat.lt_succ_self count)
      rw [Nat.repeat, inductionHypothesis fun i below => clear i (Nat.lt_succ_of_lt below),
        shiftBit, lowest, BitVec.shiftRight_add]
      rfl

/-! ## Byte by byte -/

theorem shiftRight_eight_of_small {register : BitVec 32} (small : register.toNat < 256) :
    register >>> 8 = 0#32 := by
  apply BitVec.eq_of_toNat_eq
  rw [BitVec.toNat_ushiftRight, Nat.shiftRight_eq_div_pow]
  exact Nat.div_eq_of_lt small

theorem toNat_and_lowest (register : BitVec 32) : (register &&& 255#32).toNat < 256 := by
  rw [BitVec.toNat_and]
  exact Nat.lt_of_le_of_lt Nat.and_le_right (by decide)

/-- Shifting out the lowest byte leaves what it leaves alone and the rest in its place. -/
theorem repeat_shiftBit_eight (register : BitVec 32) :
    Nat.repeat shiftBit 8 register =
      Nat.repeat shiftBit 8 (register &&& 255#32) ^^^ (register >>> 8) := by
  have lowest : ∀ i < 8, (255#32).getLsbD i = true := by
    decide
  have clear : ∀ i < 8, ((register &&& 255#32) ^^^ register).getLsbD i = false := by
    intro i below
    rw [BitVec.getLsbD_xor, BitVec.getLsbD_and, lowest i below, Bool.and_true, Bool.xor_self]
  have split : register = (register &&& 255#32) ^^^ ((register &&& 255#32) ^^^ register) := by
    rw [← BitVec.xor_assoc, BitVec.xor_self, BitVec.zero_xor]
  calc Nat.repeat shiftBit 8 register
      = Nat.repeat shiftBit 8 (register &&& 255#32) ^^^
          Nat.repeat shiftBit 8 ((register &&& 255#32) ^^^ register) := by
        rw [← repeat_shiftBit_xor, ← split]
    _ = Nat.repeat shiftBit 8 (register &&& 255#32) ^^^
          (((register &&& 255#32) ^^^ register) >>> 8) := by
        rw [repeat_shiftBit_of_clear clear]
    _ = Nat.repeat shiftBit 8 (register &&& 255#32) ^^^ (register >>> 8) := by
        rw [BitVec.ushiftRight_xor_distrib,
          shiftRight_eight_of_small (toNat_and_lowest register), BitVec.zero_xor]

theorem getElem?_table {index : Nat} (within : index < 256) :
    table[index]? = some (shiftByte index.toUInt32) := by
  unfold table
  rw [Array.getElem?_ofFn, dif_pos within]

/-- A byte takes eight shifts, or its place in the table and one move of the rest. -/
theorem feed_eq (register : UInt32) (byte : UInt8) :
    feed register byte = .ok (UInt32.ofBitVec (feedBits register.toBitVec byte)) := by
  have within : ((register ^^^ byte.toUInt32) &&& 0xFF).toNat < 256 :=
    toNat_and_lowest (register ^^^ byte.toUInt32).toBitVec
  have entry : (shiftByte ((register ^^^ byte.toUInt32) &&& 0xFF)).toBitVec =
      Nat.repeat shiftBit 8 ((register ^^^ byte.toUInt32).toBitVec &&& 255#32) :=
    toBitVec_repeat_shift 8 _
  have small : byte.toUInt32.toBitVec.toNat < 256 := by
    rw [UInt32.toNat_toBitVec, UInt8.toNat_toUInt32]
    exact byte.toNat_lt
  have rest : (register >>> 8).toBitVec = (register ^^^ byte.toUInt32).toBitVec >>> 8 := by
    rw [UInt32.toBitVec_xor, BitVec.ushiftRight_xor_distrib, shiftRight_eight_of_small small,
      BitVec.xor_zero]
    rfl
  rw [feed, getElem?_table within]
  apply congrArg Except.ok
  apply UInt32.toBitVec_inj.mp
  rw [UInt32.toBitVec_xor, Nat.toUInt32_eq, UInt32.ofNat_toNat, entry, rest,
    ← repeat_shiftBit_eight]
  rfl

theorem foldlM_feed (bytes : List UInt8) (register : UInt32) :
    bytes.foldlM feed register =
      .ok (UInt32.ofBitVec (bytes.foldl feedBits register.toBitVec)) := by
  induction bytes generalizing register with
  | nil =>
      rfl
  | cons byte rest inductionHypothesis =>
      rw [List.foldlM_cons, feed_eq]
      exact inductionHypothesis _

theorem crc32_eq (bytes : List UInt8) : crc32 bytes = .ok (UInt32.ofBitVec (bitwise bytes)) := by
  rw [crc32, foldlM_feed]
  rfl

end TitleFormatting.Text.Checksum
