import TitleFormatting.Fault

/-!
The CRC-32 checksum of IEEE 802.3, computed a byte at a time from a table.
-/

namespace TitleFormatting.Text.Checksum

/-- The generator polynomial with its bits reversed. -/
def polynomial : UInt32 := 0xEDB88320

/-- Shift out the lowest bit and subtract the polynomial if it was set. -/
def shift (register : UInt32) : UInt32 :=
  if register &&& 1 = 0 then register >>> 1 else polynomial ^^^ (register >>> 1)

/-- The register after eight shifts. -/
def shiftByte (register : UInt32) : UInt32 :=
  Nat.repeat shift 8 register

/-- The registers that the 256 byte values leave behind. -/
def table : Array UInt32 := Array.ofFn fun byte : Fin 256 => shiftByte byte.val.toUInt32

attribute [irreducible] table

/-- Feed one byte into the register. -/
def feed (register : UInt32) (byte : UInt8) : Except Fault UInt32 :=
  let index := ((register ^^^ byte.toUInt32) &&& 0xFF).toNat
  match table[index]? with
  | some left => .ok (left ^^^ (register >>> 8))
  | none => .error (.noElement index)

def crc32 (bytes : List UInt8) : Except Fault UInt32 := do
  let register ← bytes.foldlM feed 0xFFFFFFFF
  return ~~~register

end TitleFormatting.Text.Checksum
