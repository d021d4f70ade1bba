import DurableStore.Bytes

/-!
CRC-32C: the remainder that stamps a block and verifies it again.

The register is kept in reflected order: the lowest bit leaves first, and the polynomial is the
bit reversal of 0x1EDC6F41.  `crc32c` folds `absorb` over the bytes from an all-ones register and
inverts the result; `rangeChecksum?` is the same over a part of a buffer.
-/

namespace DurableStore

namespace Checksum

/-- The Castagnoli polynomial, lowest power in the highest bit. -/
def polynomial : UInt32 := 0x82F63B78

/-- The register after one bit has left it. -/
def shiftBit (register : UInt32) : UInt32 :=
  if register &&& 1 = 1 then (register >>> 1) ^^^ polynomial else register >>> 1

/-- The register after a whole byte has left it. -/
def shiftByte (register : UInt32) : UInt32 :=
  shiftBit (shiftBit (shiftBit (shiftBit (shiftBit (shiftBit (shiftBit (shiftBit register)))))))

/-- The register after it has taken in `byte`. -/
def absorb (register : UInt32) (byte : UInt8) : UInt32 :=
  shiftByte (register ^^^ byte.toUInt32)

/-- The register after it has taken in all of `bytes`. -/
def absorbAll (register : UInt32) (bytes : Bytes) : UInt32 :=
  bytes.foldl absorb register

/-- The CRC-32C of `bytes`. -/
def crc32c (bytes : Bytes) : UInt32 :=
  absorbAll 0xFFFFFFFF bytes ^^^ 0xFFFFFFFF

/-- The CRC-32C of the bytes from `start` up to `stop`, if that range lies inside `data`. -/
def rangeChecksum? (data : Bytes) (start stop : Nat) : Option UInt32 :=
  (data.slice? start stop).map crc32c

@[simp] theorem absorbAll_nil (register : UInt32) : absorbAll register [] = register := rfl

@[simp] theorem absorbAll_cons (register : UInt32) (byte : UInt8) (bytes : Bytes) :
    absorbAll register (byte :: bytes) = absorbAll (absorb register byte) bytes := rfl

theorem absorbAll_append (register : UInt32) (front back : Bytes) :
    absorbAll register (front ++ back) = absorbAll (absorbAll register front) back :=
  List.foldl_append

end Checksum

end DurableStore
