import DurableStore.Checksum

/-!
What the CRC-32C notices.

The bit that leaves the register decides whether the polynomial is added, and the polynomial's
highest bit shows afterwards which it was, so no shift loses anything (`shiftBit_inj`).  Hence two
registers that differ still differ after they took in the same bytes (`absorbAll_inj`), and one
register differs after it took in different bytes (`absorb_byte_inj`): a byte that was changed
changes the CRC-32C of the bytes around it (`crc32c_ne_of_byte`).
-/

namespace DurableStore

namespace Checksum

/-! ## Nothing is lost in the register -/

theorem and_one_eq_one_iff (register : UInt32) :
    register &&& 1 = 1 ↔ register.toNat % 2 = 1 := by
  rw [← UInt32.toNat_inj, UInt32.toNat_and, UInt32.toNat_one, Nat.and_one_is_mod]

theorem toNat_shiftRight_one (register : UInt32) :
    (register >>> 1).toNat = register.toNat / 2 := by
  rw [UInt32.toNat_shiftRight, UInt32.toNat_one]
  exact Nat.shiftRight_eq_div_pow _ 1

/-- The bit that leaves the register stands in its highest place afterwards. -/
theorem testBit_shiftBit (register : UInt32) :
    (shiftBit register).toNat.testBit 31 = decide (register &&& 1 = 1) := by
  have small : (register >>> 1).toNat < 2 ^ 31 := by
    have := register.toNat_lt
    rw [toNat_shiftRight_one]
    omega
  have top : polynomial.toNat.testBit 31 = true := by decide
  have empty : (register >>> 1).toNat.testBit 31 = false := Nat.testBit_lt_two_pow small
  unfold shiftBit
  split
  next set => rw [UInt32.toNat_xor, Nat.testBit_xor, empty, top, decide_eq_true set]; rfl
  next clear => rw [empty, decide_eq_false clear]

theorem shiftBit_inj {register other : UInt32} (h : shiftBit register = shiftBit other) :
    register = other := by
  have left : (register &&& 1 = 1) ↔ (other &&& 1 = 1) := by
    rw [← decide_eq_decide, ← testBit_shiftBit, ← testBit_shiftBit, h]
  -- The same bit left both, so the polynomial was added to both or to neither.
  have rest : register >>> 1 = other >>> 1 := by
    unfold shiftBit at h
    by_cases set : register &&& 1 = 1
    · rw [if_pos set, if_pos (left.1 set)] at h
      exact (UInt32.xor_left_inj polynomial).1 h
    · rwa [if_neg set, if_neg (mt left.2 set)] at h
  have halves := congrArg UInt32.toNat rest
  rw [toNat_shiftRight_one, toNat_shiftRight_one] at halves
  rw [and_one_eq_one_iff, and_one_eq_one_iff] at left
  apply UInt32.toNat_inj.1
  omega

theorem shiftByte_inj {register other : UInt32} (h : shiftByte register = shiftByte other) :
    register = other := by
  unfold shiftByte at h
  iterate 8 replace h := shiftBit_inj h
  exact h

theorem absorb_inj {register other : UInt32} {byte : UInt8}
    (h : absorb register byte = absorb other byte) : register = other :=
  (UInt32.xor_left_inj byte.toUInt32).1 (shiftByte_inj h)

theorem absorb_byte_inj {register : UInt32} {byte other : UInt8}
    (h : absorb register byte = absorb register other) : byte = other :=
  UInt8.toUInt32_inj.1 ((UInt32.xor_right_inj register).1 (shiftByte_inj h))

theorem absorbAll_inj {register other : UInt32} {bytes : Bytes}
    (h : absorbAll register bytes = absorbAll other bytes) : register = other := by
  induction bytes generalizing register other with
  | nil => exact h
  | cons byte rest ih => exact absorb_inj (ih h)

/-! ## Changed bytes -/

/-- **A changed byte is noticed**, whatever stands around it. -/
theorem crc32c_ne_of_byte (front back : Bytes) {byte other : UInt8} (changed : byte ≠ other) :
    crc32c (front ++ byte :: back) ≠ crc32c (front ++ other :: back) := by
  intro same
  have register := (UInt32.xor_left_inj 0xFFFFFFFF).1 same
  rw [absorbAll_append, absorbAll_append, absorbAll_cons, absorbAll_cons] at register
  exact changed (absorb_byte_inj (absorbAll_inj register))

end Checksum

end DurableStore
