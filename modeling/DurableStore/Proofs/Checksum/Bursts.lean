import DurableStore.Block.Policy
import DurableStore.Proofs.Checksum.Detection
import Mathlib.Data.Nat.Bitwise
import Mathlib.Data.Nat.Digits.Defs

/-!
Bursts: damage to at most four bytes in a row.

Shifting the register is linear (`shiftBit_xor`), so up to four bytes may as well be laid over it
at once and shifted through it afterwards (`absorbAll_eq_shiftBytes`); what is laid over it tells
which bytes they were (`overlay_inj`).  Hence a burst changes the register (`absorbAll_burst_inj`),
no bytes behind it can make that good, and the CRC-32C of every range around it is another one
(`burst_noticed`).
-/

namespace DurableStore

namespace Checksum

/-! ## Shifting is linear -/

theorem shiftBit_xor (register other : UInt32) :
    shiftBit (register ^^^ other) = shiftBit register ^^^ shiftBit other := by
  have leaves : (register ^^^ other) &&& 1 = 1 ↔ ¬(register &&& 1 = 1 ↔ other &&& 1 = 1) := by
    rw [and_one_eq_one_iff, and_one_eq_one_iff, and_one_eq_one_iff, UInt32.toNat_xor,
      Nat.xor_mod_two_eq]
    omega
  unfold shiftBit
  rw [UInt32.shiftRight_xor]
  by_cases one : register &&& 1 = 1
  · by_cases two : other &&& 1 = 1
    · -- The polynomial is added twice, which is not at all.
      rw [if_neg (by simp [leaves, one, two]), if_pos one, if_pos two]
      rw [UInt32.xor_comm (other >>> 1), UInt32.xor_assoc, ← UInt32.xor_assoc polynomial,
        UInt32.xor_self, UInt32.zero_xor]
    · rw [if_pos (by simp [leaves, one, two]), if_pos one, if_neg two]
      rw [UInt32.xor_assoc, UInt32.xor_comm (other >>> 1), ← UInt32.xor_assoc]
  · by_cases two : other &&& 1 = 1
    · rw [if_pos (by simp [leaves, one, two]), if_neg one, if_pos two, UInt32.xor_assoc]
    · rw [if_neg (by simp [leaves, one, two]), if_neg one, if_neg two]

theorem shiftByte_xor (register other : UInt32) :
    shiftByte (register ^^^ other) = shiftByte register ^^^ shiftByte other := by
  unfold shiftByte
  simp only [shiftBit_xor]

theorem toNat_shiftBit_of_even {register : UInt32} (even : register.toNat % 2 = 0) :
    (shiftBit register).toNat = register.toNat / 2 := by
  have stays : ¬register &&& 1 = 1 := by
    rw [and_one_eq_one_iff]
    omega
  unfold shiftBit
  rw [if_neg stays, toNat_shiftRight_one]

/-- A byte of zeros leaves the register without a trace. -/
theorem shiftByte_of_clear {register : UInt32} {rest : Nat} (clear : register.toNat = 256 * rest) :
    (shiftByte register).toNat = rest := by
  have halve {word : UInt32} {rest : Nat} (twice : word.toNat = 2 * rest) :
      (shiftBit word).toNat = rest := by
    rw [toNat_shiftBit_of_even (by omega), twice]
    omega
  unfold shiftByte
  exact halve (halve (halve (halve (halve (halve (halve (halve (by omega))))))))

/-! ## Bytes laid over the register -/

/-- Bytes as the word that they make, the lowest first. -/
def overlay (bytes : Bytes) : UInt32 :=
  UInt32.ofNat (Nat.ofDigits 256 (bytes.map UInt8.toNat))

theorem digits_lt (bytes : Bytes) : ∀ digit ∈ bytes.map UInt8.toNat, digit < 256 := by
  intro digit member
  obtain ⟨byte, -, rfl⟩ := List.mem_map.1 member
  exact byte.toNat_lt

theorem ofDigits_lt (bytes : Bytes) :
    Nat.ofDigits 256 (bytes.map UInt8.toNat) < 256 ^ bytes.length := by
  simpa using Nat.ofDigits_lt_base_pow_length (by decide) (digits_lt bytes)

theorem toNat_overlay {bytes : Bytes} (short : bytes.length ≤ 4) :
    (overlay bytes).toNat = Nat.ofDigits 256 (bytes.map UInt8.toNat) := by
  have small : Nat.ofDigits 256 (bytes.map UInt8.toNat) < 2 ^ 32 :=
    Nat.lt_of_lt_of_le (ofDigits_lt bytes) (Nat.pow_le_pow_right (n := 256) (by decide) short)
  exact UInt32.toNat_ofNat_of_lt' small

theorem overlay_inj {bytes other : Bytes} (short : bytes.length ≤ 4)
    (same : bytes.length = other.length) (h : overlay bytes = overlay other) : bytes = other := by
  have numbers := congrArg UInt32.toNat h
  rw [toNat_overlay short, toNat_overlay (same ▸ short)] at numbers
  have digits := Nat.ofDigits_inj_of_len_eq (by decide) (by simpa using same) (digits_lt bytes)
    (digits_lt other) numbers
  exact (List.map_inj_right fun _ _ => UInt8.toNat_inj.1).1 digits

/-- Bits that do not overlap are added by laying them over each other. -/
theorem add_eq_xor {low : Nat} (small : low < 2 ^ 8) (high : Nat) :
    low + 256 * high = low ^^^ 256 * high := by
  apply Nat.eq_of_testBit_eq
  intro place
  rw [Nat.add_comm, Nat.testBit_xor, Nat.testBit_two_pow_mul_add (i := 8) high small,
    Nat.testBit_two_pow_mul (i := 8)]
  rcases Nat.lt_or_ge place 8 with inside | outside
  · simp [inside, Nat.not_le.2 inside]
  · have none : low.testBit place = false :=
      Nat.testBit_lt_two_pow (Nat.lt_of_lt_of_le small (Nat.pow_le_pow_right (by decide) outside))
    simp [none, outside, Nat.not_lt.2 outside]

theorem overlay_cons (byte : UInt8) (rest : Bytes) :
    overlay (byte :: rest) = byte.toUInt32 ^^^
      UInt32.ofNat (256 * Nat.ofDigits 256 (rest.map UInt8.toNat)) := by
  have low : byte.toUInt32 = UInt32.ofNat byte.toNat := by
    rw [UInt32.ofNat_uInt8ToNat]
  rw [overlay, List.map_cons, Nat.ofDigits_cons, low, ← UInt32.ofNat_xor,
    ← add_eq_xor byte.toNat_lt]

/-- The register after so many bytes have left it. -/
def shiftBytes (register : UInt32) (count : Nat) : UInt32 :=
  shiftByte^[count] register

theorem shiftBytes_inj {register other : UInt32} {count : Nat}
    (h : shiftBytes register count = shiftBytes other count) : register = other :=
  Function.Injective.iterate (fun _ _ => shiftByte_inj) count h

/-- **Up to four bytes may be laid over the register at once.** -/
theorem absorbAll_eq_shiftBytes (register : UInt32) {bytes : Bytes} (short : bytes.length ≤ 4) :
    absorbAll register bytes = shiftBytes (register ^^^ overlay bytes) bytes.length := by
  induction bytes generalizing register with
  | nil =>
    show register = register ^^^ 0
    rw [UInt32.xor_zero]
  | cons byte rest ih =>
    have fewer : rest.length < 4 := short
    -- The bytes behind the first one come down to where they are taken in.
    have comes : shiftByte (UInt32.ofNat (256 * Nat.ofDigits 256 (rest.map UInt8.toNat))) =
        overlay rest := by
      have small : 256 * Nat.ofDigits 256 (rest.map UInt8.toNat) < 2 ^ 32 := by
        have digits := ofDigits_lt rest
        have room : 256 ^ rest.length ≤ 256 ^ 3 :=
          Nat.pow_le_pow_right (by decide) (Nat.le_of_lt_succ fewer)
        omega
      apply UInt32.toNat_inj.1
      rw [toNat_overlay (Nat.le_of_lt fewer)]
      exact shiftByte_of_clear (UInt32.toNat_ofNat_of_lt' small)
    rw [absorbAll_cons, ih _ (Nat.le_of_lt fewer), absorb, ← comes, ← shiftByte_xor,
      UInt32.xor_assoc, ← overlay_cons]
    rfl

/-- Different bytes leave different registers, if there are at most four of them. -/
theorem absorbAll_burst_inj {register : UInt32} {burst other : Bytes} (short : burst.length ≤ 4)
    (same : burst.length = other.length)
    (h : absorbAll register burst = absorbAll register other) : burst = other := by
  rw [absorbAll_eq_shiftBytes register short, absorbAll_eq_shiftBytes register (same ▸ short),
    ← same] at h
  exact overlay_inj short same ((UInt32.xor_right_inj register).1 (shiftBytes_inj h))

/-- A burst is noticed, whatever stands around it. -/
theorem crc32c_ne_of_burst (front back : Bytes) {burst other : Bytes} (short : burst.length ≤ 4)
    (same : burst.length = other.length) (changed : burst ≠ other) :
    crc32c (front ++ (burst ++ back)) ≠ crc32c (front ++ (other ++ back)) := by
  intro equal
  have register := (UInt32.xor_left_inj 0xFFFFFFFF).1 equal
  simp only [absorbAll_append] at register
  exact changed (absorbAll_burst_inj short same (absorbAll_inj register))

end Checksum

/-! ## Ranges of a buffer -/

open Checksum

/-- Two byte sequences that differ in a stretch only are the same but for it. -/
theorem Bytes.split_of_agree {bytes other : Bytes} (same : bytes.length = other.length)
    {first last : Nat} (ordered : first ≤ last)
    (confined : ∀ i, bytes[i]? ≠ other[i]? → first ≤ i ∧ i < last) :
    ∃ front burst burst' back, bytes = front ++ (burst ++ back) ∧
      other = front ++ (burst' ++ back) ∧ burst.length = burst'.length ∧
      burst.length ≤ last - first := by
  have fronts : bytes.take first = other.take first := by
    apply List.ext_getElem?
    intro i
    rw [List.getElem?_take, List.getElem?_take]
    split
    next before =>
      by_contra differs
      exact absurd (confined i differs).1 (Nat.not_le.2 before)
    next => rfl
  have backs : bytes.drop last = other.drop last := by
    apply List.ext_getElem?
    intro i
    rw [List.getElem?_drop, List.getElem?_drop]
    by_contra differs
    have := (confined _ differs).2
    omega
  have parts (whole : Bytes) :
      whole = whole.take first ++ ((whole.drop first).take (last - first) ++ whole.drop last) := by
    have rest : whole.drop last = (whole.drop first).drop (last - first) := by
      rw [List.drop_drop, Nat.add_sub_cancel' ordered]
    rw [rest, List.take_append_drop, List.take_append_drop]
  refine ⟨bytes.take first, (bytes.drop first).take (last - first),
    (other.drop first).take (last - first), bytes.drop last, parts bytes, ?_, by simp [same],
    by simp⟩
  rw [fronts, backs]
  exact parts other

/-- A range is not verified with a checksum that is not its own. -/
theorem verifyRange_ne_of_ne {data : Bytes} {start stop : Nat} {actual expected : UInt32}
    (computed : checkedChecksum data start stop = .ok actual) (differs : actual ≠ expected)
    (policy : Policy) (path : Path) (base : Nat) (asked : List Mismatch) :
    (verifyRange policy path base data start stop expected asked).1 ≠ .ok true := by
  unfold verifyRange
  simp only [computed, if_neg differs]
  split
  next => nofun
  next => nofun

/-- **Every burst is noticed.**  If two buffers differ in a range, and do so in at most four bytes
in a row only, then the range has a checksum in each of them, and not the same one; so neither is
ever verified with the checksum of the other, whatever the policy. -/
theorem burst_noticed {data other : Bytes} {start stop burst : Nat} (ordered : start ≤ stop)
    (inside : stop ≤ data.length) (same : other.length = data.length)
    (confined : ∀ i, start ≤ i → i < stop → data[i]? ≠ other[i]? → burst ≤ i ∧ i < burst + 4)
    (damaged : ∃ i, start ≤ i ∧ i < stop ∧ data[i]? ≠ other[i]?) :
    ∃ checksum checksum', checkedChecksum data start stop = .ok checksum ∧
      checkedChecksum other start stop = .ok checksum' ∧ checksum ≠ checksum' ∧
      ∀ policy path base asked,
        (verifyRange policy path base data start stop checksum' asked).1 ≠ .ok true ∧
        (verifyRange policy path base other start stop checksum asked).1 ≠ .ok true := by
  let range (bytes : Bytes) : Bytes := (bytes.drop start).take (stop - start)
  have checked {bytes : Bytes} (length : bytes.length = data.length) :
      checkedChecksum bytes start stop = .ok (crc32c (range bytes)) := by
    have fits : start ≤ stop ∧ stop ≤ bytes.length := ⟨ordered, length ▸ inside⟩
    simp only [checkedChecksum, rangeChecksum?, Bytes.slice?, if_pos fits, Option.map_some, range]
  have places (bytes : Bytes) (i : Nat) :
      (range bytes)[i]? = if i < stop - start then bytes[start + i]? else none := by
    simp only [range, List.getElem?_take, List.getElem?_drop]
  -- Inside the range the burst starts where it does in the buffer, or at the front.
  have apart : crc32c (range data) ≠ crc32c (range other) := by
    have agree : ∀ i, (range data)[i]? ≠ (range other)[i]? →
        burst - start ≤ i ∧ i < burst + 4 - start := by
      intro i differs
      rw [places, places] at differs
      split at differs
      next before =>
        have := confined (start + i) (by omega) (by omega) differs
        omega
      next => exact absurd rfl differs
    have lengths : (range data).length = (range other).length := by simp [range, same]
    obtain ⟨front, damage, damage', back, whole, whole', lengths, short⟩ :=
      Bytes.split_of_agree lengths (by omega) agree
    rw [whole, whole']
    refine crc32c_ne_of_burst front back (by omega) lengths ?_
    rintro rfl
    obtain ⟨i, after, before, differs⟩ := damaged
    have equal : (range data)[i - start]? = (range other)[i - start]? := by rw [whole, whole']
    rw [places, places, if_pos (by omega), if_pos (by omega), Nat.add_sub_cancel' after] at equal
    exact differs equal
  refine ⟨_, _, checked rfl, checked same, apart, fun policy path base asked => ⟨?_, ?_⟩⟩
  · exact verifyRange_ne_of_ne (checked rfl) apart policy path base asked
  · exact verifyRange_ne_of_ne (checked same) apart.symm policy path base asked

/-- The first and the last byte of a burst are damaged; that the bytes in front of the range differ
as well does not matter. -/
theorem burst_noticed_ends : ∃ checksum checksum',
    checkedChecksum [1, 2, 3, 4, 5, 6] 1 6 = .ok checksum ∧
      checkedChecksum [9, 2, 7, 4, 5, 0] 1 6 = .ok checksum' ∧ checksum ≠ checksum' ∧
      (verifyRange .skip ⟨["blocks"]⟩ 0 [9, 2, 7, 4, 5, 0] 1 6 checksum []).1 ≠ .ok true := by
  have confined : ∀ i, 1 ≤ i → i < 6 →
      ([1, 2, 3, 4, 5, 6] : Bytes)[i]? ≠ ([9, 2, 7, 4, 5, 0] : Bytes)[i]? →
        2 ≤ i ∧ i < 2 + 4 := by
    intro i after before differs
    refine ⟨?_, before⟩
    by_contra early
    obtain rfl : i = 1 := by omega
    exact differs rfl
  have damaged : ∃ i, 1 ≤ i ∧ i < 6 ∧
      ([1, 2, 3, 4, 5, 6] : Bytes)[i]? ≠ ([9, 2, 7, 4, 5, 0] : Bytes)[i]? := ⟨2, by decide⟩
  have inside : 6 ≤ ([1, 2, 3, 4, 5, 6] : Bytes).length := by decide
  have same : ([9, 2, 7, 4, 5, 0] : Bytes).length = ([1, 2, 3, 4, 5, 6] : Bytes).length := rfl
  obtain ⟨checksum, checksum', computed, computed', apart, unverified⟩ :=
    burst_noticed (show 1 ≤ 6 by decide) inside same confined damaged
  exact ⟨checksum, checksum', computed, computed', apart, (unverified _ _ _ _).2⟩

end DurableStore
