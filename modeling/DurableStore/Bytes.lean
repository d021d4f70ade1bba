/-!
Byte sequences and the little-endian words in them.

`Bytes` is a plain list, so every format below is read by taking a front off a list and goes on
with the rest.  `splitExactly?` is that step for a known number of bytes, and the word encoders
and decoders undo each other (`word32_bytes`, `ofWord32_word32`,
`int32_bytes`).
-/

namespace DurableStore

/-- The content of a file, of a block or of a record. -/
abbrev Bytes := List UInt8

namespace Bytes

/-- The first `count` bytes and what follows them, or `none` if there are fewer. -/
def splitExactly? (count : Nat) (bytes : Bytes) : Option (Bytes × Bytes) :=
  let front := bytes.take count
  if front.length = count then some (front, bytes.drop count) else none

/-- The bytes from `start` up to `stop`, or `none` if the range does not fit. -/
def slice? (bytes : Bytes) (start stop : Nat) : Option Bytes :=
  if start ≤ stop ∧ stop ≤ bytes.length then some ((bytes.drop start).take (stop - start))
  else none

/-- `bytes` with `patch` written over them from `offset` on; a gap before `offset` is zeros. -/
def overwrite (bytes : Bytes) (offset : Nat) (patch : Bytes) : Bytes :=
  let front := bytes.take offset
  front ++ List.replicate (offset - front.length) 0 ++ patch ++ bytes.drop (offset + patch.length)

/-- `bytes` cut off or filled up with zeros to `length`. -/
def resize (bytes : Bytes) (length : Nat) : Bytes :=
  let front := bytes.take length
  front ++ List.replicate (length - front.length) 0

/-- Four bytes, the lowest first. -/
def ofWord32 (word : UInt32) : Bytes :=
  [word.toUInt8, (word >>> 8).toUInt8, (word >>> 16).toUInt8, (word >>> 24).toUInt8]

/-- The word whose bytes are given, the lowest first. -/
def word32 (b0 b1 b2 b3 : UInt8) : UInt32 :=
  b0.toUInt32 ||| (b1.toUInt32 <<< 8) ||| (b2.toUInt32 <<< 16) ||| (b3.toUInt32 <<< 24)

/-- Four bytes of a signed word in two's complement, the lowest first. -/
def ofInt32 (word : Int32) : Bytes :=
  ofWord32 word.toUInt32

/-- The signed word whose bytes are given, the lowest first. -/
def int32 (b0 b1 b2 b3 : UInt8) : Int32 :=
  (word32 b0 b1 b2 b3).toInt32

@[simp] theorem length_ofWord32 (word : UInt32) : (ofWord32 word).length = 4 := rfl

@[simp] theorem length_ofInt32 (word : Int32) : (ofInt32 word).length = 4 := rfl

theorem word32_bytes (word : UInt32) :
    word32 word.toUInt8 (word >>> 8).toUInt8 (word >>> 16).toUInt8 (word >>> 24).toUInt8 =
      word := by
  apply UInt32.toBitVec_inj.1
  simp only [word32, UInt32.toBitVec_or, UInt32.toBitVec_shiftLeft, UInt8.toBitVec_toUInt32,
    UInt32.toBitVec_toUInt8, UInt32.toBitVec_shiftRight]
  ext i bound
  simp
  -- Which of the four bytes holds the bit.
  rcases Nat.lt_or_ge i 8 with h | h
  · simp [h, BitVec.getLsbD_eq_getElem bound, show i < 16 by omega, show i < 24 by omega]
  rcases Nat.lt_or_ge i 16 with h' | h'
  · grind
  rcases Nat.lt_or_ge i 24 with h'' | h'' <;> grind

/-- Four bytes are the bytes of the word that they make. -/
theorem ofWord32_word32 (b0 b1 b2 b3 : UInt8) :
    ofWord32 (word32 b0 b1 b2 b3) = [b0, b1, b2, b3] := by
  have high (byte : UInt8) {place : Nat} (outside : 8 ≤ place) :
      byte.toBitVec.getLsbD place = false := BitVec.getLsbD_of_ge _ _ outside
  simp only [ofWord32, word32, List.cons.injEq, and_true]
  -- One goal for each of the four bytes, and in it each bit shows which byte it came from.
  refine ⟨?_, ?_, ?_, ?_⟩
  all_goals
    apply UInt8.toBitVec_inj.1
    simp only [UInt32.toBitVec_or, UInt32.toBitVec_shiftLeft, UInt8.toBitVec_toUInt32,
      UInt32.toBitVec_toUInt8, UInt32.toBitVec_shiftRight]
    ext i bound
    simp <;> grind

theorem int32_bytes (word : Int32) :
    int32 word.toUInt32.toUInt8 (word.toUInt32 >>> 8).toUInt8 (word.toUInt32 >>> 16).toUInt8
      (word.toUInt32 >>> 24).toUInt8 = word := by
  rw [int32, word32_bytes, Int32.toInt32_toUInt32]

theorem splitExactly?_eq_some {count : Nat} {bytes front rest : Bytes}
    (h : splitExactly? count bytes = some (front, rest)) :
    bytes = front ++ rest ∧ front.length = count := by
  simp only [splitExactly?] at h
  split at h
  next full =>
    obtain ⟨rfl, rfl⟩ := Prod.mk.inj (Option.some.inj h)
    exact ⟨(List.take_append_drop count bytes).symm, full⟩
  next => exact absurd h (by simp)

theorem splitExactly?_append (front rest : Bytes) :
    splitExactly? front.length (front ++ rest) = some (front, rest) := by
  simp [splitExactly?]

theorem splitExactly?_eq_none_iff {count : Nat} {bytes : Bytes} :
    splitExactly? count bytes = none ↔ bytes.length < count := by
  simp only [splitExactly?, List.length_take]
  split <;> simp <;> omega

end Bytes

end DurableStore
