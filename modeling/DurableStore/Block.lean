import DurableStore.Checksum
import DurableStore.Fault

/-!
The block format: a header of sixteen bytes, then the payload.

| bytes | meaning |
| --- | --- |
| 0 to 3 | the magic `KSTN` |
| 4 to 7 | length of the payload, lowest byte first |
| 8 to 11 | CRC-32C of the payload, lowest byte first |
| 12 to 15 | reserved, zero when written, ignored when read |

`stamp` builds a block and `Header.parse?` reads a header off the front of a buffer; the header
that is read is the one that was written (`Header.parse?_encode`).
-/

namespace DurableStore

/-- The four bytes every block starts with. -/
def magic : Bytes := [0x4B, 0x53, 0x54, 0x4E]

/-- How long a header is. -/
def headerLength : Nat := 16

/-- What stands in front of a payload. -/
structure Header where
  /-- The first four bytes; the magic, unless the header is damaged. -/
  mark : Bytes
  /-- How long the payload is. -/
  length : UInt32
  /-- The CRC-32C of the payload. -/
  checksum : UInt32
  deriving DecidableEq, Inhabited, Repr

namespace Header

/-- The header of a payload. -/
def ofPayload (payload : Bytes) : Header :=
  { mark := magic, length := UInt32.ofNat payload.length, checksum := Checksum.crc32c payload }

/-- The sixteen bytes of a header. -/
def encode (header : Header) : Bytes :=
  header.mark ++ Bytes.ofWord32 header.length ++ Bytes.ofWord32 header.checksum ++ [0, 0, 0, 0]

/-- The header at the front of `bytes` and what follows it, if sixteen bytes are there. -/
def parse? : Bytes → Option (Header × Bytes)
  | m0 :: m1 :: m2 :: m3 :: l0 :: l1 :: l2 :: l3 :: c0 :: c1 :: c2 :: c3 ::
      _ :: _ :: _ :: _ :: rest =>
    some ({ mark := [m0, m1, m2, m3], length := Bytes.word32 l0 l1 l2 l3,
            checksum := Bytes.word32 c0 c1 c2 c3 }, rest)
  | _ => none

/-- Whether the header starts with the magic. -/
def hasMagic (header : Header) : Bool :=
  header.mark == magic

/-- Whether a block with this header may stand in a file whose payloads are at most `limit` long. -/
def admissible (limit : Nat) (header : Header) : Bool :=
  header.hasMagic && header.length.toNat ≤ limit

theorem length_of_parse? {bytes rest : Bytes} {header : Header}
    (h : parse? bytes = some (header, rest)) : bytes.length = headerLength + rest.length := by
  unfold parse? at h
  split at h
  next =>
    obtain ⟨-, rfl⟩ := Prod.mk.inj (Option.some.inj h)
    simp only [List.length_cons, headerLength]
    omega
  next => exact absurd h (by simp)

theorem parse?_encode (header : Header) (rest : Bytes) (whole : header.mark.length = 4) :
    parse? (header.encode ++ rest) = some (header, rest) := by
  obtain ⟨mark, length, checksum⟩ := header
  match mark, whole with
  | [m0, m1, m2, m3], _ => simp [encode, parse?, Bytes.ofWord32, Bytes.word32_bytes]

end Header

/-- The block of a payload that is at most `limit` long. -/
def stamp (limit : Nat) (payload : Bytes) : Except Fault Bytes :=
  if payload.length ≤ limit then .ok ((Header.ofPayload payload).encode ++ payload)
  else .error (.oversizedBlock payload.length limit)

/-- How far ahead the magic stands next in `bytes`, and the bytes from there on. -/
def nextMagic? : Bytes → Option (Nat × Bytes)
  | [] => none
  | byte :: rest =>
    if magic.isPrefixOf (byte :: rest) then some (0, byte :: rest)
    else (nextMagic? rest).map fun (gap, found) => (gap + 1, found)

/-- The first offset from `start` on at which the magic stands in `bytes`. -/
def findMagic? (bytes : Bytes) (start : Nat) : Option Nat :=
  (nextMagic? (bytes.drop start)).map fun (gap, _) => start + gap

theorem nextMagic?_eq_some {bytes found : Bytes} {gap : Nat}
    (h : nextMagic? bytes = some (gap, found)) :
    found = bytes.drop gap ∧ gap + found.length = bytes.length ∧ magic <+: found := by
  induction bytes generalizing gap found with
  | nil => simp [nextMagic?] at h
  | cons byte rest ih =>
    simp only [nextMagic?] at h
    split at h
    next here =>
      obtain ⟨rfl, rfl⟩ := Prod.mk.inj (Option.some.inj h)
      exact ⟨rfl, Nat.zero_add _, List.isPrefixOf_iff_prefix.1 here⟩
    next =>
      obtain ⟨⟨gap', found'⟩, next, heq⟩ := Option.map_eq_some_iff.1 h
      obtain ⟨rfl, rfl⟩ := Prod.mk.inj heq
      obtain ⟨rest_eq, length_eq, front⟩ := ih next
      refine ⟨rest_eq, ?_, front⟩
      simp only [List.length_cons]
      omega

end DurableStore
