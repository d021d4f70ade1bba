import DurableStore.Block
import DurableStore.Block.Policy

/-!
Scanning a block file from its first byte to its last.

At each point the bytes ahead are one of four things (`Ahead`): nothing, a block that breaks off,
bytes that are no admissible header, or a complete block.  That cuts a file into `pieces`: complete
blocks one after another, stretches of garbage up to the next magic, and at the end perhaps a block
that breaks off.  Each cut leaves fewer bytes (`Ahead.length_of_garbage`,
`Ahead.length_of_complete`), so there is an end to it.  `judge` then verifies the blocks and asks
the policy; where the file was cut does not depend on the policy.
-/

namespace DurableStore

/-- What lies ahead in a block file; `σ` is what stands for the bytes behind it. -/
inductive Ahead (σ : Type) where
  /-- No bytes are left. -/
  | finished
  /-- The bytes end inside a header or inside the payload it announces. -/
  | torn
  /-- No admissible header; where the next magic stands and the bytes from there on. -/
  | garbage (next : Option (Nat × σ))
  /-- A complete block and the bytes behind it. -/
  | complete (header : Header) (payload : Bytes) (rest : σ)

namespace Ahead

/-- With `f` applied to what stands for the bytes behind. -/
def map {σ τ : Type} (f : σ → τ) : Ahead σ → Ahead τ
  | finished => finished
  | torn => torn
  | garbage next => garbage (next.map fun (gap, found) => (gap, f found))
  | complete header payload rest => complete header payload (f rest)

/-- What lies ahead in `bytes` if payloads are at most `limit` long. -/
def of (limit : Nat) (bytes : Bytes) : Ahead Bytes :=
  match bytes with
  | [] => .finished
  | _ :: later =>
    match Header.parse? bytes with
    | none => .torn
    | some (header, body) =>
      if header.admissible limit then
        match Bytes.splitExactly? header.length.toNat body with
        | none => .torn
        | some (payload, rest) => .complete header payload rest
      else
        .garbage ((nextMagic? later).map fun (gap, found) => (gap + 1, found))

theorem length_of_garbage {limit gap : Nat} {bytes found : Bytes}
    (h : of limit bytes = .garbage (some (gap, found))) :
    gap + found.length = bytes.length ∧ 0 < gap := by
  unfold of at h
  split at h
  next => exact absurd h (by simp)
  next later =>
    split at h
    next => exact absurd h (by simp)
    next =>
      split at h
      next => split at h <;> exact absurd h (by simp)
      next =>
        obtain ⟨⟨gap', found'⟩, next, heq⟩ := Option.map_eq_some_iff.1 (Ahead.garbage.inj h)
        obtain ⟨rfl, rfl⟩ := Prod.mk.inj heq
        have := (nextMagic?_eq_some next).2.1
        simp only [List.length_cons]
        omega

theorem length_of_complete {limit : Nat} {bytes payload rest : Bytes} {header : Header}
    (h : of limit bytes = .complete header payload rest) :
    bytes.length = headerLength + payload.length + rest.length := by
  unfold of at h
  split at h
  next => exact absurd h (by simp)
  next later =>
    split at h
    next => exact absurd h (by simp)
    next parsed =>
      split at h
      next =>
        split at h
        next => exact absurd h (by simp)
        next halves =>
          obtain ⟨rfl, rfl, rfl⟩ := Ahead.complete.inj h
          have total := Header.length_of_parse? parsed
          have body := congrArg List.length (Bytes.splitExactly?_eq_some halves).1
          rw [List.length_append] at body
          omega
      next => exact absurd h (by simp)

end Ahead

/-- A part of a block file. -/
inductive Piece where
  /-- A complete block: where it starts, its header and its payload. -/
  | block (offset : Nat) (header : Header) (payload : Bytes)
  /-- Bytes that are no admissible header, up to the next magic or to the end. -/
  | garbage
  /-- A block that breaks off at the end, and where it starts. -/
  | torn (offset : Nat)
  deriving DecidableEq, Inhabited, Repr

/-- Cuts `bytes`, which start at `offset` of a file, into pieces. -/
def pieces (limit offset : Nat) (bytes : Bytes) : List Piece :=
  match ahead : Ahead.of limit bytes with
  | .finished => []
  | .torn => [.torn offset]
  | .garbage none => [.garbage]
  | .garbage (some (gap, rest)) =>
    have : rest.length < bytes.length := by have := Ahead.length_of_garbage ahead; omega
    .garbage :: pieces limit (offset + gap) rest
  | .complete header payload rest =>
    have : rest.length < bytes.length := by
      have := Ahead.length_of_complete ahead
      simp only [headerLength] at this
      omega
    .block offset header payload :: pieces limit (offset + headerLength + payload.length) rest
  termination_by bytes.length

theorem pieces_of_ahead {limit : Nat} (offset : Nat) {bytes : Bytes} {found : Ahead Bytes}
    (ahead : Ahead.of limit bytes = found) :
    pieces limit offset bytes =
      match found with
      | .finished => []
      | .torn => [.torn offset]
      | .garbage none => [.garbage]
      | .garbage (some (gap, rest)) => .garbage :: pieces limit (offset + gap) rest
      | .complete header payload rest =>
        .block offset header payload ::
          pieces limit (offset + headerLength + payload.length) rest := by
  subst ahead
  rw [pieces]
  split <;> split <;> simp_all

/-- An intact block: where it starts and what it holds. -/
structure Found where
  offset : Nat
  payload : Bytes
  deriving DecidableEq, Inhabited, Repr

/-- What a scan gathers from some point of a file on. -/
structure Tally where
  /-- The intact blocks, in file order. -/
  found : List Found := []
  /-- How many blocks and stretches of garbage were passed over. -/
  skipped : Nat := 0
  /-- Where the block starts that breaks off at the end. -/
  tornAt : Option Nat := none
  deriving DecidableEq, Inhabited, Repr

namespace Tally

/-- With one more intact block in front. -/
def keep (offset : Nat) (payload : Bytes) (tally : Tally) : Tally :=
  { tally with found := ⟨offset, payload⟩ :: tally.found }

/-- With one more stretch passed over. -/
def pass (tally : Tally) : Tally :=
  { tally with skipped := tally.skipped + 1 }

end Tally

/-- Verifies the blocks among the pieces of the file at `path`.  The mismatches that the policy was
asked about go in and come out, oldest first. -/
def judge (policy : Policy) (path : Path) :
    List Piece → List Mismatch → Except Fault Tally × List Mismatch
  | [], asked => (.ok {}, asked)
  | .torn offset :: _, asked => (.ok { tornAt := some offset }, asked)
  | .garbage :: later, asked =>
    let (tally, asked) := judge policy path later asked
    (tally.map Tally.pass, asked)
  | .block offset header payload :: later, asked =>
    let start := offset + headerLength
    let actual := Checksum.crc32c payload
    if actual = header.checksum then
      let (tally, asked) := judge policy path later asked
      (tally.map (Tally.keep offset payload), asked)
    else
      let mismatch : Mismatch :=
        ⟨path, start, start + payload.length, header.checksum, actual⟩
      match policy.verdict asked mismatch with
      | .error fault => (.error fault, asked ++ [mismatch])
      | .ok () =>
        let (tally, asked) := judge policy path later (asked ++ [mismatch])
        (tally.map Tally.pass, asked)

/-- What a scan of a whole file found. -/
structure Recovery where
  /-- The intact blocks, in file order. -/
  found : List Found := []
  /-- How many blocks and stretches of garbage were passed over. -/
  skipped : Nat := 0
  /-- Where the block starts that breaks off at the end. -/
  tornAt : Option Nat := none
  /-- How long the file is without that block. -/
  validLength : Nat := 0
  deriving DecidableEq, Inhabited, Repr

/-- What the intact blocks hold, in file order. -/
def Recovery.payloads (recovery : Recovery) : List Bytes :=
  recovery.found.map Found.payload

/-- The outcome of a scan of a file that is `length` bytes long. -/
def Recovery.ofTally (length : Nat) (tally : Tally) : Recovery :=
  { found := tally.found, skipped := tally.skipped, tornAt := tally.tornAt,
    validLength := tally.tornAt.getD length }

/-- The outcome of a scan of the file at `path`, which is `length` bytes long, from its pieces. -/
def Recovery.ofPieces (policy : Policy) (path : Path) (length : Nat) (pieces : List Piece)
    (asked : List Mismatch) : Except Fault Recovery × List Mismatch :=
  let (tally, asked) := judge policy path pieces asked
  (tally.map (Recovery.ofTally length), asked)

/-- Scans the whole `content` of the file at `path`. -/
def scan (limit : Nat) (policy : Policy) (path : Path) (content : Bytes)
    (asked : List Mismatch) : Except Fault Recovery × List Mismatch :=
  Recovery.ofPieces policy path content.length (pieces limit 0 content) asked

end DurableStore
