import DurableStore.Proofs.BlockFile.Appending
import DurableStore.Proofs.BlockFile.BitFlip
import DurableStore.Proofs.BlockFile.Consultation

/-!
A bit of a payload that is turned over.

The header in front of the payload is as it was, so the block ends where it did and only its
checksum does not fit any more: a scan meets one mismatch and finds the other blocks (`scan_skip`).
A policy is asked about that one mismatch, whose range is the payload's, and a recovery has nothing
to cut off (`recover_pinpoints`).  That is so if the header could announce the payload; a recovery
never tells of a range that is longer (`recover_pinpoints_unannounced`).
-/

namespace DurableStore

/-- A row of blocks, and a bit in one of the payloads that is turned over. -/
structure PayloadRot where
  /-- What the blocks in front hold. -/
  front : List Bytes
  /-- What the damaged block held. -/
  payload : Bytes
  /-- What the blocks behind it hold. -/
  later : List Bytes
  /-- The byte of the payload whose bit it is. -/
  place : Nat
  bit : Fin 8
  inside : place < payload.length

namespace PayloadRot

variable (rot : PayloadRot)

/-- What was written. -/
def payloads : List Bytes :=
  rot.front ++ rot.payload :: rot.later

/-- Where the damaged block starts. -/
def block : Nat :=
  (row rot.front).length

/-- Where its payload starts. -/
def start : Nat :=
  rot.block + headerLength

/-- Where its payload ends. -/
def stop : Nat :=
  rot.start + rot.payload.length

/-- The bytes of the file. -/
def content : Bytes :=
  (row rot.payloads).flip (rot.start + rot.place) rot.bit

/-- What stands in place of the payload. -/
def rotten : Bytes :=
  rot.payload.flip rot.place rot.bit

/-- What is told of the damaged block: the checksum that was stored and the one that is computed. -/
def mismatch (path : Path) : Mismatch :=
  ⟨path, rot.start, rot.stop, Checksum.crc32c rot.payload, Checksum.crc32c rot.rotten⟩

/-- The blocks that are not damaged. -/
def others : List Found :=
  placed 0 rot.front ++ placed rot.stop rot.later

/-- A scan that skips the damaged block reports the others, and nothing to cut off. -/
def report : Recovery :=
  { found := rot.others, skipped := 1, validLength := rot.content.length }

theorem length_rotten : rot.rotten.length = rot.payload.length :=
  Bytes.length_flip ..

/-- The header is as it was. -/
theorem content_eq : rot.content = row rot.front ++
    ((Header.ofPayload rot.payload).encode ++ (rot.rotten ++ row rot.later)) := by
  have sixteen := Header.length_encode_ofPayload rot.payload
  have place : rot.start + rot.place = (row rot.front).length + (headerLength + rot.place) := by
    simp only [start, block]
    omega
  rw [content, payloads, row_append, row_cons, place, Bytes.flip_append_right, blockOf,
    List.append_assoc, ← sixteen, Bytes.flip_append_right, Bytes.flip_append_left rot.inside,
    rotten]

theorem payloads_report : rot.report.payloads = rot.front ++ rot.later := by
  simp [report, Recovery.payloads, others]

/-- What is told of the damaged block stands in the file. -/
theorem slices_content (path : Path) :
    rot.content.slice? (rot.block + 8) (rot.block + 12) =
        some (Bytes.ofWord32 (rot.mismatch path).expected) ∧
      rot.content.slice? rot.start rot.stop = some rot.rotten := by
  have sixteen := Header.length_encode_ofPayload rot.payload
  have inside : rot.block ≤ rot.content.length := by
    rw [content_eq, List.length_append]
    exact Nat.le_add_right _ _
  have behind : rot.content.drop rot.block =
      (Header.ofPayload rot.payload).encode ++ (rot.rotten ++ row rot.later) := by
    rw [content_eq]
    exact List.drop_left
  have read := Header.parse?_encode (.ofPayload rot.payload) (rot.rotten ++ row rot.later) rfl
  rw [← behind] at read
  refine ⟨(Header.slices_of_parse? read).2.2, ?_⟩
  have payload := Bytes.slice?_middle _ behind inside
  rwa [sixteen, length_rotten] at payload

variable {limit : Nat} (fit : ∀ payload ∈ rot.payloads, payload.length ≤ limit)
  (short : ∀ payload ∈ rot.payloads, payload.length ≤ Config.largestBlockLimit)

include fit short

/-- A scan goes along the row as if the payload were as it was. -/
theorem trail : Trail limit [] 0 rot.content
    ((placed 0 rot.front).map Found.piece ++
      .block rot.block (.ofPayload rot.payload) rot.rotten ::
        (placed rot.stop rot.later).map Found.piece) := by
  have at_block : rot.payload ∈ rot.payloads :=
    List.mem_append_right _ List.mem_cons_self
  have fits := fit _ at_block
  have small := short _ at_block
  have in_front : ∀ payload ∈ rot.front, payload ∈ rot.payloads :=
    fun payload member => List.mem_append_left _ member
  have behind : ∀ payload ∈ rot.later, payload ∈ rot.payloads :=
    fun payload member => List.mem_append_right _ (List.mem_cons_of_mem _ member)
  have announced : (Header.ofPayload rot.payload).length.toNat = rot.rotten.length := by
    rw [Header.length_ofPayload (Nat.le_refl _) small, length_rotten]
  have read := Header.parse?_encode (.ofPayload rot.payload) [] rfl
  rw [List.append_nil] at read
  have rest : Trail limit [] (rot.block + headerLength + rot.rotten.length) (row rot.later)
      ((placed rot.stop rot.later).map Found.piece) := by
    rw [length_rotten]
    exact Trail.ofRow limit rot.stop [] (fun payload member => fit payload (behind payload member))
      fun payload member => short payload (behind payload member)
  have tail := Trail.block read (Header.admissible_ofPayload_of_le small fits) announced rest
  have head := Trail.ofRow limit 0
    ((Header.ofPayload rot.payload).encode ++ (rot.rotten ++ row rot.later) ++ [])
    (fun payload member => fit payload (in_front payload member))
    fun payload member => short payload (in_front payload member)
  rw [content_eq]
  refine head.append ?_
  rwa [Nat.zero_add]

/-- **A scan that skips** meets the one mismatch and finds the other blocks. -/
theorem scan_skip (path : Path) (asked : List Mismatch) :
    scan limit .skip path rot.content asked = (.ok rot.report, asked ++ [rot.mismatch path]) := by
  have differs : Checksum.crc32c rot.rotten ≠ (Header.ofPayload rot.payload).checksum :=
    Checksum.crc32c_flip_ne rot.inside rot.bit
  have told : Mismatch.ofBlock path rot.block (.ofPayload rot.payload) rot.rotten =
      rot.mismatch path := by
    rw [Mismatch.ofBlock, length_rotten]
    rfl
  have rest := judge_append .skip path (placed rot.stop rot.later) []
    (asked ++ [rot.mismatch path])
  rw [List.append_nil] at rest
  have scanned := (rot.trail fit short).scan (.inl rfl) .skip path asked
  rw [List.append_nil, judge_append, judge_skip_of_mismatch differs, told, rest] at scanned
  rw [scanned]
  simp [judge, Except.map, Tally.pass, Recovery.ofTrail, report, others]

end PayloadRot

namespace BlockFile

variable {blocks : BlockFile} {disk : FileSystem} {id : FileId}

theorem recover_of_error {policy : Policy} {asked asked' : List Mismatch} {fault : Fault}
    (scanned : blocks.scan policy asked disk = (.error fault, asked')) :
    blocks.recover policy asked disk =
      { result := .error fault, asked := asked', blocks, disk } := by
  unfold recover
  simp only [scanned]

/-- **A bit of a payload that is turned over** is told with the range of that payload, the checksum
that stands in the header and the one that is computed, and the file is left as it is.  A recovery
that skips the block finds all others and has nothing to cut off.  (The file has to fit into memory,
and no header can announce a payload that is longer than its length field can say.) -/
theorem recover_pinpoints (rot : PayloadRot) (target : blocks.file.target = .file id)
    (holds : disk.length id ≤ disk.memory.bytes) (same : disk.content id = rot.content)
    (fit : ∀ payload ∈ rot.payloads, payload.length ≤ blocks.limit)
    (short : ∀ payload ∈ rot.payloads, payload.length ≤ Config.largestBlockLimit)
    (asked : List Mismatch) :
    let found := rot.mismatch blocks.path
    (rot.content.slice? (rot.block + 8) (rot.block + 12) = some (Bytes.ofWord32 found.expected) ∧
      rot.content.slice? found.start found.stop = some rot.rotten ∧
      found.actual = Checksum.crc32c rot.rotten ∧ found.actual ≠ found.expected) ∧
    blocks.recover .fail asked disk =
      { result := .error (.corruption found), asked := asked ++ [found], blocks, disk } ∧
    ∃ recovery, blocks.recover .skip asked disk =
        { result := .ok recovery, asked := asked ++ [found],
          blocks := { blocks with tornTail := none }, disk } ∧
      recovery.found = rot.others ∧ recovery.payloads = rot.front ++ rot.later ∧
      recovery.skipped = 1 ∧ recovery.tornAt = none ∧ recovery.validLength = disk.length id := by
  intro found
  obtain ⟨stored, computed⟩ := rot.slices_content blocks.path
  have skips (asked : List Mismatch) :
      DurableStore.scan blocks.limit .skip blocks.path (disk.content id) asked =
        (.ok rot.report, asked ++ [found]) := by
    rw [same]
    exact rot.scan_skip fit short blocks.path asked
  -- The default policy refuses the only mismatch that there is.
  have fails : DurableStore.scan blocks.limit .fail blocks.path (disk.content id) asked =
      (.error (.corruption found), asked ++ [found]) := by
    rw [scan_of_scan_skip (skips [])]
    rfl
  have length : rot.content.length = disk.length id := by
    rw [← same, FileSystem.length_content]
  refine ⟨⟨stored, computed, rfl, Checksum.crc32c_flip_ne rot.inside rot.bit⟩, ?_, rot.report, ?_,
    rfl, rot.payloads_report, rfl, rfl, length⟩
  · exact recover_of_error (scan_of_target target holds fails)
  · exact recover_of_whole (scan_of_target target holds (skips asked)) rfl

/-- Three blocks, and the highest bit of the last byte in the middle one. -/
def middleRot : PayloadRot :=
  { front := [[1]], payload := [2, 3], later := [[], [4]], place := 1, bit := 7, inside := by decide }

/-- The middle payload stands from byte 33 to byte 35, and its last byte reads 0x83. -/
theorem recover_pinpoints_middle :
    (fresh ⟨["blocks"]⟩ 1024 0).recover .fail [] (.ofFile middleRot.content) =
      { result := .error (.corruption ⟨⟨["blocks"]⟩, 33, 35, Checksum.crc32c [2, 3],
          Checksum.crc32c [2, 0x83]⟩)
        asked := [middleRot.mismatch ⟨["blocks"]⟩], blocks := fresh ⟨["blocks"]⟩ 1024 0
        disk := .ofFile middleRot.content } ∧
    ∃ recovery, (fresh ⟨["blocks"]⟩ 1024 0).recover .skip [] (.ofFile middleRot.content) =
        { result := .ok recovery, asked := [middleRot.mismatch ⟨["blocks"]⟩]
          blocks := fresh ⟨["blocks"]⟩ 1024 0, disk := .ofFile middleRot.content } ∧
      recovery.payloads = [[1], [], [4]] ∧ recovery.skipped = 1 ∧ recovery.tornAt = none := by
  have fit : ∀ payload ∈ middleRot.payloads, payload.length ≤ 1024 := by decide
  have short : ∀ payload ∈ middleRot.payloads, payload.length ≤ Config.largestBlockLimit := by decide
  have target : (fresh ⟨["blocks"]⟩ 1024 0).file.target = .file 0 := rfl
  obtain ⟨-, failed, recovery, skipped, -, payloads, one, whole, -⟩ :=
    recover_pinpoints middleRot target (by decide +kernel)
      (FileSystem.content_ofFile middleRot.content) fit short []
  exact ⟨failed, recovery, skipped, payloads, one, whole⟩

/-! ## What a header cannot announce -/

/-- A recovery under the default policy tells of no range that is longer than a header can
announce. -/
theorem short_of_corruption (writes : blocks.file.writable? = some id)
    (there : id < disk.contents.size) (holds : disk.length id ≤ disk.memory.bytes)
    {asked : List Mismatch} {found : Mismatch}
    (told : (blocks.recover .fail asked disk).result = .error (.corruption found)) :
    found.stop ≤ found.start + Config.largestBlockLimit := by
  rcases scanned : DurableStore.scan blocks.limit .fail blocks.path (disk.content id) asked with
    ⟨fault | recovery, asked'⟩
  · have read := scan_of_target (OpenFile.target_of_writable? writes) holds scanned
    rw [recover_of_error read] at told
    obtain ⟨found', met, same⟩ := scan_fail_eq_error scanned
    cases told
    cases same
    exact short_of_mismatch met
  · obtain ⟨after, recovered, -⟩ := recover_of_scan writes there holds scanned
    rw [recovered] at told
    cases told

/-- A row of one block that is all zeros, and its first bit. -/
def zeroRot (count : Nat) (some_byte : 0 < count) : PayloadRot :=
  { front := [], payload := List.replicate count 0, later := [], place := 0, bit := 0
    inside := by rwa [List.length_replicate] }

/-- Of a bit that is turned over in 2^32 zeros a recovery does not tell the range: the header
announces that there is nothing behind it. -/
theorem recover_pinpoints_unannounced :
    let rot := zeroRot 4294967296 (by decide)
    (∀ payload ∈ rot.payloads, payload.length ≤ 4294967296) ∧
      (FileSystem.ofFile rot.content).length 0 ≤ (FileSystem.ofFile rot.content).memory.bytes ∧
      (Header.ofPayload rot.payload).length = 0 ∧
      ∀ asked, ((fresh ⟨["blocks"]⟩ 4294967296 0).recover .fail asked
        (.ofFile rot.content)).result ≠ .error (.corruption (rot.mismatch ⟨["blocks"]⟩)) := by
  intro rot
  have long : rot.payload.length = 4294967296 := List.length_replicate
  have holds : (FileSystem.ofFile rot.content).length 0 ≤
      (FileSystem.ofFile rot.content).memory.bytes := by
    rw [← FileSystem.length_content, FileSystem.content_ofFile, PayloadRot.content,
      Bytes.length_flip]
    show (row [rot.payload]).length ≤ (default : Memory).bytes
    rw [row_cons, row_nil, List.append_nil, length_blockOf, long]
    decide
  refine ⟨?_, holds, ?_, ?_⟩
  · intro payload member
    obtain rfl : payload = rot.payload := List.mem_singleton.1 member
    exact Nat.le_of_eq long
  · rw [Header.ofPayload, long]
    rfl
  · intro asked told
    have short := short_of_corruption rfl Nat.one_pos holds told
    have range : (rot.mismatch ⟨["blocks"]⟩).stop =
      (rot.mismatch ⟨["blocks"]⟩).start + rot.payload.length := rfl
    rw [range, long] at short
    cases Nat.not_lt_of_le short (Nat.add_lt_add_left (by decide) _)

end BlockFile

end DurableStore
