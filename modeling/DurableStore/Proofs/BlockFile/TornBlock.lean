import DurableStore.Proofs.BlockFile.Consultation

/-!
What is told of a block that breaks off.

A check for completeness refuses a file exactly if a recovery would cut it, and it names the place
where the recovery cuts and how many bytes are there.  These are fewer than the block needs: a
header, and the payload that the header announces if all of it is there (`requirement`).  The number
that is told as the expected one is the length of a header, whatever the block needs, so it is the
truth exactly if the block breaks off inside its header (`tornBlock_truthful_iff`).
-/

namespace DurableStore

/-- How many bytes the block at the front of these bytes needs: a header, and the payload that it
announces if all of the header is there. -/
def requirement (bytes : Bytes) : Nat :=
  match Header.parse? bytes with
  | some (header, _) => headerLength + header.length.toNat
  | none => headerLength

theorem requirement_of_short {bytes : Bytes} (short : bytes.length < headerLength) :
    requirement bytes = headerLength := by
  unfold requirement
  split
  next header rest read =>
    have := Header.length_of_parse? read
    omega
  next => rfl

/-- A block breaks off where there are fewer bytes than it needs. -/
theorem length_lt_requirement {limit : Nat} {bytes : Bytes} (torn : Ahead.of limit bytes = .torn) :
    bytes.length < requirement bytes := by
  rcases Nat.lt_or_ge bytes.length headerLength with short | long
  · rwa [requirement_of_short short]
  · obtain ⟨header, read⟩ := Header.parse?_of_length long
    rw [Ahead.of_read limit read] at torn
    split at torn
    next =>
      split at torn
      next missing =>
        have body := Bytes.splitExactly?_eq_none_iff.1 missing
        rw [List.length_drop] at body
        rw [requirement, read]
        show bytes.length < headerLength + header.length.toNat
        omega
      next => cases torn
    next => cases torn

/-- The length of a header is what a block needs that breaks off inside it, and no other. -/
theorem requirement_eq_iff {limit : Nat} {bytes : Bytes} (torn : Ahead.of limit bytes = .torn) :
    headerLength = requirement bytes ↔ bytes.length < headerLength := by
  constructor
  · intro same
    rw [same]
    exact length_lt_requirement torn
  · intro short
    exact (requirement_of_short short).symm

namespace BlockFile

variable {blocks writer : BlockFile} {disk : FileSystem} {id : FileId} {policy : Policy}
  {asked asked' : List Mismatch} {recovery : Recovery}

/-- What is told of a torn block agrees with where a recovery cuts the file, from `content` to
`kept`, and with what is there of the block. -/
structure TornReport (path : Path) (content kept : Bytes) (fault : Fault)
    (expected available : Nat) (offset : Nat) : Prop where
  told : fault = .tornBlock path offset expected available
  inside : offset < content.length
  cut : kept = content.take offset
  rest : available = content.length - offset
  missing : available < requirement (content.drop offset)

/-- **A check for completeness** refuses a file exactly if a recovery would cut it, and tells where
and how much is left there.  The number of bytes that it tells as expected is the one that the block
needs, and more than there are, exactly if the block breaks off inside its header. -/
theorem tornBlock_truthful_iff
    (scanned : blocks.scan policy asked disk = (.ok recovery, asked'))
    (target : blocks.file.target = .file id) (writes : writer.file.writable? = some id)
    (path : writer.path = blocks.path) (limit : writer.limit = blocks.limit) :
    let kept := (writer.recover policy asked disk).disk.content id
    ((∃ fault, (blocks.checkComplete policy asked disk).1 = .error fault) ↔
      kept ≠ disk.content id) ∧
    ∀ fault, (blocks.checkComplete policy asked disk).1 = .error fault →
      ∃ expected available offset,
        TornReport blocks.path (disk.content id) kept fault expected available offset ∧
        (expected = requirement ((disk.content id).drop offset) ↔ available < headerLength) ∧
        (available < expected ↔ available < headerLength) := by
  intro kept
  obtain ⟨id', target', holds, read⟩ := scan_target scanned
  cases target.symm.trans target'
  have same : DurableStore.scan writer.limit policy writer.path (disk.content id) asked =
      (.ok recovery, asked') := by
    rw [path, limit]
    exact read
  have told := checkComplete_of_scan scanned
  cases torn : recovery.tornAt with
  | none =>
    rw [torn] at told
    have settled := settled_of_scan (OpenFile.target_of_writable? writes) holds same torn
    have unchanged : kept = disk.content id := congrArg (·.content id) settled.unchanged
    refine ⟨iff_of_false ?_ (not_not.2 unchanged), ?_⟩
    · rintro ⟨fault, refused⟩
      cases refused.symm.trans told
    · intro fault refused
      cases refused.symm.trans told
  | some offset =>
    rw [torn] at told
    have short := cutShort_of_scan writes holds same torn
    have breaks := torn_of_scan read torn
    have inside : offset < (disk.content id).length := by
      rw [FileSystem.length_content]
      exact short.inside
    have length : blocks.length disk = (disk.content id).length := by
      rw [FileSystem.length_content, BlockFile.length, OpenFile.length, target]
    have left : ((disk.content id).drop offset).length = blocks.length disk - offset := by
      rw [List.length_drop, length]
    have missing := length_lt_requirement breaks
    have exact_iff := requirement_eq_iff breaks
    rw [left] at missing exact_iff
    refine ⟨iff_of_true ⟨_, told⟩ ?_, ?_⟩
    · intro unchanged
      have shorter := congrArg List.length (short.shortened.symm.trans unchanged)
      rw [List.length_take] at shorter
      omega
    · intro fault refused
      cases refused.symm.trans told
      refine ⟨headerLength, blocks.length disk - offset, offset,
        ⟨rfl, inside, short.shortened, by rw [length], missing⟩, exact_iff, Iff.rfl⟩

/-- One block, and the first bytes of another one of two bytes. -/
def brokenOff (length : Nat) : Bytes :=
  blockOf [1] ++ (blockOf [2, 3]).take length

/-- A scan finds the one, and the other one breaks off. -/
theorem scan_brokenOff (length : Nat) (some_byte : 0 < length) (broken : length < 18) :
    (fresh ⟨["blocks"]⟩ 1024 0).scan .fail [] (.ofFile (brokenOff length)) =
      (.ok { found := [⟨0, [1]⟩], tornAt := some 17, validLength := 17 }, []) := by
  have computed : ∀ length : Fin 18, 0 < length.val →
      let scanned := DurableStore.scan 1024 .fail ⟨["blocks"]⟩ (brokenOff length) []
      scanned.1.toOption = some { found := [⟨0, [1]⟩], tornAt := some 17, validLength := 17 } ∧
        scanned.2 = [] ∧ (brokenOff length).length ≤ (default : Memory).bytes := by decide +kernel
  obtain ⟨reports, asks, small⟩ := computed ⟨length, broken⟩ some_byte
  have target : (fresh ⟨["blocks"]⟩ 1024 0).file.target = .file 0 := rfl
  refine scan_of_target target ?_ ?_
  · rwa [← FileSystem.length_content, FileSystem.content_ofFile]
  · rw [FileSystem.content_ofFile]
    exact Prod.ext (toOption_eq_some.1 reports) asks

theorem checkComplete_brokenOff (length : Nat) (some_byte : 0 < length) (broken : length < 18) :
    ((fresh ⟨["blocks"]⟩ 1024 0).checkComplete .fail [] (.ofFile (brokenOff length))).1 =
      .error (.tornBlock ⟨["blocks"]⟩ 17 16 length) := by
  have long : (fresh ⟨["blocks"]⟩ 1024 0).length (.ofFile (brokenOff length)) - 17 = length := by
    show (FileSystem.ofFile (brokenOff length)).length 0 - 17 = length
    rw [← FileSystem.length_content, FileSystem.content_ofFile, brokenOff, List.length_append,
      List.length_take, length_blockOf, length_blockOf]
    simp only [headerLength, List.length_cons, List.length_nil]
    omega
  have told := checkComplete_of_scan (scan_brokenOff length some_byte broken)
  simp only [long] at told
  exact told

/-- Of a header of which seven bytes are there, sixteen are expected and needed. -/
theorem tornBlock_truthful_iff_header :
    ((fresh ⟨["blocks"]⟩ 1024 0).checkComplete .fail [] (.ofFile (brokenOff 7))).1 =
        .error (.tornBlock ⟨["blocks"]⟩ 17 16 7) ∧
      ((fresh ⟨["blocks"]⟩ 1024 0).recover .fail [] (.ofFile (brokenOff 7))).disk.content 0 =
        blockOf [1] ∧
      16 = requirement ((brokenOff 7).drop 17) := by
  have scanned := scan_brokenOff 7 (by decide) (by decide)
  have refused := checkComplete_brokenOff 7 (by decide) (by decide)
  have writes : (fresh ⟨["blocks"]⟩ 1024 0).file.writable? = some 0 := rfl
  obtain ⟨-, tells⟩ := tornBlock_truthful_iff scanned rfl writes rfl rfl
  obtain ⟨expected, available, offset, report, truthful, -⟩ := tells _ refused
  cases report.told
  have needed := truthful.2 (by decide)
  have cut := report.cut
  rw [FileSystem.content_ofFile] at needed cut
  exact ⟨refused, cut, needed⟩

/-- With the whole header there and nothing of the payload, sixteen bytes are said to be expected
and sixteen to be there, and the block needs eighteen. -/
theorem tornBlock_untruthful :
    ∃ expected available,
      ((fresh ⟨["blocks"]⟩ 1024 0).checkComplete .fail [] (.ofFile (brokenOff 16))).1 =
        .error (.tornBlock ⟨["blocks"]⟩ 17 expected available) ∧
      ((fresh ⟨["blocks"]⟩ 1024 0).recover .fail [] (.ofFile (brokenOff 16))).disk.content 0 =
        (brokenOff 16).take 17 ∧
      ¬available < expected ∧ expected = 16 ∧ requirement ((brokenOff 16).drop 17) = 18 := by
  have scanned := scan_brokenOff 16 (by decide) (by decide)
  have refused := checkComplete_brokenOff 16 (by decide) (by decide)
  obtain ⟨id, target, holds, read⟩ := scan_target scanned
  cases target
  have writes : (fresh ⟨["blocks"]⟩ 1024 0).file.writable? = some 0 := rfl
  have cut := (cutShort_of_scan writes holds read rfl).shortened
  rw [FileSystem.content_ofFile] at cut
  exact ⟨16, 16, refused, cut, by decide, rfl, by decide +kernel⟩

end BlockFile

end DurableStore
