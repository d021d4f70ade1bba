import DurableStore.Proofs.Storage.Operations

/-!
What a storage does to the disk while it refuses writes.

Two operations of a database that was opened for writing do not ask for permission: opening a
block file, which creates one that is missing as long as the storage is not closed, and recovering
a block file, which cuts a torn block off even then (`Oversteps`).  Everything else leaves every
file alone, and so do these two everywhere else (`keeps_disk_iff_of_refused`).
-/

namespace DurableStore

open FileSystem

namespace BlockFile

variable {blocks : BlockFile} {disk : FileSystem} {policy : Policy}
  {asked asked' : List Mismatch} {recovery : Recovery} {offset : Nat}

/-- A recovery changes the disk only where it cuts a torn block off a file that may be written. -/
theorem recover_disk_cases (blocks : BlockFile) (policy : Policy) (asked : List Mismatch)
    (disk : FileSystem) :
    (blocks.recover policy asked disk).disk = disk ∨
      ∃ id recovery asked' offset, blocks.file.writable? = some id ∧
        blocks.scan policy asked disk = (.ok recovery, asked') ∧
        recovery.tornAt = some offset := by
  unfold recover
  cases scanned : blocks.scan policy asked disk with
  | mk result asked' =>
    cases result with
    | error fault => exact .inl rfl
    | ok recovery =>
      cases torn : recovery.tornAt with
      | none =>
        simp only [torn]
        exact .inl trivial
      | some offset =>
        cases writes : blocks.file.writable? with
        | none =>
          unfold OpenFile.setLength
          simp only [torn, writes]
          exact .inl trivial
        | some id => exact .inr ⟨id, recovery, asked', offset, rfl, rfl, torn⟩

theorem recover_of_torn {id : FileId} (writes : blocks.file.writable? = some id)
    (scanned : blocks.scan policy asked disk = (.ok recovery, asked'))
    (torn : recovery.tornAt = some offset) :
    (blocks.recover policy asked disk).disk = disk.edit id (·.resize offset) := by
  have near := (torn_lt_length scanned torn (OpenFile.target_of_writable? writes)).2
  unfold recover
  simp only [scanned, torn, setLength_eq writes, if_neg (Nat.not_lt.2 near), OpenFile.sync_eq]

/-- Cutting a torn block off takes bytes away. -/
theorem edit_ne_of_torn {id : FileId} (target : blocks.file.target = .file id)
    (scanned : blocks.scan policy asked disk = (.ok recovery, asked'))
    (torn : recovery.tornAt = some offset) : disk.edit id (·.resize offset) ≠ disk := by
  intro same
  have inside := (torn_lt_length scanned torn target).1
  -- A file that is not there would be read as empty, and have no torn block.
  have there : id < disk.contents.size := there_of_length_pos (by omega)
  have shorter := content_edit there (·.resize offset)
  rw [same, Content.toBytes_resize] at shorter
  have lengths := congrArg List.length shorter
  have fits : offset ≤ (disk.stored id).toBytes.length :=
    (Content.length_toBytes _).symm ▸ Nat.le_of_lt inside
  rw [resize_of_le fits, List.length_take, FileSystem.length_content] at lengths
  omega

end BlockFile

namespace Storage

/-- What the storage makes of the disk without asking whether writes are permitted. -/
inductive Oversteps (storage : Storage) (disk : FileSystem) : Operation → FileSystem → Prop where
  /-- It creates a block file that is missing, unless it is closed. -/
  | creates {name : Path} {id : FileId} {after : FileSystem} (stillOpen : storage.closed = false)
      (created : disk.create (storage.path.join name) = .ok (id, after)) :
      Oversteps storage disk (.openBlockFile name) after
  /-- It cuts a block file off where a scan finds a torn block, be it closed or not. -/
  | cuts {blocks : BlockFile} {id : FileId} {recovery : Recovery} {asked : List Mismatch}
      {offset : Nat} (writes : blocks.file.writable? = some id)
      (scanned : blocks.scan storage.policy storage.asked disk = (.ok recovery, asked))
      (torn : recovery.tornAt = some offset) :
      Oversteps storage disk (.recoverBlocks blocks) (disk.edit id (·.resize offset))

variable {storage : Storage} {disk after : FileSystem} {operation : Operation}

theorem openBlockFile_of_writable (writable : storage.config.readOnly = false)
    (stillOpen : storage.closed = false) (disk : FileSystem) (name : Path) :
    storage.openBlockFile disk name =
      BlockFile.openAt disk (storage.path.join name) storage.config.blockLimit
        storage.config.syncWrites := by
  have permitted : storage.ensureOpen = .ok () := by
    unfold ensureOpen
    rw [stillOpen, if_neg Bool.false_ne_true]
  unfold openBlockFile attachBlockFile
  simp only [permitted, writable, Bool.false_eq_true, if_false]

theorem recoverBlocks_of_writable (writable : storage.config.readOnly = false)
    (blocks : BlockFile) (disk : FileSystem) :
    (storage.recoverBlocks blocks disk).1 = blocks.recover storage.policy storage.asked disk := by
  unfold recoverBlocks
  rw [writable, if_neg Bool.false_ne_true]

/-- What oversteps is done, and changes the disk. -/
theorem Oversteps.perform (writable : storage.config.readOnly = false)
    (h : storage.Oversteps disk operation after) :
    (storage.perform disk operation).2 = after ∧ after ≠ disk := by
  cases h with
  | @creates name id after stillOpen created =>
    obtain ⟨vacant, -, made, -⟩ := create_eq_ok created
    constructor
    · show (storage.openBlockFile disk name).2 = after
      rw [openBlockFile_of_writable writable stillOpen]
      unfold BlockFile.openAt OpenFile.openAt
      cases found : disk.resolve (storage.path.join name) with
      | ok entry =>
        rw [(resolve_eq_ok_iff.1 found).2] at vacant
        cases vacant
      | error kind =>
        simp only [AccessMode.isWritable, if_true, Bool.false_eq_true, if_false, created]
    · intro same
      have sizes := congrArg (·.contents.size) (made.symm.trans same)
      simp at sizes
  | @cuts blocks id recovery asked offset writes scanned torn =>
    refine ⟨?_, BlockFile.edit_ne_of_torn (OpenFile.target_of_writable? writes) scanned torn⟩
    show (storage.recoverBlocks blocks disk).1.disk = _
    rw [recoverBlocks_of_writable writable]
    exact BlockFile.recover_of_torn writes scanned torn

theorem openBlockFile_keeps (writable : storage.config.readOnly = false) {name : Path}
    (harmless : ∀ after, ¬storage.Oversteps disk (.openBlockFile name) after) :
    (storage.openBlockFile disk name).2 = disk := by
  cases closed : storage.closed with
  | true =>
    have refused : storage.ensureOpen = .error .databaseClosed := by
      unfold ensureOpen
      rw [closed, if_pos rfl]
    unfold openBlockFile
    rw [refused]
  | false =>
    rw [openBlockFile_of_writable writable closed]
    unfold BlockFile.openAt OpenFile.openAt
    simp only [AccessMode.isWritable, if_true, Bool.false_eq_true, if_false]
    split
    next => rfl
    next => rfl
    next =>
      split
      next id after created => exact absurd (.creates closed created) (harmless after)
      next => rfl

theorem recoverBlocks_keeps (writable : storage.config.readOnly = false) {blocks : BlockFile}
    (harmless : ∀ after, ¬storage.Oversteps disk (.recoverBlocks blocks) after) :
    (storage.recoverBlocks blocks disk).1.disk = disk := by
  rw [recoverBlocks_of_writable writable]
  rcases blocks.recover_disk_cases storage.policy storage.asked disk with
    same | ⟨id, recovery, asked, offset, writes, scanned, torn⟩
  · exact same
  · exact absurd (.cuts writes scanned torn) (harmless _)

/-- **Refused writes change no file**, scratch files apart, exactly as long as no block file that
is missing is opened, and none that ends in a torn block is recovered; and all that comes of that
is a new empty file, or a file without the torn block. -/
theorem keeps_disk_iff_of_refused (writable : storage.config.readOnly = false) {fault : Fault}
    (refused : storage.checkWriting = .error fault)
    (lasting : operation.managesScratch = false) (disk : FileSystem) :
    ((storage.perform disk operation).2 = disk ↔
        ∀ after, ¬storage.Oversteps disk operation after) ∧
      ∀ after, storage.Oversteps disk operation after →
        (storage.perform disk operation).2 = after := by
  refine ⟨⟨?_, ?_⟩, fun after oversteps => (oversteps.perform writable).1⟩
  · intro same after oversteps
    obtain ⟨performed, changed⟩ := oversteps.perform writable
    exact changed (performed.symm.trans same)
  · intro harmless
    rcases perform_of_refused refused disk operation lasting with
      same | ⟨name, rfl⟩ | ⟨blocks, rfl⟩
    · exact same
    · exact openBlockFile_keeps writable harmless
    · exact recoverBlocks_keeps writable harmless

/-! ## A torn file in a storage that was set read-only -/

/-- The storage of a new database. -/
def firstStorage : Except Fault Storage × FileSystem :=
  Storage.openAt .empty ⟨["", "db"]⟩ .testing "a"

theorem firstStorage_isOk : firstStorage.1.toOption.isSome = true := by
  decide +kernel

/-- The block file that is appended to. -/
def firstBlocks : BlockFile :=
  .fresh ⟨["", "db", "j"]⟩ Config.testing.blockLimit 1

/-- The power goes between the header and the payload of a second block, and then the storage is
set read-only. -/
def powerLost : List Operation :=
  [.openBlockFile ⟨["j"]⟩, .appendBlock firstBlocks [1], .serve (.armPower 2),
    .appendBlock firstBlocks [2], .serve (.setWriteState .readOnly)]

/-- The new database afterwards. -/
def afterPowerLost : Storage × FileSystem :=
  (firstStorage.1.toOption.get firstStorage_isOk).performAll firstStorage.2 powerLost

theorem afterPowerLost_readOnly :
    afterPowerLost.1.config.readOnly = false ∧ afterPowerLost.1.writeState = .readOnly := by
  decide +kernel

/-- A missing file is created as a block file, and is not created as a file. -/
theorem keeps_disk_iff_of_refused_missing : ∃ fault,
    afterPowerLost.1.checkWriting = .error fault ∧
    (afterPowerLost.1.perform afterPowerLost.2 (.openBlockFile ⟨["k"]⟩)).2 ≠ afterPowerLost.2 ∧
    (afterPowerLost.1.perform afterPowerLost.2 (.openFile ⟨["k"]⟩ .readWrite false)).2 =
      afterPowerLost.2 := by
  obtain ⟨writable, readOnly⟩ := afterPowerLost_readOnly
  obtain ⟨fault, refused⟩ := refused_of_readOnly readOnly
  have creates : (afterPowerLost.2.create (afterPowerLost.1.path.join ⟨["k"]⟩)).toOption.isSome =
      true := by
    decide +kernel
  obtain ⟨⟨id, after⟩, created⟩ := Option.isSome_iff_exists.1 creates
  have oversteps : afterPowerLost.1.Oversteps afterPowerLost.2 (.openBlockFile ⟨["k"]⟩) after :=
    .creates (by decide +kernel) (toOption_eq_some.1 created)
  refine ⟨fault, refused, ?_, ?_⟩
  · intro same
    exact (keeps_disk_iff_of_refused writable refused rfl _).1.1 same after oversteps
  · exact (keeps_disk_iff_of_refused writable refused rfl _).1.2 nofun

/-- A torn block is cut off although the storage was set read-only. -/
theorem recover_cuts_readOnly : ∃ fault, afterPowerLost.1.config.readOnly = false ∧
    afterPowerLost.1.checkWriting = .error fault ∧
    afterPowerLost.2.content 1 = row [[1]] ++ remnant (some [2]) ∧
    (afterPowerLost.1.perform afterPowerLost.2 (.recoverBlocks firstBlocks)).2.content 1 =
      row [[1]] := by
  obtain ⟨fault, refused⟩ := refused_of_readOnly afterPowerLost_readOnly.2
  exact ⟨fault, afterPowerLost_readOnly.1, refused, by decide +kernel, by decide +kernel⟩

end Storage

end DurableStore
