import DurableStore.Proofs.Storage.Requests

/-!
Everything that an open storage does, and where its permission to write is asked for.

Whatever the storage does is an `Operation`.  Operations that do not manage scratch files reach the
disk in two ways only once writes are refused: opening a block file may create it, and recovering
one may cut it off (`perform_of_refused`).  Neither happens when the database is opened for reading
(`perform_of_readOnly`).
-/

namespace DurableStore

open FileSystem

/-- What a storage can do. -/
inductive Operation where
  /-- To serve a request. -/
  | serve (request : Request)
  | openFile (name : Path) (mode : AccessMode) (mustExist : Bool)
  | openBlockFile (name : Path)
  | appendBlock (blocks : BlockFile) (payload : Bytes)
  | recoverBlocks (blocks : BlockFile)
  /-- To verify a range that was read. -/
  | verify (path : Path) (base : Nat) (data : Bytes) (start stop : Nat) (expected : UInt32)
  | reportMismatch (found : Mismatch)
  | setPolicy (policy : Policy)
  | checkPower
  | createScratch
  | freeSpace (requested : Nat)
  | close

/-- The operation manages scratch files. -/
def Operation.managesScratch : Operation → Bool
  | .createScratch | .freeSpace _ | .close => true
  | _ => false

namespace Storage

/-- Carries an operation out; what it leaves of the storage and of the disk. -/
def perform (storage : Storage) (disk : FileSystem) : Operation → Storage × FileSystem
  | .serve request => (storage.serve disk request).2
  | .openFile name mode mustExist => (storage, (storage.openFile disk name mode mustExist).2)
  | .openBlockFile name => (storage, (storage.openBlockFile disk name).2)
  | .appendBlock blocks payload =>
    let appended := storage.appendBlock blocks payload disk
    (appended.storage, appended.disk)
  | .recoverBlocks blocks =>
    let (recovered, storage) := storage.recoverBlocks blocks disk
    (storage, recovered.disk)
  | .verify path base data start stop expected =>
    ((storage.verify path base data start stop expected).2, disk)
  | .reportMismatch found => ((storage.reportMismatch found).2, disk)
  | .setPolicy policy => (storage.setPolicy policy, disk)
  | .checkPower => (storage.checkPower.2, disk)
  | .createScratch => (storage.createScratch disk).2
  | .freeSpace requested => (storage.freeSpace disk requested).2
  | .close => storage.close disk

/-- Carries operations out one after another. -/
def performAll (storage : Storage) (disk : FileSystem) (operations : List Operation) :
    Storage × FileSystem :=
  operations.foldl (fun (storage, disk) operation => storage.perform disk operation)
    (storage, disk)

variable {storage : Storage} {disk : FileSystem}

/-! ## Refused writes -/

theorem refused_of_readOnly (state : storage.writeState = .readOnly) :
    ∃ fault, storage.checkWriting = .error fault := by
  unfold checkWriting
  split
  next => exact ⟨_, rfl⟩
  next =>
    rw [state]
    exact ⟨_, rfl⟩

theorem persistIds_of_refused {fault : Fault} (refused : storage.checkWriting = .error fault)
    (disk : FileSystem) : ∃ fault', storage.persistIds disk = (.error fault', storage, disk) := by
  cases file : storage.idFile with
  | none => exact ⟨_, persistIds_of_none file⟩
  | some blocks => exact ⟨fault, persistIds_of_error file refused⟩

theorem serve_of_refused {fault : Fault} (refused : storage.checkWriting = .error fault)
    (disk : FileSystem) (request : Request) : (storage.serve disk request).2.2 = disk := by
  cases request with
  | allocateId needFresh space =>
    show (storage.allocateId disk needFresh space).2.2 = disk
    rcases allocateId_cases storage disk needFresh space with
      ⟨fault', given⟩ | ⟨allocation, ids, -, ⟨-, given⟩ | ⟨-, persisted⟩⟩
    · rw [given]
    · rw [given]
    · -- A new reservation would be needed, which cannot be written.
      have refused' : ({ storage with ids } : Storage).checkWriting = .error fault := refused
      obtain ⟨fault', persists⟩ := persistIds_of_refused refused' disk
      rcases persisted with ⟨_, later, after, writes, given⟩ | ⟨later, after, writes, given⟩
      · rw [persists] at writes
        cases writes
        rw [given]
      · rw [persists] at writes
        cases writes
  | _ => rfl

theorem openFile_of_refused {fault : Fault} (refused : storage.checkWriting = .error fault)
    (disk : FileSystem) (name : Path) (mode : AccessMode) (mustExist : Bool) :
    (storage.openFile disk name mode mustExist).2 = disk := by
  unfold openFile checkOpening
  cases writes : mode.isWritable with
  | true =>
    rw [if_pos rfl, refused]
  | false =>
    rw [if_neg Bool.false_ne_true]
    cases storage.ensureOpen with
    | error => rfl
    | ok =>
      -- A file that is opened for reading is not created.
      show (OpenFile.openAt disk (storage.path.join name) mode mustExist).2 = disk
      unfold OpenFile.openAt
      simp only [writes, Bool.false_eq_true, if_false]
      split
      next => rfl
      next => rfl
      next => split <;> rfl

/-- **Once writes are refused** nothing but opening and recovering block files reaches the disk,
scratch files apart. -/
theorem perform_of_refused {fault : Fault} (refused : storage.checkWriting = .error fault)
    (disk : FileSystem) (operation : Operation) (lasting : operation.managesScratch = false) :
    (storage.perform disk operation).2 = disk ∨
      (∃ name, operation = .openBlockFile name) ∨
        ∃ blocks, operation = .recoverBlocks blocks := by
  cases operation with
  | serve request => exact .inl (serve_of_refused refused disk request)
  | openFile name mode mustExist =>
    exact .inl (openFile_of_refused refused disk name mode mustExist)
  | openBlockFile name => exact .inr (.inl ⟨name, rfl⟩)
  | appendBlock blocks payload =>
    refine .inl ?_
    simp only [perform, appendBlock_of_error refused]
  | recoverBlocks blocks => exact .inr (.inr ⟨blocks, rfl⟩)
  | verify | reportMismatch | setPolicy | checkPower => exact .inl rfl
  | createScratch | freeSpace | close => cases lasting

/-! ## Databases that are opened for reading -/

/-- The storage was opened for reading, and takes no writes. -/
structure Reads (storage : Storage) : Prop where
  readOnly : storage.config.readOnly = true
  state : storage.writeState = .readOnly

/-- Only operations on scratch files change the disk below a database that is only read. -/
theorem perform_of_readOnly (h : storage.Reads) (disk : FileSystem) (operation : Operation)
    (lasting : operation.managesScratch = false) :
    (storage.perform disk operation).2 = disk := by
  obtain ⟨fault, refused⟩ := refused_of_readOnly h.state
  rcases perform_of_refused refused disk operation lasting with
    same | ⟨name, rfl⟩ | ⟨blocks, rfl⟩
  · exact same
  · show (storage.openBlockFile disk name).2 = disk
    unfold openBlockFile attachBlockFile
    split
    next => rfl
    next => rw [if_pos h.readOnly]
  · show (storage.recoverBlocks blocks disk).1.disk = disk
    unfold recoverBlocks
    rw [if_pos h.readOnly]

/-! ## What stays of the storage -/

/-- The second storage is the same handle as the first, with the same scratch files. -/
structure Persists (before after : Storage) : Prop where
  path : after.path = before.path
  config : after.config = before.config
  scratch : after.scratch = before.scratch
  closed : after.closed = before.closed

theorem Persists.refl (storage : Storage) : storage.Persists storage :=
  ⟨rfl, rfl, rfl, rfl⟩

theorem appendBlock_storage (storage : Storage) (blocks : BlockFile) (payload : Bytes)
    (disk : FileSystem) :
    ∃ power, (storage.appendBlock blocks payload disk).storage = { storage with power } := by
  unfold appendBlock
  split
  next => exact ⟨storage.power, rfl⟩
  next => exact ⟨_, rfl⟩

theorem writeReservation_storage (storage : Storage) (disk : FileSystem) :
    ∃ power idFile, (storage.writeReservation disk).2.1 = { storage with power, idFile } := by
  unfold writeReservation
  split
  next => exact ⟨storage.power, storage.idFile, rfl⟩
  next => exact ⟨_, _, rfl⟩

theorem persistIds_storage (storage : Storage) (disk : FileSystem) :
    ∃ power idFile, (storage.persistIds disk).2.1 = { storage with power, idFile } := by
  unfold persistIds
  split
  next => exact ⟨storage.power, storage.idFile, rfl⟩
  next => exact writeReservation_storage storage disk

theorem reserveId_storage (storage : Storage) (disk : FileSystem) (id : ObjectId)
    (space : IdSpace) :
    ∃ ids power idFile, (storage.reserveId disk id space).2.1 =
      { storage with ids, power, idFile } := by
  obtain ⟨power, idFile, writes⟩ := writeReservation_storage storage disk
  unfold reserveId
  split
  all_goals
    next written =>
      rw [written] at writes
      cases writes
      exact ⟨_, _, _, rfl⟩

theorem allocateId_storage (storage : Storage) (disk : FileSystem) (needFresh : Bool)
    (space : IdSpace) :
    ∃ ids power idFile, (storage.allocateId disk needFresh space).2.1 =
      { storage with ids, power, idFile } := by
  rcases allocateId_cases storage disk needFresh space with
    ⟨fault, given⟩ | ⟨allocation, ids, -, ⟨-, given⟩ | ⟨-, persisted⟩⟩
  · rw [given]
    exact ⟨_, _, _, rfl⟩
  · rw [given]
    exact ⟨_, _, _, rfl⟩
  · obtain ⟨power, idFile, writes⟩ := persistIds_storage { storage with ids } disk
    rcases persisted with ⟨_, later, after, persists, given⟩ | ⟨later, after, persists, given⟩
    all_goals
      rw [persists] at writes
      subst writes
      rw [given]
      exact ⟨_, _, _, rfl⟩

theorem persists_serve (storage : Storage) (disk : FileSystem) (request : Request) :
    storage.Persists (storage.serve disk request).2.1 := by
  cases request with
  | allocateId needFresh space =>
    obtain ⟨ids, power, idFile, given⟩ := allocateId_storage storage disk needFresh space
    show storage.Persists (storage.allocateId disk needFresh space).2.1
    rw [given]
    exact ⟨rfl, rfl, rfl, rfl⟩
  | setWriteState state =>
    obtain ⟨writeState, given⟩ := setWriteState_snd storage state
    show storage.Persists (storage.setWriteState state).2
    rw [given]
    exact ⟨rfl, rfl, rfl, rfl⟩
  | _ => exact ⟨rfl, rfl, rfl, rfl⟩

/-- Operations that do not manage scratch files leave the handle as it is. -/
theorem persists_perform (storage : Storage) (disk : FileSystem) {operation : Operation}
    (lasting : operation.managesScratch = false) :
    storage.Persists (storage.perform disk operation).1 := by
  cases operation with
  | serve request => exact persists_serve storage disk request
  | appendBlock blocks payload =>
    obtain ⟨power, appended⟩ := appendBlock_storage storage blocks payload disk
    show storage.Persists (storage.appendBlock blocks payload disk).storage
    rw [appended]
    exact ⟨rfl, rfl, rfl, rfl⟩
  | openFile | openBlockFile => exact .refl storage
  | recoverBlocks | verify | reportMismatch | setPolicy | checkPower => exact ⟨rfl, rfl, rfl, rfl⟩
  | createScratch | freeSpace | close => cases lasting

/-- A database that was opened for reading never takes writes. -/
theorem Reads.perform (h : storage.Reads) (disk : FileSystem) {operation : Operation}
    (lasting : operation.managesScratch = false) :
    (storage.perform disk operation).1.Reads := by
  refine ⟨(persists_perform storage disk lasting).config ▸ h.readOnly, ?_⟩
  cases operation with
  | serve request =>
    cases request with
    | allocateId needFresh space =>
      obtain ⟨ids, power, idFile, given⟩ := allocateId_storage storage disk needFresh space
      show (storage.allocateId disk needFresh space).2.1.writeState = _
      rw [given]
      exact h.state
    | setWriteState state =>
      show (storage.setWriteState state).2.writeState = _
      unfold setWriteState
      split
      next => exact h.state
      next permitted =>
        -- Only the state that it has already can be set.
        show state = .readOnly
        by_contra differs
        exact permitted ⟨h.readOnly, differs⟩
    | _ => exact h.state
  | appendBlock blocks payload =>
    obtain ⟨power, appended⟩ := appendBlock_storage storage blocks payload disk
    show (storage.appendBlock blocks payload disk).storage.writeState = _
    rw [appended]
    exact h.state
  | openFile | openBlockFile => exact h.state
  | recoverBlocks | verify | reportMismatch | setPolicy | checkPower => exact h.state
  | createScratch | freeSpace | close => cases lasting

end Storage

end DurableStore
