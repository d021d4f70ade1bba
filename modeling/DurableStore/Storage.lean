import DurableStore.BlockFile
import DurableStore.Config
import DurableStore.ObjectIds

/-!
The storage of one open database: everything between its sessions and the disk.

Under the database directory stand `lob.ids`, a block file of id reservations, and `tmp`, which
holds scratch files.  Operations take the storage and the file system and give both back, also
when they fail: what was written before the failure stays written.  None of them tries anything
twice.

Asking for permission to write and writing are steps of their own (`checkWriting` and `writeBlock`,
`checkReserving` and `reserveId`): `appendBlock` and `allocateId` take them one after the other, and
whoever shares the storage may come in between.
-/

namespace DurableStore

/-- Whether a database takes writes at the moment. -/
inductive WriteState where
  | writable
  | readOnly
  /-- Writes are refused for a while, and why. -/
  | suspended (reason : String)
  deriving DecidableEq, Inhabited, Repr

/-- The storage of one open database. -/
structure Storage where
  /-- The database directory. -/
  path : Path
  config : Config
  /-- What names the process in the names of its scratch files. -/
  owner : String
  writeState : WriteState
  power : PowerSwitch
  /-- What a failed verification means. -/
  policy : Policy := .fail
  /-- The mismatches that the policy was asked about. -/
  asked : List Mismatch := []
  ids : ObjectIds
  /-- Where reservations are written; nowhere if the database is only read. -/
  idFile : Option BlockFile
  /-- The scratch files handed out and not yet removed. -/
  scratch : List Path := []
  /-- The number in the name of the next scratch file. -/
  scratchCounter : Nat := 0
  closed : Bool := false

namespace Storage

/-- The name of the file of id reservations. -/
def idFileName : String := "lob.ids"

/-- The name of the directory of scratch files. -/
def scratchDirectoryName : String := "tmp"

/-- How the names of scratch files end. -/
def scratchSuffix : String := ".temp.db"

/-- Why a database that was opened for reading takes no writes. -/
def openedReadOnly : Fault :=
  .readOnly "database opened read-only"

/-! ## Opening -/

/-- The ids that go on above the last reservation among the payloads that can be read. -/
def idsAbove (payloads : List Bytes) : ObjectIds :=
  (payloads.reverse.findSome? ObjectIds.ofReservation?).getD .new

/-- Loads the id reservations of the database at `path`; a torn one is cut off unless the database
is only read. -/
def loadIds (disk : FileSystem) (path : Path) (config : Config) :
    Except Fault (ObjectIds × Option BlockFile) × FileSystem :=
  let idPath := path.child idFileName
  if config.readOnly then
    match BlockFile.openExisting disk idPath config.blockLimit with
    | .error (.notFound _) => (.ok (.new, none), disk)
    | .error fault => (.error fault, disk)
    | .ok blocks =>
      ((blocks.scan .fail [] disk).1.map fun recovery => (idsAbove recovery.payloads, none), disk)
  else
    match BlockFile.openAt disk idPath config.blockLimit config.syncWrites with
    | (.error fault, disk) => (.error fault, disk)
    | (.ok blocks, disk) =>
      let recovered := blocks.recover .fail [] disk
      (recovered.result.map fun recovery =>
        (idsAbove recovery.payloads, some recovered.blocks), recovered.disk)

/-- Whether a file of this name is a scratch file. -/
def isScratchName (name : String) : Bool :=
  name.endsWith scratchSuffix

/-- Removes the files at `paths`, as far as they can be removed. -/
def removeAll (disk : FileSystem) (paths : List Path) : FileSystem :=
  paths.foldl (fun disk path =>
    match disk.remove path with
    | .ok disk => disk
    | .error _ => disk) disk

/-- Removes the scratch files that an earlier process left in `directory`. -/
def removeStaleScratch (disk : FileSystem) (directory : Path) : FileSystem :=
  removeAll disk (((disk.children directory).filter isScratchName).map directory.child)

/-- Makes the directory of a database ready, unless the database is only read. -/
def prepareDirectory (disk : FileSystem) (path : Path) (config : Config) :
    Except Fault Unit × FileSystem :=
  if config.readOnly then
    (if disk.isDirectory path then .ok () else .error (.notFound path), disk)
  else
    match disk.makeDirectories path with
    | (.error kind, disk) => (.error (.ioAt path kind "Failed to create database directory"), disk)
    | (.ok (), disk) => (.ok (), removeStaleScratch disk (path.child scratchDirectoryName))

/-- Opens the storage of the database at `path` on behalf of the process `owner`. -/
def openAt (disk : FileSystem) (path : Path) (config : Config) (owner : String) :
    Except Fault Storage × FileSystem :=
  match config.problem? with
  | some problem => (.error (.invalidSetting "config" problem), disk)
  | none =>
    match prepareDirectory disk path config with
    | (.error fault, disk) => (.error fault, disk)
    | (.ok (), disk) =>
      match loadIds disk path config with
      | (.error fault, disk) => (.error fault, disk)
      | (.ok (ids, idFile), disk) =>
        (.ok { path, config, owner, ids, idFile
               writeState := if config.readOnly then .readOnly else .writable
               power := .ofCountdown config.powerOffCountdown }, disk)

/-! ## Permission to write -/

/-- Fails once the storage is closed. -/
def ensureOpen (storage : Storage) : Except Fault Unit :=
  if storage.closed then .error .databaseClosed else .ok ()

/-- Fails unless writes are permitted now. -/
def checkWriting (storage : Storage) : Except Fault Unit :=
  if storage.closed then .error .databaseClosed
  else
    match storage.writeState with
    | .writable => .ok ()
    | .readOnly =>
      .error (if storage.config.readOnly then openedReadOnly
        else .readOnly "database set read-only")
    | .suspended reason => .error (.readOnly reason)

/-- Changes the write state; a database that is only read stays read-only. -/
def setWriteState (storage : Storage) (state : WriteState) : Except Fault Unit × Storage :=
  if storage.config.readOnly ∧ state ≠ .readOnly then (.error openedReadOnly, storage)
  else (.ok (), { storage with writeState := state })

/-! ## Power and policy -/

/-- Asks the power switch on behalf of a writer without a file. -/
def checkPower (storage : Storage) : Except Fault Unit × Storage :=
  let (isOn, power) := storage.power.check
  (if isOn then .ok () else .error (.powerLoss none), { storage with power })

/-- Schedules a loss of power. -/
def armPower (storage : Storage) (countdown : Nat) : Storage :=
  { storage with power := storage.power.arm countdown }

/-- Restores the power. -/
def resetPower (storage : Storage) : Storage :=
  { storage with power := storage.power.reset }

/-- Installs a policy, which was asked about nothing yet. -/
def setPolicy (storage : Storage) (policy : Policy) : Storage :=
  { storage with policy, asked := [] }

/-- Verifies a range that was read from the file at `path`. -/
def verify (storage : Storage) (path : Path) (base : Nat) (data : Bytes) (start stop : Nat)
    (expected : UInt32) : Except Fault Bool × Storage :=
  let (result, asked) :=
    verifyRange storage.policy path base data start stop expected storage.asked
  (result, { storage with asked })

/-- Asks the policy about a mismatch that the caller found. -/
def reportMismatch (storage : Storage) (found : Mismatch) : Except Fault Unit × Storage :=
  (storage.policy.verdict storage.asked found, { storage with asked := storage.asked ++ [found] })

/-! ## Files -/

/-- Fails unless a file may be opened in this mode. -/
def checkOpening (storage : Storage) (mode : AccessMode) : Except Fault Unit :=
  if mode.isWritable then storage.checkWriting else storage.ensureOpen

/-- Opens a file inside the database directory. -/
def openFile (storage : Storage) (disk : FileSystem) (name : Path) (mode : AccessMode)
    (mustExist : Bool) : Except Fault OpenFile × FileSystem :=
  match storage.checkOpening mode with
  | .error fault => (.error fault, disk)
  | .ok () => OpenFile.openAt disk (storage.path.join name) mode mustExist

/-- Opens a block file inside the database directory, and creates it if it may be written.  It was
asked before whether the storage is open. -/
def attachBlockFile (storage : Storage) (disk : FileSystem) (name : Path) :
    Except Fault BlockFile × FileSystem :=
  let path := storage.path.join name
  if storage.config.readOnly then
    (BlockFile.openExisting disk path storage.config.blockLimit, disk)
  else BlockFile.openAt disk path storage.config.blockLimit storage.config.syncWrites

/-- Opens a block file inside the database directory, if the storage is open. -/
def openBlockFile (storage : Storage) (disk : FileSystem) (name : Path) :
    Except Fault BlockFile × FileSystem :=
  match storage.ensureOpen with
  | .error fault => (.error fault, disk)
  | .ok () => storage.attachBlockFile disk name

/-- Recovers a block file under the installed policy; one that is only read stays as it is. -/
def recoverBlocks (storage : Storage) (blocks : BlockFile) (disk : FileSystem) :
    BlockFile.Recovered × Storage :=
  let recovered : BlockFile.Recovered :=
    if storage.config.readOnly then
      let (result, asked) := blocks.scan storage.policy storage.asked disk
      { result, asked, blocks, disk }
    else blocks.recover storage.policy storage.asked disk
  (recovered, { storage with asked := recovered.asked })

/-- What an append through the storage leaves behind. -/
structure Appended where
  /-- Where the block starts, or why it was not written. -/
  result : Except Fault Nat
  storage : Storage
  blocks : BlockFile
  disk : FileSystem

/-- Appends a block if the power stays on.  It was asked before whether writes are permitted, and is
not asked again between the two writes. -/
def writeBlock (storage : Storage) (blocks : BlockFile) (payload : Bytes) (disk : FileSystem) :
    Appended :=
  let appended := blocks.append payload storage.power disk
  { result := appended.result
    storage := { storage with power := appended.power }
    blocks := appended.blocks
    disk := appended.disk }

/-- Appends a block if writes are permitted and the power stays on. -/
def appendBlock (storage : Storage) (blocks : BlockFile) (payload : Bytes) (disk : FileSystem) :
    Appended :=
  match storage.checkWriting with
  | .error fault => { result := .error fault, storage, blocks, disk }
  | .ok () => storage.writeBlock blocks payload disk

/-! ## Object ids -/

/-- Takes an id from its space. -/
def takeId (storage : Storage) (needFresh : Bool) (space : IdSpace) :
    Except Fault IdLedger.Allocation × Storage :=
  let (result, ids) := storage.ids.allocate needFresh space
  (result, { storage with ids })

/-- Fails unless reservations may be written now. -/
def checkReserving (storage : Storage) : Except Fault Unit :=
  match storage.idFile with
  | none => .error openedReadOnly
  | some _ => storage.checkWriting

/-- Gives up an id that was taken. -/
def giveUpId (storage : Storage) (id : ObjectId) (space : IdSpace) : Storage :=
  { storage with ids := storage.ids.discard id space }

/-- Writes the current reservation, so that a later start begins above it. -/
def writeReservation (storage : Storage) (disk : FileSystem) :
    Except Fault Unit × Storage × FileSystem :=
  match storage.idFile with
  | none => (.error openedReadOnly, storage, disk)
  | some idFile =>
    let appended := storage.writeBlock idFile storage.ids.reservation disk
    (appended.result.map fun _ => (), { appended.storage with idFile := some appended.blocks },
      appended.disk)

/-- Hands out an id that was taken, after a new reservation was written; if that fails the id is
given up. -/
def reserveId (storage : Storage) (disk : FileSystem) (id : ObjectId) (space : IdSpace) :
    Except Fault ObjectId × Storage × FileSystem :=
  match storage.writeReservation disk with
  | (.error fault, storage, disk) => (.error fault, storage.giveUpId id space, disk)
  | (.ok (), storage, disk) => (.ok id, { storage with ids := storage.ids.markPersisted }, disk)

/-- Hands out an object id.  One above the reservation on disk is handed out only after a new
reservation was written, and is given up if that is not permitted or fails. -/
def allocateId (storage : Storage) (disk : FileSystem) (needFresh : Bool) (space : IdSpace) :
    Except Fault ObjectId × Storage × FileSystem :=
  match storage.ensureOpen with
  | .error fault => (.error fault, storage, disk)
  | .ok () =>
    match storage.takeId needFresh space with
    | (.error fault, storage) => (.error fault, storage, disk)
    | (.ok allocation, storage) =>
      if allocation.advanced then
        match storage.checkReserving with
        | .error fault => (.error fault, storage.giveUpId allocation.id space, disk)
        | .ok () => storage.reserveId disk allocation.id space
      else (.ok allocation.id, storage, disk)

/-- Adds a reference to a live id; whether it was live. -/
def retainId (storage : Storage) (id : ObjectId) (space : IdSpace) : Bool × Storage :=
  let (live, ids) := storage.ids.retain id space
  (live, { storage with ids })

/-- Drops a reference to a live id; whether it was live. -/
def releaseId (storage : Storage) (id : ObjectId) (space : IdSpace) : Bool × Storage :=
  let (live, ids) := storage.ids.release id space
  (live, { storage with ids })

/-! ## Scratch files -/

/-- Where scratch files stand. -/
def scratchDirectory (storage : Storage) : Path :=
  storage.path.child scratchDirectoryName

/-- The name of the scratch file with a number. -/
def scratchName (owner : String) (number : Nat) : String :=
  s!"{owner}-{number}" ++ scratchSuffix

/-- Creates the first scratch file from number `counter` on whose name is free, trying at most
`tries` names; also the number to go on with. -/
def createFrom (disk : FileSystem) (directory : Path) (owner : String) :
    (tries counter : Nat) → Except Fault Path × Nat × FileSystem
  | 0, counter =>
    (.error (.ioAt (directory.child (scratchName owner counter)) .alreadyExists
      "Failed to create temp file"), counter, disk)
  | tries + 1, counter =>
    let path := directory.child (scratchName owner counter)
    match disk.create path with
    | .ok (_, disk) => (.ok path, counter + 1, disk)
    | .error .alreadyExists => createFrom disk directory owner tries (counter + 1)
    | .error kind => (.error (.ioAt path kind "Failed to create temp file"), counter + 1, disk)

/-- Creates an empty scratch file under a name that is not in use and registers it.  One more try
than there are names in use is enough. -/
def makeScratch (storage : Storage) (disk : FileSystem) :
    Except Fault Path × Storage × FileSystem :=
  let directory := storage.scratchDirectory
  match disk.makeDirectories directory with
  | (.error kind, disk) =>
    (.error (.ioAt directory kind "Failed to create temp directory"), storage, disk)
  | (.ok (), disk) =>
    let (result, scratchCounter, disk) :=
      createFrom disk directory storage.owner (disk.entries.length + 1) storage.scratchCounter
    let storage := { storage with scratchCounter }
    match result with
    | .error fault => (.error fault, storage, disk)
    | .ok path => (.ok path, { storage with scratch := storage.scratch ++ [path] }, disk)

/-- Creates a scratch file, if the storage is open. -/
def createScratch (storage : Storage) (disk : FileSystem) :
    Except Fault Path × Storage × FileSystem :=
  match storage.ensureOpen with
  | .error fault => (.error fault, storage, disk)
  | .ok () => storage.makeScratch disk

/-- The sum of two numbers of bytes, if it fits 64 bits. -/
def sum? (first second : Nat) : Option Nat :=
  if first + second < UInt64.size then some (first + second) else none

/-- What removing scratch files gained. -/
structure Reclaimed where
  /-- The files that stay registered. -/
  kept : List Path := []
  /-- How many files were removed. -/
  removed : Nat := 0
  /-- How many bytes they had; nothing once the number does not fit 64 bits. -/
  freed : Option Nat := some 0
  disk : FileSystem

/-- Removes one scratch file; one that is gone already is forgotten.  Once the number of bytes does
not fit 64 bits nothing more is done: the files stay registered, also the one that was too much. -/
def reclaim (so : Reclaimed) (path : Path) : Reclaimed :=
  match so.freed with
  | none => { so with kept := so.kept ++ [path] }
  | some freed =>
    if so.disk.exists? path then
      match so.disk.remove path with
      | .ok disk =>
        match sum? freed ((so.disk.lengthAt? path).getD 0) with
        | some total => { so with removed := so.removed + 1, freed := some total, disk }
        | none => { so with kept := so.kept ++ [path], freed := none, disk }
      | .error _ => { so with kept := so.kept ++ [path] }
    else so

/-- Removes the scratch files handed out; how many bytes that freed.  If the number does not fit
64 bits the call breaks off and there is no answer. -/
def freeSpace (storage : Storage) (disk : FileSystem) (requested : Nat) :
    Option (Except Fault Nat) × Storage × FileSystem :=
  let so := storage.scratch.foldl reclaim { disk }
  let full : Fault := .diskFull (some storage.path) requested
  (so.freed.map fun freed => if so.removed = 0 then .error full else .ok freed,
    { storage with scratch := so.kept }, so.disk)

/-! ## Closing -/

/-- Closes the storage and removes the scratch files handed out. -/
def close (storage : Storage) (disk : FileSystem) : Storage × FileSystem :=
  if storage.closed then (storage, disk)
  else ({ storage with closed := true, scratch := [] }, removeAll disk storage.scratch)

end Storage

end DurableStore
