import DurableStore.ExclusiveLock
import DurableStore.ReuseCache
import DurableStore.Setting
import DurableStore.Storage

/-!
An open database, shared by its sessions.

A commit asks whether writes are permitted, writes its record to the journal, then changes the
tables in memory, then moves the generation on; if the journal cannot be written nothing else
happens.  A session ends when its owner ends it, when it is disconnected by its id, or when the
database is closed.
-/

namespace DurableStore

/-- An open database. -/
structure Database where
  storage : Storage
  lock : ExclusiveLock := {}
  cache : ReuseCache
  /-- How many commits there were since the database was opened. -/
  generation : UInt64 := 0
  /-- Where commits are written. -/
  journal : BlockFile
  /-- A commit is under way, and others wait for it. -/
  committing : Bool := false
  /-- The records committed before the database was opened, first committed first. -/
  recovered : List Bytes
  /-- The id of the next session. -/
  nextSession : UInt64 := 1
  /-- The sessions that their owners ended. -/
  ended : List SessionId := []
  closed : Bool := false

namespace Database

/-- The name of the journal inside the database directory. -/
def journalName : String := "commit.journal"

/-- Opens the database at `path` on behalf of the process `owner`. -/
def openAt (disk : FileSystem) (path : Path) (config : Config) (owner : String) :
    Except Fault Database × FileSystem :=
  match Storage.openAt disk path config owner with
  | (.error fault, disk) => (.error fault, disk)
  | (.ok storage, disk) =>
    match storage.openBlockFile disk ⟨[journalName]⟩ with
    | (.error fault, disk) => (.error fault, disk)
    | (.ok journal, disk) =>
      let (recovered, storage) := storage.recoverBlocks journal disk
      (recovered.result.map fun recovery =>
        { storage
          cache := .new config.reuseCapacity config.reuseResults
          journal := recovered.blocks
          recovered := recovery.payloads }, recovered.disk)

/-! ## Sessions -/

/-- Connects a new session.  Its id is used up even if it is not admitted. -/
def connect (database : Database) : Except Fault SessionId × Database :=
  if database.closed then (.error .databaseClosed, database)
  else
    let session : SessionId := ⟨database.nextSession⟩
    let (admission, lock) := database.lock.accept session
    (admission.map fun () => session,
      { database with lock, nextSession := database.nextSession + 1 })

/-- Ends the session with an id, from outside. -/
def disconnect (database : Database) (session : SessionId) : Database :=
  { database with lock := database.lock.disconnect session }

/-- Ends a session on behalf of its owner, once. -/
def endSession (database : Database) (session : SessionId) : Database :=
  if session ∈ database.ended then database
  else { database with ended := session :: database.ended }.disconnect session

/-- Whether a session takes itself to be closed. -/
def isEnded (database : Database) (session : SessionId) : Bool :=
  database.ended.contains session || database.closed

/-- Fails if a session takes itself to be closed. -/
def ensureConnected (database : Database) (session : SessionId) : Except Fault Unit :=
  if database.isEnded session then .error (.connectionClosed session) else .ok ()

/-! ## Commits -/

/-- Begins a commit if writes are permitted. -/
def beginCommit (database : Database) : Except Fault Unit × Database :=
  match database.storage.checkWriting with
  | .error fault => (.error fault, database)
  | .ok () => (.ok (), { database with committing := true })

theorem beginCommit_of_error {database : Database} {fault : Fault}
    (refused : database.storage.checkWriting = .error fault) :
    database.beginCommit = (.error fault, database) := by
  unfold beginCommit
  rw [refused]

theorem beginCommit_of_ok {database : Database}
    (permitted : database.storage.checkWriting = .ok ()) :
    database.beginCommit = (.ok (), { database with committing := true }) := by
  unfold beginCommit
  rw [permitted]

/-- Writes the record of a commit to the journal; if that fails the commit has ended. -/
def writeRecord (database : Database) (record : Bytes) (disk : FileSystem) :
    Except Fault Unit × Database × FileSystem :=
  let appended := database.storage.writeBlock database.journal record disk
  let written := { database with storage := appended.storage, journal := appended.blocks }
  match appended.result with
  | .error fault => (.error fault, { written with committing := false }, appended.disk)
  | .ok _ => (.ok (), written, appended.disk)

/-- Moves the generation on and ends a commit. -/
def finishCommit (database : Database) : Database :=
  { database with generation := database.generation + 1, committing := false }

/-! ## Reuse and closing -/

/-- Drops every entry of the cache. -/
def clearCache (database : Database) : Database :=
  { database with cache := database.cache.clear }

/-- Switches reuse of results on or off. -/
def setReuse (database : Database) (enabled : Bool) : Database :=
  { database with cache := database.cache.setEnabled enabled }

/-- Ends every session, drops the cache and closes the storage, once. -/
def close (database : Database) (disk : FileSystem) : Database × FileSystem :=
  if database.closed then (database, disk)
  else
    let (storage, disk) := database.storage.close disk
    ({ database with
        closed := true
        lock := database.lock.shutdown
        cache := database.cache.clear
        storage }, disk)

theorem close_of_open {database : Database} (stillOpen : database.closed = false)
    (disk : FileSystem) :
    database.close disk =
      ({ database with
          closed := true
          lock := database.lock.shutdown
          cache := database.cache.clear
          storage := (database.storage.close disk).1 },
        (database.storage.close disk).2) := by
  unfold close
  rw [stillOpen, if_neg Bool.false_ne_true]

theorem close_of_closed {database : Database} (closed : database.closed = true)
    (disk : FileSystem) : database.close disk = (database, disk) :=
  if_pos closed

end Database

end DurableStore
