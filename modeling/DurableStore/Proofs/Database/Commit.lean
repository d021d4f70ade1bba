import DurableStore.Proofs.Database.Alone
import DurableStore.Proofs.Database.Standing

/-!
An update made alone.

It waits or is refused, and then nothing happens; or its record is appended to the journal, and the
append decides: if that fails the tables stay as they are, and otherwise they are changed and the
generation moves on (`attempt_update`).
-/

namespace DurableStore

variable {τ : Type}

namespace Database

/-- A database after an append to its journal. -/
def journaled (database : Database) (appended : BlockFile.Appended) : Database :=
  { database with
    storage := { database.storage with power := appended.power }
    journal := appended.blocks }

theorem journaled_of_idle {database : Database} (idle : database.committing = false)
    (appended : BlockFile.Appended) :
    { database.journaled appended with committing := false } = database.journaled appended := by
  unfold journaled
  rw [idle]

theorem writeRecord_of_error {database : Database} {bytes : Bytes} {disk : FileSystem}
    {fault : Fault}
    (bad : (database.journal.append bytes database.storage.power disk).result = .error fault) :
    database.writeRecord bytes disk =
      (.error fault,
        { database.journaled (database.journal.append bytes database.storage.power disk) with
          committing := false },
        (database.journal.append bytes database.storage.power disk).disk) := by
  unfold writeRecord Storage.writeBlock
  simp only [bad]
  rfl

theorem writeRecord_of_ok {database : Database} {bytes : Bytes} {disk : FileSystem} {offset : Nat}
    (good : (database.journal.append bytes database.storage.power disk).result = .ok offset) :
    database.writeRecord bytes disk =
      (.ok (), database.journaled (database.journal.append bytes database.storage.power disk),
        (database.journal.append bytes database.storage.power disk).disk) := by
  unfold writeRecord Storage.writeBlock
  simp only [good]
  rfl

/-- Whether the record was written or not, the journal is what the append left. -/
theorem writeRecord_snd (database : Database) (bytes : Bytes) (disk : FileSystem) :
    ∃ committing, (database.writeRecord bytes disk).2 =
      ({ database.journaled (database.journal.append bytes database.storage.power disk) with
          committing }, (database.journal.append bytes database.storage.power disk).disk) := by
  cases written : (database.journal.append bytes database.storage.power disk).result with
  | error fault =>
    rw [writeRecord_of_error written]
    exact ⟨_, rfl⟩
  | ok offset =>
    rw [writeRecord_of_ok written]
    exact ⟨_, rfl⟩

end Database

namespace Engine

/-- Appends a record to the journal. -/
def append (engine : Engine τ) (bytes : Bytes) : BlockFile.Appended :=
  engine.database.journal.append bytes engine.database.storage.power engine.disk

/-- What can come of an update. -/
inductive Attempt (engine : Engine τ) (bytes : Bytes) (apply : τ → τ) :
    Option (Answer τ) × Engine τ → Prop where
  /-- Another session or another commit comes first. -/
  | waits : Attempt engine bytes apply (none, engine)
  /-- The session is closed, or writes are not permitted. -/
  | refused {fault : Fault} (lit : fault.isPowerLoss = false) :
      Attempt engine bytes apply (some (.updated (.error fault) false []), engine)
  /-- The record could not be written. -/
  | failed {fault : Fault} (bad : (engine.append bytes).result = .error fault) :
      Attempt engine bytes apply
        (some (.updated (.error fault) false []),
          { engine with
            database := engine.database.journaled (engine.append bytes)
            disk := (engine.append bytes).disk })
  /-- The record was written and the update applied. -/
  | committed {offset : Nat} (good : (engine.append bytes).result = .ok offset)
      (idle : engine.database.committing = false) :
      Attempt engine bytes apply
        (some (.updated (.ok (apply engine.tables)) true []),
          { database :=
              { engine.database.journaled (engine.append bytes) with
                generation := engine.database.generation + 1 }
            disk := (engine.append bytes).disk
            tables := apply engine.tables })

theorem isPowerLoss_of_checkWriting {storage : Storage} {fault : Fault}
    (refused : storage.checkWriting = .error fault) : fault.isPowerLoss = false := by
  unfold Storage.checkWriting at refused
  split at refused
  next => cases refused; rfl
  next =>
    split at refused
    next => cases refused
    next =>
      split at refused
      next => cases refused; rfl
      next => cases refused; rfl
    next => cases refused; rfl

theorem isPowerLoss_of_ensureConnected {database : Database} {session : SessionId} {fault : Fault}
    (refused : database.ensureConnected session = .error fault) : fault.isPowerLoss = false := by
  unfold Database.ensureConnected at refused
  split at refused
  next => cases refused; rfl
  next => cases refused

theorem attempt_carryOut (engine : Engine τ) (bytes : Bytes) (apply : τ → τ) :
    engine.Attempt bytes apply (engine.update bytes apply) := by
  unfold update
  cases permitted : engine.database.storage.checkWriting with
  | error fault => exact .refused (isPowerLoss_of_checkWriting permitted)
  | ok =>
    simp only
    split
    next => exact .waits
    next idle =>
      have idle : engine.database.committing = false := Bool.eq_false_iff.2 idle
      -- No commit was under way before, so none is when this one ends.
      have ends := Database.journaled_of_idle idle (engine.append bytes)
      cases written : (engine.append bytes).result with
      | error fault =>
        have writes : ({ engine.database with committing := true } : Database).writeRecord bytes
            engine.disk =
              (.error fault, { engine.database.journaled (engine.append bytes) with
                committing := false }, (engine.append bytes).disk) :=
          Database.writeRecord_of_error written
        rw [writes, ends]
        exact .failed written
      | ok offset =>
        have writes : ({ engine.database with committing := true } : Database).writeRecord bytes
            engine.disk =
              (.ok (), { engine.database.journaled (engine.append bytes) with committing := true },
                (engine.append bytes).disk) :=
          Database.writeRecord_of_ok written
        rw [writes]
        have finishes : ({ engine.database.journaled (engine.append bytes) with
            committing := true } : Database).finishCommit =
              { engine.database.journaled (engine.append bytes) with
                generation := engine.database.generation + 1 } :=
          congrArg (fun database : Database =>
            { database with generation := engine.database.generation + 1 }) ends
        simp only [finishes]
        exact .committed written idle

/-- **An update made alone** is one attempt. -/
theorem attempt_update (engine : Engine τ) (session : SessionId) (bytes : Bytes) (apply : τ → τ) :
    engine.Attempt bytes apply (engine.callAlone (.update session bytes [] apply)) := by
  have enters : engine.enter (.update session bytes [] apply) =
      engine.enqueue session (.update bytes [] apply) := rfl
  unfold callAlone
  rw [enters]
  unfold enqueue
  cases connected : engine.database.ensureConnected session with
  | error fault => exact .refused (isPowerLoss_of_ensureConnected connected)
  | ok =>
    simp only
    unfold queuedAlone
    cases engine.database.lock.turn session with
    | refused => exact .refused rfl
    | wait => exact .waits
    | granted => exact attempt_carryOut engine bytes apply

end Engine

end DurableStore
