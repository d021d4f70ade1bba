import DurableStore.Proofs.Storage.Opening

/-!
What an open storage is asked to do, and what that does to its file of reservations.

A `Request` is served in one step.  Only an allocation writes, and only to the file of
reservations, which stays a row of blocks however the write ends (`persistIds_attached`,
`serve_keeps`).
-/

namespace DurableStore

open FileSystem

/-! ## Requests -/

/-- What an open storage is asked to do. -/
inductive Request where
  /-- To hand out an object id. -/
  | allocateId (needFresh : Bool) (space : IdSpace)
  /-- To add a reference to an id. -/
  | retainId (id : ObjectId) (space : IdSpace)
  /-- To drop a reference to an id. -/
  | releaseId (id : ObjectId) (space : IdSpace)
  /-- To take writes or to refuse them. -/
  | setWriteState (state : WriteState)
  /-- To schedule a loss of power. -/
  | armPower (countdown : Nat)
  /-- To restore the power. -/
  | resetPower
  deriving DecidableEq

/-- The answer to a request. -/
inductive Reply where
  /-- The id handed out, or why none was. -/
  | allocated (result : Except Fault ObjectId)
  /-- Whether the id was live. -/
  | counted (live : Bool)
  /-- It was done, or why not. -/
  | done (result : Except Fault Unit)

namespace Storage

/-- Serves a request. -/
def serve (storage : Storage) (disk : FileSystem) : Request → Reply × Storage × FileSystem
  | .allocateId needFresh space =>
    let (result, storage, disk) := storage.allocateId disk needFresh space
    (.allocated result, storage, disk)
  | .retainId id space =>
    let (live, storage) := storage.retainId id space
    (.counted live, storage, disk)
  | .releaseId id space =>
    let (live, storage) := storage.releaseId id space
    (.counted live, storage, disk)
  | .setWriteState state =>
    let (result, storage) := storage.setWriteState state
    (.done result, storage, disk)
  | .armPower countdown => (.done (.ok ()), storage.armPower countdown, disk)
  | .resetPower => (.done (.ok ()), storage.resetPower, disk)

/-! ## Writing reservations -/

variable {storage : Storage} {blocks : BlockFile} {disk : FileSystem} {path : Path} {limit : Nat}
  {id : FileId} {payloads : List Bytes} {torn : Option Bytes}

theorem appendBlock_of_error {fault : Fault} (refused : storage.checkWriting = .error fault)
    (payload : Bytes) :
    storage.appendBlock blocks payload disk =
      { result := .error fault, storage, blocks, disk } := by
  unfold appendBlock
  rw [refused]

theorem appendBlock_of_ok (permitted : storage.checkWriting = .ok ()) (payload : Bytes) :
    storage.appendBlock blocks payload disk =
      { result := (blocks.append payload storage.power disk).result
        storage := { storage with power := (blocks.append payload storage.power disk).power }
        blocks := (blocks.append payload storage.power disk).blocks
        disk := (blocks.append payload storage.power disk).disk } := by
  unfold appendBlock
  rw [permitted]
  rfl

/-- Writes the current reservation if that is permitted. -/
def persistIds (storage : Storage) (disk : FileSystem) :
    Except Fault Unit × Storage × FileSystem :=
  match storage.checkReserving with
  | .error fault => (.error fault, storage, disk)
  | .ok () => storage.writeReservation disk

theorem persistIds_of_none (file : storage.idFile = none) :
    storage.persistIds disk = (.error openedReadOnly, storage, disk) := by
  unfold persistIds checkReserving
  rw [file]

theorem persistIds_of_error {fault : Fault} (file : storage.idFile = some blocks)
    (refused : storage.checkWriting = .error fault) :
    storage.persistIds disk = (.error fault, storage, disk) := by
  unfold persistIds checkReserving
  rw [file, refused]

theorem persistIds_of_ok (file : storage.idFile = some blocks)
    (permitted : storage.checkWriting = .ok ()) :
    storage.persistIds disk =
      ((blocks.append storage.ids.reservation storage.power disk).result.map fun _ => (),
        { storage with
          power := (blocks.append storage.ids.reservation storage.power disk).power
          idFile := some (blocks.append storage.ids.reservation storage.power disk).blocks },
        (blocks.append storage.ids.reservation storage.power disk).disk) := by
  unfold persistIds checkReserving writeReservation writeBlock
  rw [file, permitted]

theorem reservation_ne_nil (ids : ObjectIds) : ids.reservation ≠ [] := by
  have length := ids.length_reservation
  intro empty
  rw [empty] at length
  cases length

/-- **Writing the reservation** adds it to the file or fails, and what a failure leaves behind is
never taken for a reservation. -/
theorem persistIds_attached (file : storage.idFile = some blocks)
    (attached : Attached blocks disk path idFileName limit id payloads torn) :
    ∃ result power blocks' after,
      storage.persistIds disk =
        (result, { storage with power, idFile := some blocks' }, after) ∧
      AltersOnly id disk after ∧
      (result = .ok () ∧
          Attached blocks' after path idFileName limit id (payloads ++ [storage.ids.reservation])
            none ∨
        ∃ fault torn', result = .error fault ∧
          Attached blocks' after path idFileName limit id payloads torn' ∧
          (torn ≠ some [] → torn' ≠ some [])) := by
  cases permitted : storage.checkWriting with
  | error fault =>
    rw [persistIds_of_error file permitted]
    refine ⟨.error fault, storage.power, blocks, disk, ?_, .refl id disk,
      .inr ⟨fault, torn, rfl, attached, fun plain => plain⟩⟩
    rw [← file]
  | ok =>
    rw [persistIds_of_ok file permitted]
    have course := BlockFile.append_course attached.intact storage.ids.reservation storage.power
    obtain ⟨alters, limited⟩ := course.alters
    have cut : Readies path idFileName id disk _ := .of_altersOnly alters
    have resolved := cut.resolve lasting_idFileName attached.resolved
    have limited' := limited.trans attached.limited
    refine ⟨_, _, _, _, rfl, alters, ?_⟩
    rcases course.outcome attached.intact with
      ⟨offset, ok, intact⟩ | ⟨fault, torn', bad, intact, left⟩
    · rw [ok]
      exact .inl ⟨rfl, resolved, limited', intact⟩
    · rw [bad]
      refine .inr ⟨fault, torn', rfl, ⟨resolved, limited', intact⟩, ?_⟩
      intro plain
      rcases left with rfl | apart | ⟨rfl, -⟩
      · exact plain
      · exact apart
      · exact fun same => reservation_ne_nil _ (Option.some.inj same)

/-! ## Handing out ids -/

/-- The ways in which an allocation can go. -/
theorem allocateId_cases (storage : Storage) (disk : FileSystem) (needFresh : Bool)
    (space : IdSpace) :
    (∃ fault, storage.allocateId disk needFresh space = (.error fault, storage, disk)) ∨
      ∃ allocation ids, storage.ids.allocate needFresh space = (.ok allocation, ids) ∧
        (allocation.advanced = false ∧
            storage.allocateId disk needFresh space =
              (.ok allocation.id, { storage with ids }, disk) ∨
          allocation.advanced = true ∧
            ((∃ fault later after,
                ({ storage with ids } : Storage).persistIds disk = (.error fault, later, after) ∧
                storage.allocateId disk needFresh space =
                  (.error fault, { later with ids := later.ids.discard allocation.id space },
                    after)) ∨
              ∃ later after,
                ({ storage with ids } : Storage).persistIds disk = (.ok (), later, after) ∧
                storage.allocateId disk needFresh space =
                  (.ok allocation.id, { later with ids := later.ids.markPersisted }, after))) := by
  unfold allocateId takeId
  cases storage.ensureOpen with
  | error fault => exact .inl ⟨fault, rfl⟩
  | ok =>
    cases allocates : storage.ids.allocate needFresh space with
    | mk outcome ids =>
      cases outcome with
      | error fault =>
        have same : ids = storage.ids := by
          unfold ObjectIds.allocate at allocates
          simp only at allocates
          split at allocates
          next => cases allocates
          next => cases allocates; rfl
        rw [same]
        exact .inl ⟨fault, rfl⟩
      | ok allocation =>
        refine .inr ⟨allocation, ids, rfl, ?_⟩
        cases advanced : allocation.advanced with
        | false =>
          refine .inl ⟨rfl, ?_⟩
          simp only [advanced, Bool.false_eq_true, if_false]
        | true =>
          refine .inr ⟨rfl, ?_⟩
          simp only [advanced, if_true]
          unfold persistIds
          cases ({ storage with ids } : Storage).checkReserving with
          | error fault => exact .inl ⟨fault, _, disk, rfl, rfl⟩
          | ok =>
            simp only [reserveId]
            cases ({ storage with ids } : Storage).writeReservation disk with
            | mk written rest =>
              obtain ⟨later, after⟩ := rest
              cases written with
              | error fault => exact .inl ⟨fault, later, after, rfl, rfl⟩
              | ok => exact .inr ⟨later, after, rfl, rfl⟩

/-! ## What requests keep -/

/-- The second storage differs from the first in what requests may change at most. -/
def Alike (before after : Storage) : Prop :=
  ∃ ids writeState power idFile, after = { before with ids, writeState, power, idFile }

/-- The storage writes its reservations to the file `id`, which is a row of blocks. -/
def Reserves (storage : Storage) (disk : FileSystem) (path : Path) (limit : Nat) (id : FileId) :
    Prop :=
  ∃ blocks payloads torn, storage.idFile = some blocks ∧
    Attached blocks disk path idFileName limit id payloads torn

theorem setWriteState_snd (storage : Storage) (state : WriteState) :
    ∃ writeState, (storage.setWriteState state).2 = { storage with writeState } := by
  unfold setWriteState
  split
  next => exact ⟨storage.writeState, rfl⟩
  next => exact ⟨state, rfl⟩

theorem allocateId_keeps (h : storage.Reserves disk path limit id) (needFresh : Bool)
    (space : IdSpace) :
    Alike storage (storage.allocateId disk needFresh space).2.1 ∧
      AltersOnly id disk (storage.allocateId disk needFresh space).2.2 ∧
      (storage.allocateId disk needFresh space).2.1.Reserves
        (storage.allocateId disk needFresh space).2.2 path limit id := by
  obtain ⟨blocks, payloads, torn, file, attached⟩ := h
  rcases allocateId_cases storage disk needFresh space with
    ⟨fault, refused⟩ | ⟨allocation, ids, -, ⟨-, given⟩ | ⟨-, persisted⟩⟩
  · rw [refused]
    exact ⟨⟨_, _, _, _, rfl⟩, .refl id disk, blocks, payloads, torn, file, attached⟩
  · rw [given]
    exact ⟨⟨_, _, _, _, rfl⟩, .refl id disk, blocks, payloads, torn, file, attached⟩
  · have file' : ({ storage with ids } : Storage).idFile = some blocks := file
    obtain ⟨result, power, blocks', after', persists, alters, outcome⟩ :=
      persistIds_attached file' attached
    -- Whether the write succeeded or not, the file is a row of blocks.
    have attached' : ∃ payloads' torn',
        Attached blocks' after' path idFileName limit id payloads' torn' := by
      rcases outcome with ⟨-, attached⟩ | ⟨_, torn', -, attached, -⟩
      · exact ⟨_, _, attached⟩
      · exact ⟨_, torn', attached⟩
    obtain ⟨payloads', torn', attached'⟩ := attached'
    rcases persisted with ⟨fault, later, after, refused, given⟩ | ⟨later, after, written, given⟩
    · rw [persists] at refused
      cases refused
      rw [given]
      exact ⟨⟨_, _, _, _, rfl⟩, alters, blocks', payloads', torn', rfl, attached'⟩
    · rw [persists] at written
      cases written
      rw [given]
      exact ⟨⟨_, _, _, _, rfl⟩, alters, blocks', payloads', torn', rfl, attached'⟩

/-- **Serving a request** writes to the file of reservations at most, and that stays a row of
blocks. -/
theorem serve_keeps (h : storage.Reserves disk path limit id) (request : Request) :
    Alike storage (storage.serve disk request).2.1 ∧
      AltersOnly id disk (storage.serve disk request).2.2 ∧
      (storage.serve disk request).2.1.Reserves (storage.serve disk request).2.2 path limit id := by
  have unmoved : AltersOnly id disk disk := .refl id disk
  cases request with
  | allocateId needFresh space => exact allocateId_keeps h needFresh space
  | retainId other space => exact ⟨⟨_, _, _, _, rfl⟩, unmoved, h⟩
  | releaseId other space => exact ⟨⟨_, _, _, _, rfl⟩, unmoved, h⟩
  | setWriteState state =>
    obtain ⟨writeState, later⟩ := setWriteState_snd storage state
    have served : (storage.serve disk (.setWriteState state)).2 =
        ({ storage with writeState }, disk) :=
      congrArg (·, disk) later
    rw [served]
    exact ⟨⟨_, _, _, _, rfl⟩, unmoved, h⟩
  | armPower countdown => exact ⟨⟨_, _, _, _, rfl⟩, unmoved, h⟩
  | resetPower => exact ⟨⟨_, _, _, _, rfl⟩, unmoved, h⟩

end Storage

end DurableStore
