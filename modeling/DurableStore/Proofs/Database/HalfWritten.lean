import DurableStore.Proofs.Database.Commit

/-!
Closing between the two writes of a block.

A commit writes its record in one step, the header and the payload, and somebody else may close the
database in between.  But closing takes names of scratch files away and looks at no bytes
(`close_withContents`), and the header is written without a look at names (`appendHeader_onto`).  So
it comes to the same whether a storage was closed before a block was written or between the two
writes (`Storage.close_amid_writes`), and whether a database was closed before the record of a
commit was (`Database.close_amid_writes`).
-/

namespace DurableStore

open FileSystem

/-! ## Names without bytes -/

namespace FileSystem

theorem remove_withContents (disk : FileSystem) (contents : Array Content) (path : Path) :
    ({ disk with contents } : FileSystem).remove path =
      (disk.remove path).map ({ · with contents }) := by
  have located : ({ disk with contents } : FileSystem).locate path = disk.locate path := rfl
  have found (location : Location) :
      ({ disk with contents } : FileSystem).find? location = disk.find? location := rfl
  unfold remove
  rw [located]
  cases disk.locate path with
  | error kind => rfl
  | ok location =>
    simp only [bind, Except.bind, found]
    cases disk.find? location with
    | none => rfl
    | some entry => cases entry <;> rfl

end FileSystem

namespace Storage

theorem removeAll_withContents (disk : FileSystem) (contents : Array Content)
    (paths : List Path) :
    removeAll { disk with contents } paths = { removeAll disk paths with contents } := by
  induction paths generalizing disk with
  | nil => rfl
  | cons path paths ih =>
    have first : removeAll { disk with contents } [path] =
        { removeAll disk [path] with contents } := by
      unfold removeAll
      simp only [List.foldl_cons, List.foldl_nil, remove_withContents]
      cases disk.remove path <;> rfl
    rw [removeAll_cons, first, ih, ← removeAll_cons]

/-- Closing looks at no bytes. -/
theorem close_withContents (storage : Storage) (disk : FileSystem) (contents : Array Content) :
    storage.close { disk with contents } =
      ((storage.close disk).1, { (storage.close disk).2 with contents }) := by
  unfold close
  split
  next => rfl
  next => rw [removeAll_withContents]

/-- Closing does not look at the power. -/
theorem close_withPower (storage : Storage) (power : PowerSwitch) (disk : FileSystem) :
    ({ storage with power } : Storage).close disk =
      ({ (storage.close disk).1 with power }, (storage.close disk).2) := by
  unfold close
  simp only
  split
  next => rfl
  next => rfl

theorem power_close (storage : Storage) (disk : FileSystem) :
    (storage.close disk).1.power = storage.power := by
  unfold close
  split
  next => rfl
  next => rfl

end Storage

/-! ## Bytes without names -/

namespace OpenFile

theorem append_onto (file : OpenFile) (disk other : FileSystem) (bytes : Bytes) :
    file.append { other with contents := disk.contents } bytes =
      ((file.append disk bytes).1,
        { other with contents := (file.append disk bytes).2.contents }) := by
  have same (id : FileId) :
      ({ other with contents := disk.contents } : FileSystem).length id = disk.length id := rfl
  unfold append
  cases file.writable? with
  | none => rfl
  | some id =>
    simp only [same]
    split
    next => rfl
    next => rfl

theorem setLength_onto (file : OpenFile) (disk other : FileSystem) (length : Nat) :
    file.setLength { other with contents := disk.contents } length =
      ((file.setLength disk length).1,
        { other with contents := (file.setLength disk length).2.contents }) := by
  unfold setLength
  cases file.writable? with
  | none => rfl
  | some id =>
    simp only
    split
    next => rfl
    next => rfl

end OpenFile

namespace BlockFile

/-- The same append on a disk that has the same bytes. -/
def Appended.onto (appended : Appended) (other : FileSystem) : Appended :=
  { appended with disk := { other with contents := appended.disk.contents } }

theorem cutTornTail_onto (blocks : BlockFile) (disk other : FileSystem) :
    blocks.cutTornTail { other with contents := disk.contents } =
      ((blocks.cutTornTail disk).1,
        { other with contents := (blocks.cutTornTail disk).2.contents }) := by
  unfold cutTornTail
  cases blocks.tornTail with
  | none => rfl
  | some offset => exact blocks.file.setLength_onto disk other offset

/-- The header is written without a look at names. -/
theorem appendHeader_onto (blocks : BlockFile) (payload : Bytes) (power : PowerSwitch)
    (disk other : FileSystem) :
    blocks.appendHeader payload power { other with contents := disk.contents } =
      (blocks.appendHeader payload power disk).onto other := by
  unfold appendHeader
  cases stamp blocks.limit payload with
  | error fault => rfl
  | ok block =>
    simp only [cutTornTail_onto]
    split
    next => rfl
    next =>
      rcases blocks.cutTornTail disk with ⟨fault | _, bare⟩
      · rfl
      · simp only [OpenFile.append_onto]
        rfl

end BlockFile

/-! ## Closing in between -/

/-- **Closing a storage between the two writes of a block** comes to the same as closing it before
them. -/
theorem Storage.close_amid_writes {storage : Storage} {blocks : BlockFile} {payload : Bytes}
    {disk : FileSystem} {offset : Nat}
    (begun : (blocks.appendHeader payload storage.power disk).result = .ok offset) :
    let half := blocks.appendHeader payload storage.power disk
    let between := { storage with power := half.power }.close half.disk
    let early := storage.close disk
    half.blocks.appendPayload offset payload between.1.power between.2 =
        blocks.append payload early.1.power early.2 ∧
      between.1 = { early.1 with power := half.power } := by
  intro half between early
  have names : half.disk = { disk with contents := half.disk.contents } :=
    congrArg BlockFile.Appended.disk (blocks.appendHeader_onto payload storage.power disk disk)
  have closes : between =
      ({ early.1 with power := half.power }, { early.2 with contents := half.disk.contents }) := by
    show ({ storage with power := half.power } : Storage).close half.disk = _
    rw [names, close_withPower, close_withContents]
  -- The header is the same on the disk that closing leaves.
  have header : blocks.appendHeader payload early.1.power early.2 = half.onto early.2 := by
    have same := blocks.appendHeader_onto payload storage.power disk early.2
    rw [← storage.contents_close disk] at same
    rw [storage.power_close disk]
    exact same
  have begun' : (blocks.appendHeader payload early.1.power early.2).result = .ok offset := by
    rw [header]
    exact begun
  refine ⟨?_, congrArg Prod.fst closes⟩
  rw [BlockFile.append_of_ok begun', header, closes]
  rfl

/-- **Closing a database between the two writes of a record** comes to the same as closing it before
them: the record is written or fails alike, and the same is left of the database. -/
theorem Database.close_amid_writes {database : Database} {record : Bytes} {disk : FileSystem}
    {offset : Nat}
    (begun : (database.journal.appendHeader record database.storage.power disk).result =
      .ok offset) :
    let half := database.journal.appendHeader record database.storage.power disk
    let between := (database.journaled half).close half.disk
    let whole := between.1.journal.appendPayload offset record between.1.storage.power between.2
    let early := database.close disk
    whole = early.1.journal.append record early.1.storage.power early.2 ∧
      between.1.journaled whole = early.1.journaled whole := by
  intro half between whole early
  have later : (database.journaled half).closed = database.closed := rfl
  cases already : database.closed with
  | true =>
    have late : between = (database.journaled half, half.disk) :=
      close_of_closed (later.trans already) half.disk
    have soon : early = (database, disk) := close_of_closed already disk
    refine ⟨?_, ?_⟩
    · show between.1.journal.appendPayload offset record between.1.storage.power between.2 = _
      rw [late, soon, BlockFile.append_of_ok begun]
      rfl
    · rw [late, soon]
      rfl
  | false =>
    obtain ⟨writes, storage⟩ := Storage.close_amid_writes begun
    have late := close_of_open (later.trans already) half.disk
    have soon : early = _ := close_of_open already disk
    refine ⟨?_, ?_⟩
    · show between.1.journal.appendPayload offset record between.1.storage.power between.2 = _
      rw [show between = _ from late, soon]
      exact writes
    · rw [show between = _ from late, soon]
      simp only [journaled]
      rw [storage]

end DurableStore
