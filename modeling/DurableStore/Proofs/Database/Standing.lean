import DurableStore.Proofs.Storage.Requests

/-!
The two files of a database directory, while the database is open and while it is not.

A directory is `Resting` when its reservations and its journal are rows of blocks with a remnant
behind them at most; an open database is `Standing` when it also knows where these remnants start.
What an open database does to its files keeps it standing, it rests whenever its process is gone
(`Standing.resting`), and a resting directory opens again with the records that can be read from
its journal (`openAt_of_resting`).
-/

namespace DurableStore

open FileSystem Database

/-! ## The two files -/

/-- What the directory of a database holds while nobody has it open. -/
structure Resting (path : Path) (limit : Nat) (disk : FileSystem) (ids journal : FileId)
    (records : List Bytes) (torn : Option Bytes) : Prop where
  directory : disk.isDirectory path = true
  reserved : ∃ payloads torn, Holding disk path Storage.idFileName limit (some ids) payloads torn
  committed : Holding disk path Database.journalName limit (some journal) records torn
  apart : ids ≠ journal

/-- What an open database has in its directory. -/
structure Standing (path : Path) (limit : Nat) (disk : FileSystem) (ids journal : FileId)
    (records : List Bytes) (torn : Option Bytes) (database : Database) : Prop where
  place : database.storage.path = path
  tidy : ∀ file ∈ database.storage.scratch, ∃ name, file = scratchPath path name
  directory : disk.isDirectory path = true
  reserves : database.storage.Reserves disk path limit ids
  commits : Attached database.journal disk path Database.journalName limit journal records torn
  apart : ids ≠ journal

variable {path : Path} {limit : Nat} {disk after : FileSystem} {ids journal : FileId}
  {records : List Bytes} {torn : Option Bytes} {database : Database}

theorem Resting.ne_of_some (h : Resting path limit disk ids journal records torn) :
    ∀ id, some ids = some id → some journal ≠ some id := by
  rintro _ same same'
  exact h.apart (Option.some.inj (same.trans same'.symm))

/-- A crash leaves a directory at rest. -/
theorem Standing.resting (h : Standing path limit disk ids journal records torn database) :
    Resting path limit disk ids journal records torn := by
  obtain ⟨blocks, payloads, torn', -, attached⟩ := h.reserves
  exact ⟨h.directory, ⟨payloads, torn', attached.holding⟩, h.commits.holding, h.apart⟩

/-- Whatever a database does without its storage and its journal. -/
theorem Standing.congr (h : Standing path limit disk ids journal records torn database)
    {other : Database} (storage : other.storage = database.storage)
    (blocks : other.journal = database.journal) :
    Standing path limit disk ids journal records torn other :=
  ⟨storage ▸ h.place, storage ▸ h.tidy, h.directory, storage ▸ h.reserves, blocks ▸ h.commits,
    h.apart⟩

theorem isDirectory_of_altersOnly {id : FileId} (alters : AltersOnly id disk after)
    (directory : disk.isDirectory path = true) : after.isDirectory path = true :=
  Storage.isDirectory_of_keeps (fun location found => (alters.find? location).trans found) directory

/-- Serving a request keeps a database standing, and its journal as it is. -/
theorem Standing.serve (h : Standing path limit disk ids journal records torn database)
    (request : Request) :
    Standing path limit (database.storage.serve disk request).2.2 ids journal records torn
      { database with storage := (database.storage.serve disk request).2.1 } := by
  obtain ⟨alike, alters, reserves⟩ := Storage.serve_keeps h.reserves request
  obtain ⟨_, _, _, _, same⟩ := alike
  have cut : Readies path Storage.idFileName ids disk _ := .of_altersOnly alters
  exact ⟨same ▸ h.place, same ▸ h.tidy, isDirectory_of_altersOnly alters h.directory, reserves,
    h.commits.of_readies lasting_journalName h.apart.symm cut, h.apart⟩

/-- An append to the journal keeps a database standing. -/
theorem Standing.append (h : Standing path limit disk ids journal records torn database)
    {payload : Bytes} {power : PowerSwitch} {appended : BlockFile.Appended}
    (course : BlockFile.Course database.journal payload power disk journal records torn appended)
    {records' : List Bytes} {torn' : Option Bytes}
    (intact : appended.blocks.Intact appended.disk journal records' torn') :
    Standing path limit appended.disk ids journal records' torn'
      { database with
        storage := { database.storage with power := appended.power }
        journal := appended.blocks } := by
  obtain ⟨alters, limited⟩ := course.alters
  have cut : Readies path Database.journalName journal disk appended.disk := .of_altersOnly alters
  obtain ⟨blocks, payloads, torn'', file, attached⟩ := h.reserves
  exact ⟨h.place, h.tidy, isDirectory_of_altersOnly alters h.directory,
    ⟨blocks, payloads, torn'', file, attached.of_readies lasting_idFileName h.apart cut⟩,
    ⟨cut.resolve lasting_journalName h.commits.resolved, limited.trans h.commits.limited, intact⟩,
    h.apart⟩

theorem Storage.close_cases (storage : Storage) (disk : FileSystem) :
    storage.close disk = (storage, disk) ∨
      storage.close disk =
        ({ storage with closed := true, scratch := [] }, removeAll disk storage.scratch) := by
  unfold close
  split
  next => exact .inl rfl
  next => exact .inr rfl

/-- Closing keeps a database standing: only scratch files are removed. -/
theorem Standing.close (h : Standing path limit disk ids journal records torn database) :
    Standing path limit (database.close disk).2 ids journal records torn
      (database.close disk).1 := by
  unfold Database.close
  split
  next => exact h
  next =>
    rcases Storage.close_cases database.storage disk with closes | closes
    · rw [closes]
      exact h.congr rfl rfl
    · rw [closes]
      -- Nothing but scratch files goes, and those are not lasting files.
      have tidied := Storage.removeAll_tidied path h.tidy disk
      obtain ⟨blocks, payloads, torn', file, attached⟩ := h.reserves
      exact ⟨h.place, by simp, Storage.isDirectory_of_keeps tidied.keeps h.directory,
        ⟨blocks, payloads, torn', file, attached.of_tidied lasting_idFileName tidied⟩,
        h.commits.of_tidied lasting_journalName tidied, h.apart⟩

/-! ## Opening -/

/-- A database as it is opened. -/
def Database.initial (storage : Storage) (journal : BlockFile) (records : List Bytes) : Database :=
  { storage
    cache := .new storage.config.reuseCapacity storage.config.reuseResults
    journal
    recovered := records }

theorem FileSystem.length_eq_of_content {id : FileId} (same : after.content id = disk.content id) :
    after.length id = disk.length id := by
  rw [← FileSystem.length_content, same, FileSystem.length_content]

namespace Storage

theorem openBlockFile_initial {config : Config} (writable : config.readOnly = false)
    (owner : String) (ids : ObjectIds) (idFile : Option BlockFile) (name : String) :
    (initial path config owner ids idFile).openBlockFile disk ⟨[name]⟩ =
      BlockFile.openAt disk (path.child name) config.blockLimit config.syncWrites := by
  unfold openBlockFile attachBlockFile initial
  simp only [ensureOpen, Bool.false_eq_true, if_false, writable]
  rfl

theorem recoverBlocks_initial {config : Config} (writable : config.readOnly = false)
    (owner : String) (ids : ObjectIds) (idFile : Option BlockFile) (blocks : BlockFile) :
    (initial path config owner ids idFile).recoverBlocks blocks disk =
      (blocks.recover .fail [] disk,
        { initial path config owner ids idFile with
          asked := (blocks.recover .fail [] disk).asked }) := by
  unfold recoverBlocks initial
  simp only [writable, Bool.false_eq_true, if_false]

theorem openBlockFile_readOnly {config : Config} (readOnly : config.readOnly = true)
    (owner : String) (ids : ObjectIds) (idFile : Option BlockFile) (name : String) :
    (initial path config owner ids idFile).openBlockFile disk ⟨[name]⟩ =
      (BlockFile.openExisting disk (path.child name) config.blockLimit, disk) := by
  unfold openBlockFile attachBlockFile initial
  simp only [ensureOpen, Bool.false_eq_true, if_false, readOnly, if_true]
  rfl

theorem recoverBlocks_readOnly {config : Config} (readOnly : config.readOnly = true)
    (owner : String) (ids : ObjectIds) (idFile : Option BlockFile) (blocks : BlockFile) :
    (initial path config owner ids idFile).recoverBlocks blocks disk =
      ({ result := (blocks.scan .fail [] disk).1, asked := (blocks.scan .fail [] disk).2, blocks,
         disk },
        { initial path config owner ids idFile with asked := (blocks.scan .fail [] disk).2 }) := by
  unfold recoverBlocks initial
  simp only [readOnly, if_true]

end Storage

/-- Memory can hold the two files of the database at `path`. -/
def FitsMemory (disk : FileSystem) (path : Path) : Prop :=
  ∀ name ∈ [Storage.idFileName, journalName], ∀ length ∈ disk.lengthAt? (path.child name),
    length ≤ disk.memory.bytes

instance (disk : FileSystem) (path : Path) : Decidable (FitsMemory disk path) :=
  inferInstanceAs (Decidable (∀ name ∈ [Storage.idFileName, journalName],
    ∀ length ∈ disk.lengthAt? (path.child name), length ≤ disk.memory.bytes))

theorem Holding.lengthAt? {name : String} {id : FileId} {payloads : List Bytes}
    (h : Holding disk path name limit (some id) payloads torn) :
    disk.lengthAt? (path.child name) = some (disk.length id) := by
  cases h with
  | there resolved =>
    unfold FileSystem.lengthAt?
    rw [resolved]

/-- What an opening that failed leaves behind: the two files as they were.  If both are there,
memory cannot hold one of them. -/
structure Unopened (path : Path) (config : Config) (disk after : FileSystem)
    (idsFile journalFile : Option FileId) (records : List Bytes) (torn : Option Bytes) : Prop where
  keeps : KeepsDirectories disk after
  reserved : ∀ ids, idsFile = some ids → ∃ payloads torn,
    Holding after path Storage.idFileName config.blockLimit (some ids) payloads torn
  committed : Holding after path Database.journalName config.blockLimit journalFile records torn
  large : config.problem? = none → disk.isDirectory path = true → ∀ ids journal,
    idsFile = some ids → journalFile = some journal →
      disk.memory.bytes < disk.length ids ∨ disk.memory.bytes < disk.length journal

section Opening

variable {config : Config} {owner : String} {reservations : List Bytes} {idsTorn : Option Bytes}
  {idsFile journalFile : Option FileId}

/-- A database whose two files were opened one after the other is standing. -/
theorem standing_initial {mid : FileSystem} {ids journal : FileId} {blocks whole : BlockFile}
    {reserved : List Bytes} (process : String)
    (opened : Opened path Storage.idFileName config.blockLimit disk idsFile reserved ids blocks mid)
    (opened' : Opened path journalName config.blockLimit mid journalFile records journal whole
      after)
    (apart : journalFile ≠ some ids) (directory : mid.isDirectory path = true) :
    Standing path config.blockLimit after ids journal records none
      (.initial
        { Storage.initial path config process (Storage.idsAbove reserved) (some blocks) with
          asked := [] } whole records) := by
  have attached := Attached.of_opened opened
  have differs : ids ≠ journal := by
    rintro rfl
    cases there : journalFile with
    | none => exact Nat.not_lt.2 (opened'.new there) attached.intact.stores.there
    | some id =>
      obtain rfl : id = ids := opened'.same id there
      exact apart there
  exact ⟨rfl, List.forall_mem_nil _, Storage.isDirectory_of_keeps opened'.readies.keeps directory,
    ⟨blocks, _, none, rfl, attached.of_readies lasting_idFileName differs opened'.readies⟩,
    .of_opened opened', differs⟩

/-- **Opening a database** for writing either fails and leaves the two files alone, or gives a
standing one that recovered the records which can be read.  With both files there it fails only if
memory cannot hold one of them. -/
theorem openAt_holding {result : Except Fault Database} (writable : config.readOnly = false)
    (reserved : Holding disk path Storage.idFileName config.blockLimit idsFile reservations idsTorn)
    (committed : Holding disk path Database.journalName config.blockLimit journalFile records torn)
    (apart : ∀ id, idsFile = some id → journalFile ≠ some id)
    (h : Database.openAt disk path config owner = (result, after)) :
    (∃ ids journal storage blocks,
        result = .ok (.initial storage blocks (legible records torn)) ∧
        (∀ id ∈ idsFile, id = ids) ∧ (∀ id ∈ journalFile, id = journal) ∧
        Standing path config.blockLimit after ids journal (legible records torn) none
          (.initial storage blocks (legible records torn))) ∨
      ∃ fault, result = .error fault ∧
        Unopened path config disk after idsFile journalFile records torn := by
  unfold Database.openAt at h
  cases opens : Storage.openAt disk path config owner with
  | mk outcome mid =>
    rw [opens] at h
    rcases Storage.openAt_holding reserved opens with
      ⟨fault, rfl, tidied, reserved'⟩ | ⟨-, readOnly, -⟩ |
        ⟨sound, -, directory, ids, blocks, rfl, opened⟩
    · cases h
      refine .inr ⟨fault, rfl, tidied.keeps, ?_, committed.of_tidied lasting_journalName tidied, ?_⟩
      · rintro ids rfl
        exact ⟨_, _, reserved'⟩
      · rintro sound directory ids journal rfl -
        rcases Nat.lt_or_ge disk.memory.bytes (disk.length ids) with large | holds
        · exact .inl large
        · obtain ⟨storage, later, ok⟩ :=
            Storage.openAt_of_there sound directory reserved holds owner
          rw [opens] at ok
          cases ok
    · rw [writable] at readOnly
      cases readOnly
    · have attached := Attached.of_opened opened
      have apart' := opened.apart committed apart
      have committed' := committed.of_readies lasting_journalName idFileName_ne_journalName.symm
        apart' opened.readies
      have bounded := ((Config.problem?_eq_none_iff config).1 sound).2.2.1
      -- The storage is open by now, so only the journal can be too large.
      have failed (large : ∀ journal, journalFile = some journal →
          disk.memory.bytes < disk.length journal) :
          Unopened path config disk mid idsFile journalFile records torn := by
        refine ⟨opened.readies.keeps, ?_, committed', ?_⟩
        · intro id there
          obtain rfl : id = ids := opened.same id there
          exact ⟨_, _, attached.holding⟩
        · intro _ _ _ journal _ there
          exact .inr (large journal there)
      simp only [Storage.openBlockFile_initial writable] at h
      rcases openAt_recover_holding bounded lasting_journalName committed' .fail [] with
        ⟨fault, refused, none⟩ | ⟨file, begun, begins, ⟨journal, whole, final, recovered, opened'⟩ |
          ⟨journal, fault, there, large, refused⟩⟩
      · rw [refused] at h
        cases h
        refine .inr ⟨fault, rfl, failed ?_⟩
        intro journal there
        rw [none] at there
        cases there
      · rw [begins] at h
        simp only [Storage.recoverBlocks_initial writable, recovered] at h
        cases h
        have standing := standing_initial owner opened opened' apart' directory
        refine .inl ⟨ids, journal, _, whole, ?_, opened.same, opened'.same, standing⟩
        simp only [Except.map, Recovery.payloads_ofRow]
        rfl
      · rw [begins] at h
        simp only [Storage.recoverBlocks_initial writable, refused] at h
        cases h
        refine .inr ⟨fault, rfl, failed ?_⟩
        intro other there'
        rw [there] at there'
        cases there'
        rwa [← FileSystem.length_eq_of_content (opened.readies.contents journal
          (fun same => apart' (same ▸ there)) (committed.lt_size there)),
          ← opened.readies.memory]

/-- A directory without files of a database opens, if it opens at all, with no records. -/
theorem openAt_of_vacant {database : Database} (writable : config.readOnly = false)
    (noIds : ∀ id, disk.find? (path.child Storage.idFileName).destination ≠ some (.file id))
    (noJournal : ∀ id, disk.find? (path.child journalName).destination ≠ some (.file id))
    (h : Database.openAt disk path config owner = (.ok database, after)) :
    ∃ ids journal, Standing path config.blockLimit after ids journal [] none database ∧
      database.recovered = [] ∧ database.generation = 0 ∧ database.committing = false := by
  rcases openAt_holding writable (.missing noIds) (.missing noJournal) (by simp) h with
    ⟨ids, journal, storage, blocks, same, -, -, standing⟩ | ⟨fault, failed, -⟩
  · cases same
    exact ⟨ids, journal, standing, rfl, rfl, rfl⟩
  · cases failed

/-- An opening of a directory at rest recovers the records that can be read, or fails and leaves the
directory at rest. -/
theorem openAt_of_resting {result : Except Fault Database} (writable : config.readOnly = false)
    (rests : Resting path config.blockLimit disk ids journal records torn)
    (h : Database.openAt disk path config owner = (result, after)) :
    (∃ database, result = .ok database ∧
        Standing path config.blockLimit after ids journal (legible records torn) none database ∧
        database.recovered = legible records torn ∧ database.generation = 0 ∧
        database.committing = false) ∨
      ∃ fault, result = .error fault ∧
        Resting path config.blockLimit after ids journal records torn := by
  obtain ⟨payloads, torn', reserved⟩ := rests.reserved
  rcases openAt_holding writable reserved rests.committed rests.ne_of_some h with
    ⟨ids', journal', storage, blocks, rfl, sameIds, sameJournal, standing⟩ | ⟨fault, rfl, left⟩
  · obtain rfl : ids = ids' := sameIds ids rfl
    obtain rfl : journal = journal' := sameJournal journal rfl
    exact .inl ⟨_, rfl, standing, rfl, rfl, rfl⟩
  · exact .inr ⟨fault, rfl, Storage.isDirectory_of_keeps left.keeps rests.directory,
      left.reserved ids rfl, left.committed, rests.apart⟩

theorem openAt_recovers_readOnly (sound : config.problem? = none)
    (readOnly : config.readOnly = true)
    (rests : Resting path config.blockLimit disk ids journal records torn)
    (idsFit : disk.length ids ≤ disk.memory.bytes)
    (journalFits : disk.length journal ≤ disk.memory.bytes) (owner : String) :
    ∃ database after, Database.openAt disk path config owner = (.ok database, after) ∧
      database.recovered = legible records torn := by
  obtain ⟨payloads, torn', reserved⟩ := rests.reserved
  have bounded := ((Config.problem?_eq_none_iff config).1 sound).2.2.1
  obtain ⟨storage, after, opens⟩ :=
    Storage.openAt_of_there sound rests.directory reserved idsFit owner
  rcases Storage.openAt_holding reserved opens with
    ⟨fault, failed, -⟩ | ⟨-, -, rfl, same⟩ | ⟨-, writable, -⟩
  · cases failed
  · cases same
    unfold Database.openAt
    rw [opens]
    cases rests.committed with
    | there resolved stores =>
      simp only [Storage.openBlockFile_readOnly readOnly,
        BlockFile.openExisting_of_resolve resolved, Storage.recoverBlocks_readOnly readOnly]
      rw [BlockFile.scan_of_stores (.existing (path.child journalName) config.blockLimit journal)
        bounded rfl stores journalFits .fail []]
      refine ⟨_, _, rfl, ?_⟩
      simp only [Recovery.payloads_ofRow]
  · rw [readOnly] at writable
    cases writable

/-- **A directory at rest opens again**, for writing or only for reading, with every record that can
be read, if memory can hold its files. -/
theorem openAt_recovers (sound : config.problem? = none)
    (rests : Resting path config.blockLimit disk ids journal records torn)
    (holds : FitsMemory disk path) (owner : String) :
    ∃ database after, Database.openAt disk path config owner = (.ok database, after) ∧
      database.recovered = legible records torn := by
  obtain ⟨payloads, torn', reserved⟩ := rests.reserved
  have idsFit := holds _ List.mem_cons_self _ reserved.lengthAt?
  have journalFits :=
    holds _ (List.mem_cons_of_mem _ List.mem_cons_self) _ rests.committed.lengthAt?
  cases mode : config.readOnly with
  | true => exact openAt_recovers_readOnly sound mode rests idsFit journalFits owner
  | false =>
    cases opens : Database.openAt disk path config owner with
    | mk result after =>
      rcases openAt_holding mode reserved rests.committed rests.ne_of_some opens with
        ⟨ids', journal', storage, blocks, rfl, -⟩ | ⟨fault, -, left⟩
      · exact ⟨_, after, rfl, rfl⟩
      · rcases left.large sound rests.directory ids journal rfl rfl with large | large <;> omega

end Opening

end DurableStore
