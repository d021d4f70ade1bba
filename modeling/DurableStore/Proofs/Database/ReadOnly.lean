import DurableStore.Proofs.Database.Reading
import DurableStore.Proofs.Database.Transition
import DurableStore.Proofs.Storage.Scratch

/-!
Opening a database for reading.

A database that is only read changes nothing but scratch files, whatever its storage and its
sessions are asked to do and whether it is closed or not (`ReadsFrom.performAll`,
`Watched.later`), and what the opening recovers is what an opening for writing would recover
(`recovered_readOnly`).  The two openings read the files in different ways: one only scans them,
the other also cuts torn blocks off, and creates the file of reservations if that is missing.
-/

namespace DurableStore

open FileSystem Database

variable {τ : Type}

namespace BlockFile

theorem appendHeader_of_unwritable {blocks : BlockFile}
    (unwritable : blocks.file.writable? = none) (payload : Bytes) (power : PowerSwitch)
    (disk : FileSystem) :
    ∃ fault, (blocks.appendHeader payload power disk).result = .error fault ∧
      (blocks.appendHeader payload power disk).disk = disk ∧
      (blocks.appendHeader payload power disk).blocks.file = blocks.file := by
  have cut : (blocks.cutTornTail disk).2 = disk := by
    unfold cutTornTail
    split
    next => simp only [OpenFile.setLength, unwritable]
    next => rfl
  have writes (bytes : Bytes) :
      blocks.file.append disk bytes = (.error blocks.file.readOnlyFault, disk) := by
    simp only [OpenFile.append, unwritable]
  unfold appendHeader
  split
  next => exact ⟨_, rfl, rfl, rfl⟩
  next =>
    simp only
    split
    next => exact ⟨_, rfl, rfl, rfl⟩
    next =>
      split
      next fault after cuts =>
        rw [cuts] at cut
        exact ⟨fault, rfl, cut, rfl⟩
      next after cuts =>
        rw [cuts] at cut
        obtain rfl : after = disk := cut
        rw [writes]
        exact ⟨_, rfl, rfl, rfl⟩

/-- A handle that may not be written appends nothing. -/
theorem append_of_unwritable {blocks : BlockFile} (unwritable : blocks.file.writable? = none)
    (payload : Bytes) (power : PowerSwitch) (disk : FileSystem) :
    (blocks.append payload power disk).disk = disk ∧
      (blocks.append payload power disk).blocks.file = blocks.file := by
  obtain ⟨fault, failed, same⟩ := appendHeader_of_unwritable unwritable payload power disk
  rw [append_of_error failed]
  exact same

theorem unwritable_of_openExisting {disk : FileSystem} {path : Path} {limit : Nat}
    {blocks : BlockFile} (opens : openExisting disk path limit = .ok blocks) :
    blocks.file.writable? = none := by
  obtain ⟨target, -, rfl⟩ := openExisting_eq_ok opens
  cases target with
  | file id => rfl
  | directory => rfl

end BlockFile

namespace Storage

variable {storage : Storage} {disk after : FileSystem} {path : Path} {config : Config}
  {owner : String}

/-! ## A storage that only reads -/

/-- The storage was opened for reading the database at `path`, and its scratch files are there. -/
structure ReadsFrom (path : Path) (storage : Storage) : Prop where
  reads : storage.Reads
  place : storage.path = path
  tidy : storage.Tidy

/-- **Whatever such a storage does** spares everything but scratch files. -/
theorem ReadsFrom.perform (h : storage.ReadsFrom path) (there : disk.isDirectory path = true)
    (operation : Operation) :
    (storage.perform disk operation).1.ReadsFrom path ∧
      Spares path disk (storage.perform disk operation).2 := by
  obtain ⟨reads, rfl, tidy⟩ := h
  cases manages : operation.managesScratch with
  | false =>
    have persists := persists_perform storage disk manages
    refine ⟨⟨reads.perform disk manages, persists.path, ?_⟩,
      .of_eq (perform_of_readOnly reads disk operation manages)⟩
    unfold Tidy
    rw [persists.scratch, persists.path]
    exact tidy
  | true =>
    obtain ⟨scratch, scratchCounter, closed, same, -⟩ := managed_perform storage disk manages
    obtain ⟨spares, tidy'⟩ := managed_spares tidy there manages
    refine ⟨⟨?_, ?_, tidy'⟩, spares⟩
    · rw [same]
      exact ⟨reads.readOnly, reads.state⟩
    · rw [same]

theorem isDirectory_of_spares (spares : Spares path disk after)
    (there : disk.isDirectory path = true) : after.isDirectory path = true :=
  isDirectory_of_keeps spares.keeps there

/-- So does whatever it does one after the other. -/
theorem ReadsFrom.performAll (h : storage.ReadsFrom path) (there : disk.isDirectory path = true)
    (operations : List Operation) : Spares path disk (storage.performAll disk operations).2 := by
  induction operations generalizing storage disk with
  | nil => exact .refl path disk
  | cons operation later ih =>
    obtain ⟨reads, spares⟩ := h.perform there operation
    exact spares.trans (ih reads (isDirectory_of_spares spares there))

theorem loadIds_snd_of_readOnly (readOnly : config.readOnly = true) (disk : FileSystem)
    (path : Path) :
    (loadIds disk path config).2 = disk := by
  unfold loadIds
  simp only [readOnly, if_true]
  split
  next => rfl
  next => rfl
  next => rfl

/-- A storage that only reads opens block files for reading. -/
theorem unwritable_of_openBlockFile (h : storage.Reads) {name : Path} {blocks : BlockFile}
    (opens : storage.openBlockFile disk name = (.ok blocks, after)) :
    after = disk ∧ blocks.file.writable? = none := by
  unfold openBlockFile attachBlockFile at opens
  split at opens
  next => cases opens
  next =>
    simp only [h.readOnly, if_true, Prod.mk.injEq] at opens
    exact ⟨opens.2.symm, BlockFile.unwritable_of_openExisting opens.1⟩

/-- Opening a storage for reading changes nothing. -/
theorem openAt_of_readOnly (readOnly : config.readOnly = true) {result : Except Fault Storage}
    (opens : openAt disk path config owner = (result, after)) :
    after = disk ∧ ∀ storage, result = .ok storage →
      storage.ReadsFrom path ∧ disk.isDirectory path = true := by
  unfold openAt at opens
  split at opens
  next => cases opens; exact ⟨rfl, fun _ same => nomatch same⟩
  next =>
    split at opens
    next prepares =>
      cases opens
      exact ⟨prepareDirectory_of_readOnly readOnly prepares, fun _ same => nomatch same⟩
    next prepared prepares =>
      have there := prepareDirectory_eq_ok prepares
      obtain rfl := prepareDirectory_of_readOnly readOnly prepares
      have loaded := loadIds_snd_of_readOnly readOnly prepared path
      split at opens
      next loads =>
        cases opens
        rw [loads] at loaded
        exact ⟨loaded, fun _ same => nomatch same⟩
      next loads =>
        cases opens
        rw [loads] at loaded
        refine ⟨loaded, ?_⟩
        intro storage same
        cases same
        exact ⟨⟨⟨readOnly, if_pos readOnly⟩, rfl, List.forall_mem_nil _⟩, there⟩

end Storage

/-! ## A database that is only read -/

/-- The database was opened for reading the directory at `path`, and so was its journal. -/
structure Database.ReadsFrom (path : Path) (database : Database) : Prop where
  storage : database.storage.ReadsFrom path
  journal : database.journal.file.writable? = none

/-- Opening a database for reading changes nothing. -/
theorem Database.openAt_of_readOnly {disk after : FileSystem} {path : Path} {config : Config}
    {owner : String} (readOnly : config.readOnly = true) {result : Except Fault Database}
    (opens : Database.openAt disk path config owner = (result, after)) :
    after = disk ∧ ∀ database, result = .ok database →
      database.ReadsFrom path ∧ disk.isDirectory path = true := by
  unfold Database.openAt at opens
  split at opens
  next opened =>
    cases opens
    exact ⟨(Storage.openAt_of_readOnly readOnly opened).1, fun _ same => nomatch same⟩
  next storage between opened =>
    obtain ⟨rfl, given⟩ := Storage.openAt_of_readOnly readOnly opened
    obtain ⟨reads, there⟩ := given storage rfl
    split at opens
    next begins =>
      cases opens
      have kept := Storage.perform_of_readOnly reads.reads between
        (.openBlockFile ⟨[journalName]⟩) rfl
      simp only [Storage.perform, begins] at kept
      exact ⟨kept, fun _ same => nomatch same⟩
    next journal later begins =>
      obtain ⟨rfl, unwritable⟩ := Storage.unwritable_of_openBlockFile reads.reads begins
      have unchanged : (storage.recoverBlocks journal later).1.disk = later :=
        Storage.perform_of_readOnly reads.reads later (.recoverBlocks journal) rfl
      have reads' : (storage.recoverBlocks journal later).2.ReadsFrom path :=
        (reads.perform there (.recoverBlocks journal)).1
      simp only [Prod.mk.injEq] at opens
      obtain ⟨recovers, rfl⟩ := opens
      refine ⟨unchanged, ?_⟩
      intro database same
      rw [same] at recovers
      cases recovered : (storage.recoverBlocks journal later).1.result with
      | error fault =>
        rw [recovered] at recovers
        cases recovers
      | ok recovery =>
        rw [recovered] at recovers
        cases recovers
        refine ⟨⟨reads', ?_⟩, there⟩
        unfold Storage.recoverBlocks
        simp only [reads.reads.readOnly, if_true]
        exact unwritable

/-- A step of such a database spares everything but scratch files: its journal takes no records. -/
theorem Database.ReadsFrom.advance {engine changed : Engine τ} {frame : Frame τ} {path : Path}
    (h : engine.database.ReadsFrom path) (there : engine.disk.isDirectory path = true)
    (advances : (engine.advance frame).engine? = some changed) :
    changed.database.ReadsFrom path ∧ Spares path engine.disk changed.disk := by
  obtain ⟨reads, unwritable⟩ := h
  cases Engine.leaves_advance advances with
  | same storage journal disk =>
    exact ⟨⟨storage ▸ reads, journal ▸ unwritable⟩, .of_eq disk⟩
  | closed database disk =>
    rcases engine.database.close_cases engine.disk with same | ⟨lock, cache, closes⟩
    · rw [same] at database disk
      exact ⟨database ▸ ⟨reads, unwritable⟩, .of_eq disk⟩
    · obtain ⟨reads', spares⟩ := reads.perform there .close
      rw [closes] at database disk
      exact ⟨database ▸ ⟨reads', unwritable⟩, disk ▸ spares⟩
  | appended bytes storage journal disk =>
    obtain ⟨same, file⟩ :=
      BlockFile.append_of_unwritable unwritable bytes engine.database.storage.power engine.disk
    refine ⟨⟨?_, ?_⟩, .of_eq (disk.trans same)⟩
    · rw [storage]
      exact ⟨⟨reads.reads.readOnly, reads.reads.state⟩, reads.place, reads.tidy⟩
    · rw [journal]
      exact (congrArg OpenFile.writable? file).trans unwritable

namespace Host

/-- What can happen to the open databases: a storage does something, or a call of whatever kind,
begun at any time, gets one step further. -/
inductive Happens (host : Host τ) : Host τ → Prop where
  | operated (site : SiteId) (operation : Operation) : Happens host (host.operate site operation)
  | stepped {task : Task τ} {after : Host τ} (steps : (host.step task).host? = some after) :
    Happens host after

/-- Whatever comes after, one thing after the other. -/
abbrev Later : Host τ → Host τ → Prop :=
  Relation.ReflTransGen Happens

/-- Every open database only reads the directory at `path`, which was on the disk `before`. -/
structure Watched (path : Path) (before : FileSystem) (host : Host τ) : Prop where
  spares : Spares path before host.disk
  there : host.disk.isDirectory path = true
  reads : ∀ site engine, host.engine? site = some engine →
    engine.database.ReadsFrom path

variable {path : Path} {before : FileSystem} {host after : Host τ}

/-- A database that did something with its storage goes on reading. -/
theorem Watched.put (h : Watched path before host) {site : SiteId} {engine changed : Engine τ}
    (found : host.engine? site = some engine)
    (reads : changed.database.ReadsFrom path)
    (spares : Spares path engine.disk changed.disk) :
    Watched path before (host.put site changed) := by
  rw [(engine?_eq_some found).2] at spares
  refine ⟨h.spares.trans spares, Storage.isDirectory_of_spares spares h.there, ?_⟩
  intro other engine' found'
  by_cases same : other = site
  · subst same
    rw [engine?_put_self found] at found'
    cases found'
    exact reads
  · rw [engine?_put_of_ne same] at found'
    obtain ⟨there, before, rfl⟩ := Option.map_eq_some_iff.1 found'
    exact h.reads other there before

theorem Watched.operate (h : Watched path before host) (site : SiteId) (operation : Operation) :
    Watched path before (host.operate site operation) := by
  unfold Host.operate
  cases found : host.engine? site with
  | none => exact h
  | some engine =>
    have there : engine.disk.isDirectory path = true := (engine?_eq_some found).2.symm ▸ h.there
    obtain ⟨reads, unwritable⟩ := h.reads site engine found
    obtain ⟨reads', spares⟩ := reads.perform there operation
    exact h.put found ⟨reads', unwritable⟩ spares

/-- A step spares everything but scratch files: there is nothing to write a record with. -/
theorem Watched.step (h : Watched path before host) {task : Task τ}
    (steps : (host.step task).host? = some after) : Watched path before after := by
  rcases step_cases steps with rfl | ⟨engine, changed, found, advances, rfl⟩
  · exact h
  · have there : engine.disk.isDirectory path = true := (engine?_eq_some found).2.symm ▸ h.there
    obtain ⟨reads, spares⟩ := (h.reads _ engine found).advance there advances
    exact h.put found reads spares

/-- **Whatever happens** to databases that are only read, nothing but scratch files changes. -/
theorem Watched.later (h : Watched path before host) (later : host.Later after) :
    Watched path before after := by
  induction later with
  | refl => exact h
  | tail _ happens ih =>
    cases happens with
    | operated site operation => exact ih.operate site operation
    | stepped steps => exact ih.step steps

theorem watched_ofDatabase {database : Database} {disk : FileSystem}
    (reads : database.ReadsFrom path) (there : disk.isDirectory path = true) (tables : τ) :
    Watched path disk (ofDatabase database disk tables) := by
  refine ⟨.refl path disk, there, ?_⟩
  intro site engine found
  obtain ⟨first, one, rfl⟩ := Option.map_eq_some_iff.1 found
  obtain ⟨_, rfl⟩ := Array.getElem?_eq_some_iff.1 one
  have only : (ofDatabase database disk tables).sites = #[⟨database, tables⟩] := rfl
  simp only [only, List.getElem_toArray, List.getElem_singleton]
  exact reads

end Host

/-! ## The two ways of opening -/

section Opening

variable {disk : FileSystem} {path : Path} {config : Config} {journal : FileId}

namespace Storage

theorem inward_idFileName : Path.Inward idFileName :=
  ⟨by decide, by decide, by decide⟩

/-- What an earlier process left behind stands among the scratch files. -/
theorem inScratch_of_isScratchName (path : Path) {name : String}
    (scratch : isScratchName name = true) : InScratch path (scratchPath path name).destination := by
  have differs (other : String) (plain : isScratchName other = false) : name ≠ other := by
    rintro rfl
    rw [plain] at scratch
    cases scratch
  unfold InScratch scratchPath
  rw [Path.destination_child _ name]
  unfold Path.goOn Path.staysPut
  rw [if_neg, if_neg (differs ".." (by decide +kernel))]
  · exact List.prefix_append _ _
  · simp only [Bool.or_eq_true, beq_iff_eq, not_or]
    exact ⟨differs "" (by decide +kernel), differs "." (by decide +kernel)⟩

/-- Making a directory ready that is there only removes scratch files. -/
theorem prepareDirectory_spares (config : Config) (there : disk.isDirectory path = true) :
    ∃ prepared, prepareDirectory disk path config = (.ok (), prepared) ∧
      Spares path disk prepared := by
  unfold prepareDirectory
  cases config.readOnly with
  | true =>
    rw [if_pos rfl, if_pos there]
    exact ⟨disk, rfl, .refl path disk⟩
  | false =>
    rw [if_neg Bool.false_ne_true, makeDirectories_of_isDirectory there]
    refine ⟨_, rfl, removeAll_spares ?_ disk⟩
    intro file member
    obtain ⟨name, scratch, rfl⟩ := List.mem_map.1 member
    exact inScratch_of_isScratchName path (List.mem_filter.1 scratch).2

/-- A missing file of reservations is created, and there is nothing in it to recover. -/
theorem loadIds_of_missing (bounded : config.blockLimit ≤ Config.largestBlockLimit)
    (writable : config.readOnly = false) (there : disk.isDirectory path = true)
    (allowed : refusal? (path.child idFileName) = none)
    (vacant : disk.find? (path.child idFileName).destination = none) :
    ∃ id blocks after, loadIds disk path config = (.ok (idsAbove [], some blocks), after) ∧
      disk.contents.size ≤ id ∧ Readies path idFileName id disk after := by
  have nothing : ∀ id, disk.find? (path.child idFileName).destination ≠ some (.file id) := by
    intro id found
    rw [vacant] at found
    cases found
  obtain ⟨created, creates⟩ := create_child there inward_idFileName allowed vacant
  have opens : BlockFile.openAt disk (path.child idFileName) config.blockLimit
      config.syncWrites = (.ok (.fresh (path.child idFileName) config.blockLimit disk.contents.size
        config.syncWrites), created) := by
    unfold BlockFile.openAt OpenFile.openAt
    cases found : disk.resolve (path.child idFileName) with
    | ok entry =>
      rw [(resolve_eq_ok_iff.1 found).2] at vacant
      cases vacant
    | error kind =>
      simp only [AccessMode.isWritable, if_true, Bool.false_eq_true, if_false, creates]
      rfl
  rcases recover_holding bounded lasting_idFileName (.missing nothing) opens .fail [] with
    ⟨id, whole, after, recovered, opened⟩ | ⟨id, fault, present, -⟩
  · refine ⟨id, whole, after, ?_, opened.new rfl, opened.readies⟩
    unfold loadIds
    simp only [writable, Bool.false_eq_true, if_false, opens, recovered]
    rfl
  · cases present

end Storage

/-- The directory of a database is there, with a journal.  If it has a file of reservations, that
is another file. -/
structure Kept (disk : FileSystem) (path : Path) (journal : FileId) : Prop where
  directory : disk.isDirectory path = true
  journalThere : disk.resolve (path.child journalName) = .ok (.file journal)
  stored : journal < disk.contents.size
  idsFile : disk.resolve (path.child Storage.idFileName) ≠ .ok .directory
  apart : ∀ ids, disk.resolve (path.child Storage.idFileName) = .ok (.file ids) → ids ≠ journal

namespace Kept

theorem idsAllowed (h : Kept disk path journal) :
    refusal? (path.child Storage.idFileName) = none := by
  obtain ⟨allowed, -, -⟩ := locate_eq_ok (resolve_eq_ok_iff.1 h.journalThere).1
  exact refusal?_child allowed (by decide) (by decide)

/-- The storage opens although there is no file of reservations, and the journal is as before. -/
theorem openAt_of_missing (h : Kept disk path journal) (sound : config.problem? = none)
    {kind : IoKind} (missing : disk.resolve (path.child Storage.idFileName) = .error kind)
    (owner : String) :
    ∃ idFile opened, Storage.openAt disk path config owner =
        (.ok (.initial path config owner (Storage.idsAbove []) idFile), opened) ∧
      opened.resolve (path.child journalName) = .ok (.file journal) ∧
      opened.content journal = disk.content journal ∧ opened.memory = disk.memory := by
  have bounded := ((Config.problem?_eq_none_iff config).1 sound).2.2.1
  obtain ⟨prepared, prepares, spares⟩ := Storage.prepareDirectory_spares config h.directory
  have memory := (Storage.prepareDirectory_tidied disk path config).memory
  rw [prepares] at memory
  unfold Storage.openAt
  rw [sound, prepares]
  cases mode : config.readOnly with
  | true =>
    obtain rfl := Storage.prepareDirectory_of_readOnly mode prepares
    have loaded : Storage.loadIds prepared path config =
        (.ok (Storage.idsAbove [], none), prepared) := by
      unfold Storage.loadIds BlockFile.openExisting OpenFile.openAt
      simp only [mode, if_true, missing]
      rfl
    refine ⟨none, prepared, ?_, h.journalThere, rfl, rfl⟩
    simp [loaded, Storage.initial, mode]
  | false =>
    have outside := Storage.not_inScratch lasting_idFileName path
    have vacant : prepared.find? (path.child Storage.idFileName).destination = none := by
      rw [spares.names _ outside]
      exact find?_child_of_error h.directory Storage.inward_idFileName h.idsAllowed missing
    have there := Storage.isDirectory_of_spares spares h.directory
    obtain ⟨id, blocks, loaded, loads, new, readies⟩ :=
      Storage.loadIds_of_missing bounded mode there h.idsAllowed vacant
    have apart : journal ≠ id :=
      Nat.ne_of_lt (Nat.lt_of_lt_of_le h.stored (Nat.le_trans spares.size new))
    have kept : prepared.resolve (path.child journalName) = .ok (.file journal) :=
      resolve_of_keeps spares.keeps h.journalThere
        (spares.names _ (Storage.not_inScratch lasting_journalName path))
    refine ⟨some blocks, loaded, ?_, readies.resolve lasting_journalName kept, ?_,
      readies.memory.trans memory⟩
    · simp [loads, Storage.initial, mode]
    · rw [readies.contents journal apart (Nat.lt_of_lt_of_le h.stored spares.size),
        spares.contents journal h.stored]

/-- What an opening recovers is decided by the bytes of the files alone, whether it is for reading
or for writing. -/
theorem recovered_eq (h : Kept disk path journal) (sound : config.problem? = none)
    (owner : String) :
    (Database.openAt disk path config owner).1.map Database.recovered =
      match disk.resolve (path.child Storage.idFileName) with
      | .ok (.file ids) =>
        (readLasting disk path Storage.idFileName config.blockLimit ids).bind fun _ =>
          (readLasting disk path journalName config.blockLimit journal).map Recovery.payloads
      | _ =>
        (readLasting disk path journalName config.blockLimit journal).map Recovery.payloads := by
  cases idsThere : disk.resolve (path.child Storage.idFileName) with
  | ok entry =>
    cases entry with
    | directory => exact absurd idsThere h.idsFile
    | file ids =>
      have found := openAt_findings sound h.directory idsThere h.journalThere (h.apart ids idsThere)
        owner
      have recovered : (Database.openAt disk path config owner).1.map Database.recovered =
          (openingOf disk path config owner).map Findings.recovered := by
        unfold openingOf
        cases (Database.openAt disk path config owner).1 with
        | error fault => rfl
        | ok database => rfl
      show _ = (readLasting disk path Storage.idFileName config.blockLimit ids).bind _
      rw [recovered, found]
      cases readLasting disk path Storage.idFileName config.blockLimit ids with
      | error fault => rfl
      | ok reservations =>
        cases readLasting disk path journalName config.blockLimit journal with
        | error fault => rfl
        | ok records => rfl
  | error kind =>
    obtain ⟨idFile, opened, opens, there, same, memory⟩ :=
      h.openAt_of_missing sound idsThere owner
    obtain ⟨blocks, begins, result, -⟩ :=
      recoverBlocks_of_resolve config there owner (Storage.idsAbove []) idFile
    rw [readLasting_congr same memory] at result
    unfold Database.openAt
    simp only [opens, begins, result]
    cases readLasting disk path journalName config.blockLimit journal with
    | error fault => rfl
    | ok records => rfl

/-- Both ways of opening recover the same, or fail for the same reason. -/
theorem recovered_readOnly (h : Kept disk path journal) {reading writing : Config}
    (limits : writing.blockLimit = reading.blockLimit)
    (problems : writing.problem? = reading.problem?) (reader writer : String) :
    (Database.openAt disk path reading reader).1.map Database.recovered =
      (Database.openAt disk path writing writer).1.map Database.recovered := by
  cases sound : reading.problem? with
  | none =>
    rw [h.recovered_eq sound, h.recovered_eq (problems.trans sound), limits]
  | some problem =>
    -- Nothing is looked at before the options are in order.
    have refused {config : Config} (bad : config.problem? = some problem) (owner : String) :
        (Database.openAt disk path config owner).1 =
          .error (.invalidSetting "config" problem) := by
      unfold Database.openAt Storage.openAt
      rw [bad]
    rw [refused sound, refused (problems.trans sound)]

end Kept

end Opening

/-- **Opening for reading is harmless and faithful.**  It changes nothing, whether it succeeds or
not, and whatever its storage does later, and whatever calls of an open database do later, closing
it included, only scratch files change.  If the journal is there, the opening recovers the records
that an opening for writing would recover with the same limit on blocks, or fails as that would. -/
theorem openAt_readOnly_spares_and_recovers {disk : FileSystem} {path : Path} {reading : Config}
    (readOnly : reading.readOnly = true) (reader : String) :
    (Storage.openAt disk path reading reader).2 = disk ∧
      (∀ storage, (Storage.openAt disk path reading reader).1 = .ok storage →
        ∀ operations, Spares path disk (storage.performAll disk operations).2) ∧
      (Database.openAt disk path reading reader).2 = disk ∧
      (∀ database, (Database.openAt disk path reading reader).1 = .ok database →
        ∀ (tables : τ) (host : Host τ), (Host.ofDatabase database disk tables).Later host →
          Spares path disk host.disk) ∧
      ∀ journal, Kept disk path journal → ∀ (writing : Config) (writer : String),
        writing.readOnly = false → writing.blockLimit = reading.blockLimit →
        writing.problem? = reading.problem? →
          (Database.openAt disk path reading reader).1.map Database.recovered =
            (Database.openAt disk path writing writer).1.map Database.recovered := by
  obtain ⟨storageSame, storageReads⟩ :=
    Storage.openAt_of_readOnly readOnly (rfl : Storage.openAt disk path reading reader = _)
  obtain ⟨databaseSame, databaseReads⟩ :=
    Database.openAt_of_readOnly readOnly (rfl : Database.openAt disk path reading reader = _)
  refine ⟨storageSame, ?_, databaseSame, ?_, ?_⟩
  · intro storage opens operations
    obtain ⟨reads, there⟩ := storageReads storage opens
    exact reads.performAll there operations
  · intro database opens tables host later
    obtain ⟨reads, there⟩ := databaseReads database opens
    exact ((Host.watched_ofDatabase reads there tables).later later).spares
  · intro journal kept writing writer _ limits problems
    exact kept.recovered_readOnly limits problems reader writer

/-- A database without a file of reservations, whose journal ends in a torn block. -/
def tornDisk : FileSystem :=
  { entries := [([], .directory), (["db"], .directory), (["db", "commit.journal"], .file 0)]
    contents := #[.ofBytes (row [[1]] ++ remnant (some [2]))] }

theorem kept_tornDisk : Kept tornDisk ⟨["", "db"]⟩ 0 :=
  ⟨rfl, rfl, show 0 < 1 by decide, nofun, nofun⟩

/-- An opening for writing creates the one file, cuts the other and recovers the one whole record;
an opening for reading recovers it from the disk as it is. -/
theorem openAt_readOnly_spares_and_recovers_tornDisk :
    Kept tornDisk ⟨["", "db"]⟩ 0 ∧
      (Database.openAt tornDisk ⟨["", "db"]⟩ { Config.testing with readOnly := true } "a").2 =
        tornDisk ∧
      (Database.openAt tornDisk ⟨["", "db"]⟩ { Config.testing with readOnly := true } "a").1.map
        Database.recovered = .ok [[1]] ∧
      (Database.openAt tornDisk ⟨["", "db"]⟩ .testing "b").1.map Database.recovered = .ok [[1]] ∧
      (Database.openAt tornDisk ⟨["", "db"]⟩ .testing "b").2 ≠ tornDisk := by
  obtain ⟨-, -, same, -, faithful⟩ :=
    @openAt_readOnly_spares_and_recovers Unit tornDisk ⟨["", "db"]⟩
      { Config.testing with readOnly := true } rfl "a"
  have written :
      (Database.openAt tornDisk ⟨["", "db"]⟩ .testing "b").1.map Database.recovered =
        .ok [[1]] := by
    decide +kernel
  exact ⟨kept_tornDisk, same, (faithful 0 kept_tornDisk .testing "b" rfl rfl rfl).trans written,
    written, by decide +kernel⟩

end DurableStore
