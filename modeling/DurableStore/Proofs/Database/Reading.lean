import DurableStore.Proofs.Database.Standing

/-!
What an opening reads.

Once the directory and its two files are there, how an opening comes out is decided by the bytes
of these files, whatever they are: first the reservations are read, then the journal, and the
first fault that this meets is the answer (`openAt_findings`).  Opening for writing also cuts torn
blocks off, but this can neither fail nor reach from one file to the other.
-/

namespace DurableStore

open FileSystem Database

/-! ## The lasting files -/

/-- The files that outlast the process. -/
inductive LastingFile where
  | reservations
  | journal
  deriving DecidableEq, Repr

/-- The name of a lasting file. -/
def LastingFile.name : LastingFile → String
  | reservations => Storage.idFileName
  | journal => journalName

/-- The directory of a database is there and holds both files, without a torn block. -/
structure Undamaged (disk : FileSystem) (path : Path) (limit : Nat)
    (files : LastingFile → FileId) (contents : LastingFile → List Bytes) : Prop where
  directory : disk.isDirectory path = true
  holding : ∀ which, Holding disk path which.name limit (some (files which)) (contents which) none
  apart : files .reservations ≠ files .journal

/-! ## One file -/

/-- What is read from one lasting file, if no mismatch is accepted. -/
def readLasting (disk : FileSystem) (path : Path) (name : String) (limit : Nat) (id : FileId) :
    Except Fault Recovery :=
  if disk.memory.bytes < disk.length id then
    .error (.ioAt (path.child name) .outOfMemory "Failed to read file")
  else (scan limit .fail (path.child name) (disk.content id) []).1

variable {disk before after : FileSystem} {path : Path} {name : String} {limit : Nat} {id : FileId}

theorem readLasting_of_le (holds : disk.length id ≤ disk.memory.bytes) :
    readLasting disk path name limit id =
      (scan limit .fail (path.child name) (disk.content id) []).1 :=
  if_neg (Nat.not_lt.2 holds)

/-- Nothing but the bytes and the memory counts. -/
theorem readLasting_congr (same : after.content id = before.content id)
    (memory : after.memory = before.memory) :
    readLasting after path name limit id = readLasting before path name limit id := by
  unfold readLasting
  rw [FileSystem.length_eq_of_content same, same, memory]

theorem FileSystem.content_of_tidied (h : Tidied path before after) (id : FileId) :
    after.content id = before.content id := by
  unfold FileSystem.content FileSystem.stored
  rw [h.contents]

namespace BlockFile

variable {blocks : BlockFile}

theorem scan_fail_fst (target : blocks.file.target = .file id)
    (place : blocks.path = path.child name) :
    (blocks.scan .fail [] disk).1 = readLasting disk path name blocks.limit id := by
  have place' : blocks.file.path = path.child name := place
  rw [scan_eq, readLasting, place]
  unfold OpenFile.readAll OpenFile.load
  rw [target]
  by_cases large : disk.memory.bytes < disk.length id
  · simp only [if_pos large, place']
    rfl
  · simp only [if_neg large]
    rfl

/-- A recovery fails only where the scan before it fails, and changes no other file. -/
theorem recover_fst (disk : FileSystem) (writes : blocks.file.writable? = some id)
    (policy : Policy) (asked : List Mismatch) :
    (blocks.recover policy asked disk).result = (blocks.scan policy asked disk).1 ∧
      AltersOnly id disk (blocks.recover policy asked disk).disk := by
  have target := OpenFile.target_of_writable? writes
  refine ⟨?_, recover_alters target policy asked⟩
  unfold recover
  cases read : blocks.scan policy asked disk with
  | mk result asked' =>
    cases result with
    | error fault => rfl
    | ok recovery =>
      cases torn : recovery.tornAt with
      | none => simp only [torn]
      | some offset =>
        -- What was scanned fits memory, so the file can be cut off where it breaks off.
        have near : ¬offset > OpenFile.largestOffset := by
          rw [scan_eq] at read
          unfold OpenFile.readAll OpenFile.load at read
          rw [target] at read
          by_cases large : disk.memory.bytes < disk.length id
          · simp only [if_pos large] at read
            cases read
          · simp only [if_neg large] at read
            have inside := (scan_extent read).2.1 offset torn
            have total := FileSystem.length_content disk id
            have := OpenFile.memory_modest disk
            simp only [FileSystem.content] at total
            omega
        simp only [torn, setLength_eq writes, if_neg near, OpenFile.sync_eq]

end BlockFile

theorem Holding.stores {payloads : List Bytes} {torn : Option Bytes}
    (h : Holding disk path name limit (some id) payloads torn) :
    disk.resolve (path.child name) = .ok (.file id) ∧ disk.Stores id limit payloads torn := by
  cases h with
  | there resolved stores => exact ⟨resolved, stores⟩

theorem content_of_stores {payloads : List Bytes} (stores : disk.Stores id limit payloads none) :
    disk.content id = row payloads := by
  rw [stores.content]
  exact List.append_nil _

theorem holds_of_readLasting {recovery : Recovery}
    (read : readLasting disk path name limit id = .ok recovery) :
    ¬disk.memory.bytes < disk.length id := by
  intro large
  rw [readLasting, if_pos large] at read
  cases read

/-- What is read from an undamaged file is what it holds. -/
theorem readLasting_of_stores (bounded : limit ≤ Config.largestBlockLimit) {payloads : List Bytes}
    (stores : disk.Stores id limit payloads none) {recovery : Recovery}
    (read : readLasting disk path name limit id = .ok recovery) :
    recovery.payloads = payloads := by
  rw [readLasting_of_le (Nat.le_of_not_lt (holds_of_readLasting read)), content_of_stores stores,
    scan_whole_row bounded .fail _ stores.fit] at read
  obtain rfl := Except.ok.inj read
  exact Recovery.payloads_ofRow payloads none

/-! ## Both files -/

/-- What an opening tells its caller: the records, and where each space of ids goes on. -/
structure Findings where
  recovered : List Bytes
  nextInDataFile : Int32
  nextInSeparateFiles : Int32
  deriving DecidableEq, Repr

/-- What is found in a directory with given reservations and records. -/
def Findings.of (reservations records : List Bytes) : Findings :=
  { recovered := records
    nextInDataFile := (Storage.idsAbove reservations).dataFile.nextFresh
    nextInSeparateFiles := (Storage.idsAbove reservations).separateFiles.nextFresh }

/-- What the opening of a database told its caller. -/
def Database.findings (database : Database) : Findings :=
  { recovered := database.recovered
    nextInDataFile := database.storage.ids.dataFile.nextFresh
    nextInSeparateFiles := database.storage.ids.separateFiles.nextFresh }

/-- What the opening of the database at `path` comes to. -/
def openingOf (disk : FileSystem) (path : Path) (config : Config) (owner : String) :
    Except Fault Findings :=
  (Database.openAt disk path config owner).1.map Database.findings

section Opening

variable {config : Config} {ids journal : FileId} {files : LastingFile → FileId}
  {contents : LastingFile → List Bytes}

theorem loadIds_of_resolve (config : Config)
    (there : disk.resolve (path.child Storage.idFileName) = .ok (.file ids)) :
    ∃ idFile loaded, Storage.loadIds disk path config =
        ((readLasting disk path Storage.idFileName config.blockLimit ids).map fun recovery =>
          (Storage.idsAbove recovery.payloads, idFile), loaded) ∧
      AltersOnly ids disk loaded := by
  unfold Storage.loadIds
  cases mode : config.readOnly with
  | true =>
    let blocks := BlockFile.existing (path.child Storage.idFileName) config.blockLimit ids
    have read : (blocks.scan .fail [] disk).1 =
        readLasting disk path Storage.idFileName config.blockLimit ids :=
      BlockFile.scan_fail_fst rfl rfl
    simp only [if_true, BlockFile.openExisting_of_resolve there]
    refine ⟨none, disk, ?_, .refl ids disk⟩
    rw [← read]
  | false =>
    let blocks := BlockFile.fresh (path.child Storage.idFileName) config.blockLimit ids
      config.syncWrites
    have read : (blocks.scan .fail [] disk).1 =
        readLasting disk path Storage.idFileName config.blockLimit ids :=
      BlockFile.scan_fail_fst rfl rfl
    have writes : blocks.file.writable? = some ids := rfl
    obtain ⟨result, alters⟩ := BlockFile.recover_fst disk writes .fail []
    simp only [Bool.false_eq_true, if_false, BlockFile.openAt_of_resolve there]
    refine ⟨some (blocks.recover .fail [] disk).blocks, _, ?_, alters⟩
    rw [← read, ← result]

/-- The storage opens as its reservations say, and the journal is as before then. -/
theorem openAt_of_resolve (sound : config.problem? = none)
    (directory : disk.isDirectory path = true)
    (idsThere : disk.resolve (path.child Storage.idFileName) = .ok (.file ids))
    (journalThere : disk.resolve (path.child journalName) = .ok (.file journal))
    (apart : ids ≠ journal) (owner : String) :
    ∃ idFile opened, Storage.openAt disk path config owner =
        ((readLasting disk path Storage.idFileName config.blockLimit ids).map fun recovery =>
          .initial path config owner (Storage.idsAbove recovery.payloads) idFile, opened) ∧
      opened.resolve (path.child journalName) = .ok (.file journal) ∧
      opened.content journal = disk.content journal ∧ opened.memory = disk.memory := by
  obtain ⟨prepared, prepares⟩ := Storage.prepareDirectory_of_isDirectory config directory
  have tidied : Tidied path disk prepared := by
    have := Storage.prepareDirectory_tidied disk path config
    rwa [prepares] at this
  have tidies : Readies path Storage.idFileName disk.contents.size disk prepared :=
    .of_tidied lasting_idFileName tidied
  obtain ⟨idFile, opened, loads, alters⟩ :=
    loadIds_of_resolve config (tidies.resolve lasting_idFileName idsThere)
  have cut : Readies path Storage.idFileName ids prepared opened := .of_altersOnly alters
  rw [readLasting_congr (content_of_tidied tidied ids) tidied.memory] at loads
  refine ⟨idFile, opened, ?_,
    cut.resolve lasting_journalName (tidies.resolve lasting_journalName journalThere),
    (alters.others journal apart.symm).trans (content_of_tidied tidied journal),
    alters.memory.trans tidied.memory⟩
  unfold Storage.openAt
  rw [sound, prepares]
  simp only [loads]
  cases readLasting disk path Storage.idFileName config.blockLimit ids with
  | error fault => rfl
  | ok recovery => rfl

/-- The journal of a storage that was just opened is read like any lasting file. -/
theorem recoverBlocks_of_resolve (config : Config)
    (there : disk.resolve (path.child journalName) = .ok (.file journal)) (owner : String)
    (reserved : ObjectIds) (idFile : Option BlockFile) :
    ∃ blocks, (Storage.initial path config owner reserved idFile).openBlockFile disk
        ⟨[journalName]⟩ = (.ok blocks, disk) ∧
      ((Storage.initial path config owner reserved idFile).recoverBlocks blocks disk).1.result =
          readLasting disk path journalName config.blockLimit journal ∧
        ((Storage.initial path config owner reserved idFile).recoverBlocks blocks disk).2.ids =
          reserved := by
  cases mode : config.readOnly with
  | true =>
    refine ⟨.existing (path.child journalName) config.blockLimit journal, ?_, ?_, ?_⟩
    · rw [Storage.openBlockFile_readOnly mode, BlockFile.openExisting_of_resolve there]
    · rw [Storage.recoverBlocks_readOnly mode]
      exact BlockFile.scan_fail_fst rfl rfl
    · rw [Storage.recoverBlocks_readOnly mode]
      rfl
  | false =>
    let blocks := BlockFile.fresh (path.child journalName) config.blockLimit journal
      config.syncWrites
    have writes : blocks.file.writable? = some journal := rfl
    refine ⟨blocks, ?_, ?_, ?_⟩
    · rw [Storage.openBlockFile_initial mode, BlockFile.openAt_of_resolve there]
    · rw [Storage.recoverBlocks_initial mode]
      exact (BlockFile.recover_fst disk writes .fail []).1.trans (BlockFile.scan_fail_fst rfl rfl)
    · rw [Storage.recoverBlocks_initial mode]
      rfl

/-- **An opening is decided by the bytes of the two files.** -/
theorem openAt_findings (sound : config.problem? = none) (directory : disk.isDirectory path = true)
    (idsThere : disk.resolve (path.child Storage.idFileName) = .ok (.file ids))
    (journalThere : disk.resolve (path.child journalName) = .ok (.file journal))
    (apart : ids ≠ journal) (owner : String) :
    openingOf disk path config owner =
      (readLasting disk path Storage.idFileName config.blockLimit ids).bind fun reservations =>
        (readLasting disk path journalName config.blockLimit journal).map fun records =>
          .of reservations.payloads records.payloads := by
  obtain ⟨idFile, opened, opens, there, same, memory⟩ :=
    openAt_of_resolve sound directory idsThere journalThere apart owner
  unfold openingOf Database.openAt
  rw [opens]
  cases readLasting disk path Storage.idFileName config.blockLimit ids with
  | error fault => rfl
  | ok reservations =>
    obtain ⟨blocks, begins, result, goesOn⟩ :=
      recoverBlocks_of_resolve config there owner (Storage.idsAbove reservations.payloads) idFile
    rw [readLasting_congr same memory] at result
    simp only [Except.map, Except.bind, begins, result]
    cases readLasting disk path journalName config.blockLimit journal with
    | error fault => rfl
    | ok records =>
      simp only [Database.findings, Findings.of, goesOn]

/-- An opening that succeeds has read both files. -/
theorem reads_of_openingOf (sound : config.problem? = none)
    (directory : disk.isDirectory path = true)
    (idsThere : disk.resolve (path.child Storage.idFileName) = .ok (.file ids))
    (journalThere : disk.resolve (path.child journalName) = .ok (.file journal))
    (apart : ids ≠ journal) {owner : String} {findings : Findings}
    (found : openingOf disk path config owner = .ok findings) :
    ∃ reservations records,
      readLasting disk path Storage.idFileName config.blockLimit ids = .ok reservations ∧
      readLasting disk path journalName config.blockLimit journal = .ok records ∧
      findings = .of reservations.payloads records.payloads := by
  rw [openAt_findings sound directory idsThere journalThere apart owner] at found
  cases reserved : readLasting disk path Storage.idFileName config.blockLimit ids with
  | error fault =>
    rw [reserved] at found
    cases found
  | ok reservations =>
    cases committed : readLasting disk path journalName config.blockLimit journal with
    | error fault =>
      rw [reserved, committed] at found
      cases found
    | ok records =>
      rw [reserved, committed] at found
      exact ⟨reservations, records, rfl, rfl, (Except.ok.inj found).symm⟩

/-- What an opening comes to, said of the database that it opens. -/
theorem openingOf_eq_ok {owner : String} {findings : Findings} :
    openingOf disk path config owner = .ok findings ↔
      ∃ database after, Database.openAt disk path config owner = (.ok database, after) ∧
        database.findings = findings := by
  unfold openingOf
  rcases Database.openAt disk path config owner with ⟨fault | database, after⟩
  · simp [Except.map]
  · simp [Except.map]

/-- What an undamaged directory opens with. -/
theorem Undamaged.findings_eq (h : Undamaged disk path config.blockLimit files contents)
    (sound : config.problem? = none) {owner : String} {findings : Findings}
    (found : openingOf disk path config owner = .ok findings) :
    findings = .of (contents .reservations) (contents .journal) ∧
      (∃ recovery, readLasting disk path Storage.idFileName config.blockLimit
        (files .reservations) = .ok recovery ∧ recovery.payloads = contents .reservations) ∧
      ∃ recovery, readLasting disk path journalName config.blockLimit (files .journal) =
        .ok recovery ∧ recovery.payloads = contents .journal := by
  have bounded := ((Config.problem?_eq_none_iff config).1 sound).2.2.1
  obtain ⟨idsThere, idsStore⟩ := (h.holding .reservations).stores
  obtain ⟨journalThere, journalStores⟩ := (h.holding .journal).stores
  obtain ⟨reservations, records, readIds, readJournal, rfl⟩ :=
    reads_of_openingOf sound h.directory idsThere journalThere h.apart found
  have reserved := readLasting_of_stores bounded idsStore readIds
  have committed := readLasting_of_stores bounded journalStores readJournal
  refine ⟨?_, ⟨reservations, readIds, reserved⟩, records, readJournal, committed⟩
  rw [reserved, committed]

end Opening

/-! ## A small disk -/

/-- A disk with nothing on it but one database. -/
def diskWith (reservations records : List Bytes) : FileSystem :=
  { entries := [([], .directory), (["db"], .directory), (["db", "lob.ids"], .file 0),
      (["db", "commit.journal"], .file 1)]
    contents := #[.ofBytes (row reservations), .ofBytes (row records)] }

/-- The numbers of the files on that disk. -/
def diskWithFiles : LastingFile → FileId
  | .reservations => 0
  | .journal => 1

/-- What the files on that disk hold. -/
def diskWithContents (reservations records : List Bytes) : LastingFile → List Bytes
  | .reservations => reservations
  | .journal => records

theorem undamaged_diskWith {reservations records : List Bytes} {limit : Nat}
    (reserved : ∀ payload ∈ reservations, payload.length ≤ limit)
    (committed : ∀ payload ∈ records, payload.length ≤ limit) :
    Undamaged (diskWith reservations records) ⟨["", "db"]⟩ limit diskWithFiles
      (diskWithContents reservations records) := by
  refine ⟨rfl, ?_, by decide⟩
  intro which
  cases which with
  | reservations =>
    have content : (diskWith reservations records).content 0 = row reservations := by
      simp [diskWith, FileSystem.content, FileSystem.stored]
    refine .there rfl ⟨?_, content.trans (List.append_nil _).symm, reserved, by simp⟩
    show 0 < 2
    decide
  | journal =>
    have content : (diskWith reservations records).content 1 = row records := by
      simp [diskWith, FileSystem.content, FileSystem.stored]
    refine .there rfl ⟨?_, content.trans (List.append_nil _).symm, committed, by simp⟩
    show 1 < 2
    decide

end DurableStore
