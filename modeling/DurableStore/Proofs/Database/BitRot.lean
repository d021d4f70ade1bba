import DurableStore.Proofs.BlockFile.BitFlip
import DurableStore.Proofs.Database.Reading

/-!
Opening a directory in which a bit was turned over while nobody had it open.

Whichever of the two files the bit is in, the opening reads the other one as it was
(`openingOf_flip`), and comes to one of the following (`Undamaged.flip_outcome`):

* outside the magic and the length of a block the opening fails with the mismatch, or comes out as
  it would have without the damage;
* in the magic of a block the opening goes on without that block, if it meets no other magic in it;
* wherever it is, what is read in front of it and from the other file is as it was.

The checksum makes the first true, and the second is what it does not cover.
-/

namespace DurableStore

open FileSystem Database

/-! ## Turning a bit over -/

namespace FileSystem

/-- With one bit of a file turned over. -/
def flip (disk : FileSystem) (id : FileId) (offset : Nat) (bit : Fin 8) : FileSystem :=
  disk.edit id fun content => .ofBytes (content.toBytes.flip offset bit)

theorem content_flip {disk : FileSystem} {id : FileId} (there : id < disk.contents.size)
    (offset : Nat) (bit : Fin 8) :
    (disk.flip id offset bit).content id = (disk.content id).flip offset bit := by
  rw [flip, content_edit there, Content.toBytes_ofBytes]
  rfl

theorem content_flip_of_ne {disk : FileSystem} {id other : FileId} (differs : other ≠ id)
    (offset : Nat) (bit : Fin 8) :
    (disk.flip id offset bit).content other = disk.content other :=
  content_edit_of_ne differs _

end FileSystem

/-! ## One file -/

section Reading

variable {disk : FileSystem} {path : Path} {name : String} {limit : Nat} {id : FileId}
  {payloads : List Bytes}

/-- Turning a bit over does not change whether memory can hold the file. -/
theorem readLasting_flip (stores : disk.Stores id limit payloads none) (offset : Nat)
    (bit : Fin 8) :
    readLasting (disk.flip id offset bit) path name limit id =
      if disk.memory.bytes < disk.length id then readLasting disk path name limit id
      else (scan limit .fail (path.child name) ((row payloads).flip offset bit) []).1 := by
  have content := content_flip stores.there offset bit
  rw [content_of_stores stores] at content
  have long : (disk.flip id offset bit).length id = disk.length id := by
    rw [← FileSystem.length_content, ← FileSystem.length_content, content, Bytes.length_flip,
      content_of_stores stores]
  have memory : (disk.flip id offset bit).memory = disk.memory := rfl
  unfold readLasting
  rw [long, content, memory]
  split <;> rfl

theorem readLasting_flip_cases (path : Path) (name : String)
    (bounded : limit ≤ Config.largestBlockLimit)
    (stores : disk.Stores id limit payloads none) {offset : Nat}
    (elsewhere : ¬Steering payloads offset) (bit : Fin 8) :
    (∃ mismatch, readLasting (disk.flip id offset bit) path name limit id =
        .error (.corruption mismatch)) ∨
      readLasting (disk.flip id offset bit) path name limit id =
        readLasting disk path name limit id := by
  rw [readLasting_flip stores]
  split
  next => exact .inr rfl
  next holds =>
    rw [readLasting_of_le (Nat.le_of_not_lt holds), content_of_stores stores]
    rcases scan_flip_cases bounded (path.child name) stores.fit elsewhere bit [] with
      noticed | same
    · exact .inl noticed
    · exact .inr (congrArg Prod.fst same)

theorem readLasting_flip_magic (path : Path) (name : String)
    (bounded : limit ≤ Config.largestBlockLimit)
    {front later : List Bytes} {payload : Bytes}
    (stores : disk.Stores id limit (front ++ payload :: later) none)
    (holds : ¬disk.memory.bytes < disk.length id) {within : Nat}
    (inside : within < magic.length) (bit : Fin 8)
    (quiet : Quiet (((blockOf payload).flip within bit).drop 1)) :
    ∃ recovery, readLasting (disk.flip id ((row front).length + within) bit) path name limit id =
        .ok recovery ∧ recovery.payloads = front ++ later := by
  have four : within < (blockOf payload).length := by
    rw [length_blockOf]
    exact Nat.lt_of_lt_of_le inside (Nat.le_trans (by decide) (Nat.le_add_right headerLength _))
  obtain ⟨recovery, scanned, found⟩ := scan_flip_magic bounded .fail (path.child name)
    (fun other member => stores.fit other (List.mem_append_left _ member))
    (fun other member =>
      stores.fit other (List.mem_append_right _ (List.mem_cons_of_mem _ member)))
    inside bit quiet []
  rw [readLasting_flip stores, if_neg holds, row_append, Bytes.flip_append_right, row_cons,
    Bytes.flip_append_left four, scanned]
  exact ⟨recovery, rfl, found⟩

theorem prefix_of_readLasting_flip (bounded : limit ≤ Config.largestBlockLimit)
    {front rest : List Bytes} (stores : disk.Stores id limit (front ++ rest) none) {offset : Nat}
    (behind : (row front).length ≤ offset) (bit : Fin 8) {recovery : Recovery}
    (read : readLasting (disk.flip id offset bit) path name limit id = .ok recovery) :
    front <+: recovery.payloads := by
  obtain ⟨within, rfl⟩ := Nat.exists_eq_add_of_le behind
  rw [readLasting_flip stores] at read
  split at read
  next large => exact absurd large (holds_of_readLasting read)
  next =>
    rw [row_append, Bytes.flip_append_right] at read
    exact prefix_of_scan bounded
      (fun other member => stores.fit other (List.mem_append_left _ member)) (Prod.ext read rfl)

end Reading

/-! ## Both files -/

/-- What an opening tells its caller if the files hold given payloads. -/
def LastingFile.findings (contents : LastingFile → List Bytes) : Findings :=
  .of (contents .reservations) (contents .journal)

/-- With other payloads in one of the files. -/
def LastingFile.replace (contents : LastingFile → List Bytes) (which : LastingFile)
    (payloads : List Bytes) : LastingFile → List Bytes :=
  fun other => if other = which then payloads else contents other

section Opening

variable {disk : FileSystem} {path : Path} {config : Config}
  {files : LastingFile → FileId} {contents : LastingFile → List Bytes}

/-- **What an opening comes to** after a bit of one file was turned over. -/
theorem Undamaged.openingOf_flip (h : Undamaged disk path config.blockLimit files contents)
    (sound : config.problem? = none) (which : LastingFile) (offset : Nat) (bit : Fin 8)
    (owner : String) :
    openingOf (disk.flip (files which) offset bit) path config owner =
      match which with
      | .reservations =>
        (readLasting (disk.flip (files .reservations) offset bit) path Storage.idFileName
            config.blockLimit (files .reservations)).bind fun reservations =>
          (readLasting disk path journalName config.blockLimit (files .journal)).map fun records =>
            .of reservations.payloads records.payloads
      | .journal =>
        (readLasting disk path Storage.idFileName config.blockLimit
            (files .reservations)).bind fun reservations =>
          (readLasting (disk.flip (files .journal) offset bit) path journalName config.blockLimit
              (files .journal)).map fun records =>
            .of reservations.payloads records.payloads := by
  have directory : (disk.flip (files which) offset bit).isDirectory path = true := h.directory
  rw [openAt_findings sound directory (h.holding .reservations).stores.1
    (h.holding .journal).stores.1 h.apart owner]
  cases which with
  | reservations =>
    rw [readLasting_congr (content_flip_of_ne h.apart.symm offset bit) rfl]
  | journal =>
    rw [readLasting_congr (content_flip_of_ne h.apart offset bit) rfl]

/-- A bit of one file is noticed by the opening, or changes nothing for it. -/
theorem Undamaged.flip_cases (h : Undamaged disk path config.blockLimit files contents)
    (sound : config.problem? = none) {which : LastingFile} {offset : Nat}
    (elsewhere : ¬Steering (contents which) offset) (bit : Fin 8) (owner : String) :
    (∃ mismatch, openingOf (disk.flip (files which) offset bit) path config owner =
        .error (.corruption mismatch)) ∨
      openingOf (disk.flip (files which) offset bit) path config owner =
        openingOf disk path config owner := by
  have bounded := ((Config.problem?_eq_none_iff config).1 sound).2.2.1
  obtain ⟨there, stores⟩ := (h.holding which).stores
  rw [h.openingOf_flip sound, openAt_findings sound h.directory (h.holding .reservations).stores.1
    (h.holding .journal).stores.1 h.apart owner]
  cases which with
  | reservations =>
    rcases readLasting_flip_cases path Storage.idFileName bounded stores elsewhere bit with
      ⟨mismatch, noticed⟩ | same
    · exact .inl ⟨mismatch, by simp only [noticed]; rfl⟩
    · exact .inr (by simp only [same])
  | journal =>
    rcases readLasting_flip_cases path journalName bounded stores elsewhere bit with
      ⟨mismatch, noticed⟩ | same
    · simp only [noticed]
      -- The reservations are read first, and their fault comes first too.
      cases readLasting disk path Storage.idFileName config.blockLimit (files .reservations) with
      | error fault => exact .inr rfl
      | ok reservations => exact .inl ⟨mismatch, rfl⟩
    · exact .inr (by simp only [same])

/-- A block whose magic lost a bit is missing, and the rest of both files is there. -/
theorem Undamaged.flip_magic (h : Undamaged disk path config.blockLimit files contents)
    (sound : config.problem? = none) {owner : String} {findings : Findings}
    (found : openingOf disk path config owner = .ok findings) {which : LastingFile}
    {front later : List Bytes} {payload : Bytes}
    (held : contents which = front ++ payload :: later) {within : Nat}
    (inside : within < magic.length) (bit : Fin 8)
    (quiet : Quiet (((blockOf payload).flip within bit).drop 1)) :
    openingOf (disk.flip (files which) ((row front).length + within) bit) path config owner =
      .ok (LastingFile.findings (LastingFile.replace contents which (front ++ later))) := by
  have bounded := ((Config.problem?_eq_none_iff config).1 sound).2.2.1
  obtain ⟨-, ⟨reservations, readIds, reserved⟩, records, readJournal, committed⟩ :=
    h.findings_eq sound found
  have stores := (h.holding which).stores.2
  rw [held] at stores
  rw [h.openingOf_flip sound]
  cases which with
  | reservations =>
    obtain ⟨recovery, read, left⟩ := readLasting_flip_magic path Storage.idFileName bounded stores
      (holds_of_readLasting readIds) inside bit quiet
    simp only [read, readJournal]
    show Except.ok (Findings.of recovery.payloads records.payloads) = _
    rw [left, committed]
    rfl
  | journal =>
    obtain ⟨recovery, read, left⟩ := readLasting_flip_magic path journalName bounded stores
      (holds_of_readLasting readJournal) inside bit quiet
    simp only [read, readIds]
    show Except.ok (Findings.of reservations.payloads recovery.payloads) = _
    rw [left, reserved]
    rfl

/-- Wherever the bit is, what stands in front of it and in the other file is read as before. -/
theorem Undamaged.flip_front (h : Undamaged disk path config.blockLimit files contents)
    (sound : config.problem? = none) {which : LastingFile} {front rest : List Bytes}
    (held : contents which = front ++ rest) {offset : Nat} (behind : (row front).length ≤ offset)
    (bit : Fin 8) {owner : String} {findings : Findings}
    (found : openingOf (disk.flip (files which) offset bit) path config owner = .ok findings) :
    ∃ left, front <+: left ∧
      findings = LastingFile.findings (LastingFile.replace contents which left) := by
  have bounded := ((Config.problem?_eq_none_iff config).1 sound).2.2.1
  have stores := (h.holding which).stores.2
  rw [held] at stores
  have directory : (disk.flip (files which) offset bit).isDirectory path = true := h.directory
  obtain ⟨reservations, records, readIds, readJournal, rfl⟩ := reads_of_openingOf sound directory
    (h.holding .reservations).stores.1 (h.holding .journal).stores.1 h.apart found
  cases which with
  | reservations =>
    rw [readLasting_congr (content_flip_of_ne h.apart.symm offset bit) rfl] at readJournal
    have committed := readLasting_of_stores bounded (h.holding .journal).stores.2 readJournal
    refine ⟨reservations.payloads, prefix_of_readLasting_flip bounded stores behind bit readIds, ?_⟩
    rw [committed]
    rfl
  | journal =>
    rw [readLasting_congr (content_flip_of_ne h.apart offset bit) rfl] at readIds
    have reserved := readLasting_of_stores bounded (h.holding .reservations).stores.2 readIds
    refine ⟨records.payloads, prefix_of_readLasting_flip bounded stores behind bit readJournal, ?_⟩
    rw [reserved]
    rfl

/-- **A bit that is turned over** in one of the files is noticed or changes nothing, outside the
magic and the length of a block; in a magic it takes away the block and nothing else, if the scan
meets no other magic there; and whatever still opens begins with what stood in front of the bit. -/
theorem Undamaged.flip_outcome (h : Undamaged disk path config.blockLimit files contents)
    (sound : config.problem? = none) (which : LastingFile) (offset : Nat) (bit : Fin 8)
    (owner : String) :
    (¬Steering (contents which) offset →
      (∃ mismatch, openingOf (disk.flip (files which) offset bit) path config owner =
          .error (.corruption mismatch)) ∨
        openingOf (disk.flip (files which) offset bit) path config owner =
          openingOf disk path config owner) ∧
      (∀ front payload later within findings, contents which = front ++ payload :: later →
        offset = (row front).length + within → within < magic.length →
        Quiet (((blockOf payload).flip within bit).drop 1) →
        openingOf disk path config owner = .ok findings →
        openingOf (disk.flip (files which) offset bit) path config owner =
          .ok (LastingFile.findings (LastingFile.replace contents which (front ++ later)))) ∧
      ∀ front rest findings, contents which = front ++ rest → (row front).length ≤ offset →
        openingOf (disk.flip (files which) offset bit) path config owner = .ok findings →
        ∃ left, front <+: left ∧
          findings = LastingFile.findings (LastingFile.replace contents which left) := by
  refine ⟨fun elsewhere => h.flip_cases sound elsewhere bit owner, ?_, ?_⟩
  · rintro front payload later within findings held rfl inside quiet found
    exact h.flip_magic sound found held inside bit quiet
  · intro front rest findings held behind found
    exact h.flip_front sound held behind bit found

theorem flip_outcome_twoRecords :
    ((∃ mismatch, openingOf ((diskWith [] [[1], [2]]).flip 1 16 0) ⟨["", "db"]⟩ .testing "b" =
        .error (.corruption mismatch)) ∨
      openingOf ((diskWith [] [[1], [2]]).flip 1 16 0) ⟨["", "db"]⟩ .testing "b" =
        openingOf (diskWith [] [[1], [2]]) ⟨["", "db"]⟩ .testing "b") ∧
      openingOf ((diskWith [] [[1], [2]]).flip 1 17 0) ⟨["", "db"]⟩ .testing "b" =
        .ok (.of [] [[1]]) := by
  have sound : Config.testing.problem? = none := by decide
  have undamaged : Undamaged (diskWith [] [[1], [2]]) ⟨["", "db"]⟩ Config.testing.blockLimit
      diskWithFiles (diskWithContents [] [[1], [2]]) :=
    undamaged_diskWith (by decide) (by decide)
  have opens : openingOf (diskWith [] [[1], [2]]) ⟨["", "db"]⟩ .testing "b" =
      .ok (.of [] [[1], [2]]) := toOption_eq_some.1 (by decide +kernel)
  obtain ⟨noticed, -, -⟩ := undamaged.flip_outcome sound .journal 16 0 "b"
  obtain ⟨-, missing, -⟩ := undamaged.flip_outcome sound .journal 17 0 "b"
  exact ⟨noticed (by decide +kernel),
    missing [[1]] [2] [] 0 _ rfl rfl (by decide) (by decide +kernel) opens⟩

/-- A bit of a magic takes a record away, and nobody is told. -/
theorem flip_magic_unnoticed :
    openingOf (diskWith [] [[1]]) ⟨["", "db"]⟩ .testing "b" = .ok (.of [] [[1]]) ∧
      openingOf ((diskWith [] [[1]]).flip 1 0 0) ⟨["", "db"]⟩ .testing "b" = .ok (.of [] []) ∧
      ¬((∃ mismatch, openingOf ((diskWith [] [[1]]).flip 1 0 0) ⟨["", "db"]⟩ .testing "b" =
          .error (.corruption mismatch)) ∨
        openingOf ((diskWith [] [[1]]).flip 1 0 0) ⟨["", "db"]⟩ .testing "b" =
          openingOf (diskWith [] [[1]]) ⟨["", "db"]⟩ .testing "b") := by
  have before : openingOf (diskWith [] [[1]]) ⟨["", "db"]⟩ .testing "b" = .ok (.of [] [[1]]) :=
    toOption_eq_some.1 (by decide +kernel)
  have damaged : openingOf ((diskWith [] [[1]]).flip 1 0 0) ⟨["", "db"]⟩ .testing "b" =
      .ok (.of [] []) := toOption_eq_some.1 (by decide +kernel)
  refine ⟨before, damaged, ?_⟩
  rw [before, damaged]
  rintro (⟨mismatch, failed⟩ | same)
  · cases failed
  · have := congrArg Findings.recovered (Except.ok.inj same)
    cases this

end Opening

end DurableStore
