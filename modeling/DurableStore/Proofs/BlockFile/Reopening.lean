import DurableStore.Proofs.Block.Damage
import DurableStore.Proofs.BlockFile.Course
import DurableStore.Proofs.FileSystem.Naming

/-!
Opening a block file and recovering it.

* **where it comes from** — a block file that opens for writing is the file at its path, or a new
  and empty one (`openAt_eq_ok`); opening one that is there does nothing else (`openAt_of_resolve`);
* **where it succeeds** — on a file that a scan can read, of which it leaves what the scan calls
  valid (`recover_eq_ok`, `recover_of_scan`);
* **what a scan finds** — the payloads of the row, and a header without its payload only if that
  payload is empty (`scan_of_stores`);
* **what a recovery leaves** — the blocks that were found and no remnant (`recover_of_stores`).

All of these but opening need a file that memory can hold; one that is larger is left as it is.
-/

namespace DurableStore

namespace BlockFile

open FileSystem OpenFile

variable {blocks : BlockFile} {disk : FileSystem} {id : FileId} {payloads : List Bytes}
  {torn : Option Bytes}

/-! ## Opening -/

/-- A block file as it is opened for writing. -/
def fresh (path : Path) (limit : Nat) (id : FileId) (syncWrites : Bool := false) : BlockFile :=
  { file := ⟨path, .readWrite, .file id⟩, limit, syncWrites }

theorem openAt_eq_ok {after : FileSystem} {path : Path} {limit : Nat} {syncWrites : Bool}
    (h : openAt disk path limit syncWrites = (.ok blocks, after)) :
    ∃ id, blocks = fresh path limit id syncWrites ∧ after.resolve path = .ok (.file id) ∧
      (after = disk ∨
        disk.find? path.destination = none ∧ id = disk.contents.size ∧
          after = { disk.named path.destination (.file id) with
            contents := disk.contents.push .empty }) := by
  unfold openAt OpenFile.openAt at h
  simp only [AccessMode.isWritable, if_true, Bool.false_eq_true, if_false] at h
  split at h
  next id found =>
    cases h
    exact ⟨id, rfl, found, .inl rfl⟩
  next => cases h
  next =>
    split at h
    next id made created =>
      cases h
      obtain ⟨vacant, size, same, resolved⟩ := create_eq_ok created
      exact ⟨id, rfl, resolved, .inr ⟨vacant, size, same⟩⟩
    next => cases h

theorem openAt_of_resolve {path : Path} (there : disk.resolve path = .ok (.file id))
    (limit : Nat) (syncWrites : Bool) :
    openAt disk path limit syncWrites = (.ok (fresh path limit id syncWrites), disk) := by
  unfold openAt OpenFile.openAt
  rw [there]
  rfl

theorem openAt_eq_error {after : FileSystem} {path : Path} {limit : Nat} {syncWrites : Bool}
    {fault : Fault} (h : openAt disk path limit syncWrites = (.error fault, after)) :
    after = disk := by
  unfold openAt OpenFile.openAt at h
  simp only [AccessMode.isWritable, if_true, Bool.false_eq_true, if_false] at h
  split at h
  next => cases h
  next => cases h; rfl
  next =>
    split at h
    next => cases h
    next => cases h; rfl

theorem openExisting_eq_ok {path : Path} {limit : Nat}
    (h : openExisting disk path limit = .ok blocks) :
    ∃ target, disk.resolve path = .ok target ∧
      blocks = { file := ⟨path, .read, target⟩, limit } := by
  unfold openExisting OpenFile.openAt at h
  split at h
  next id found => cases h; exact ⟨_, found, rfl⟩
  next found => cases h; exact ⟨_, found, rfl⟩
  next => cases h

/-- A block file as it is opened for reading. -/
def existing (path : Path) (limit : Nat) (id : FileId) : BlockFile :=
  { file := ⟨path, .read, .file id⟩, limit }

theorem openExisting_of_resolve {path : Path} (there : disk.resolve path = .ok (.file id))
    (limit : Nat) : openExisting disk path limit = .ok (existing path limit id) := by
  unfold openExisting OpenFile.openAt
  rw [there]
  rfl

/-! ## Scanning and recovering -/

theorem readAll_of_length_le {file : OpenFile} (target : file.target = .file id)
    (holds : disk.length id ≤ disk.memory.bytes) : file.readAll disk = .ok (disk.content id) := by
  unfold readAll load
  rw [target]
  simp only [if_neg (Nat.not_lt.2 holds)]
  rfl

theorem scan_of_target {policy : Policy} {asked : List Mismatch}
    {outcome : Except Fault Recovery × List Mismatch} (target : blocks.file.target = .file id)
    (holds : disk.length id ≤ disk.memory.bytes)
    (scanned : DurableStore.scan blocks.limit policy blocks.path (disk.content id) asked =
      outcome) : blocks.scan policy asked disk = outcome := by
  rw [scan_eq, readAll_of_length_le target holds]
  exact scanned

theorem readAll_of_lt_length (file : OpenFile) (target : file.target = .file id)
    (large : disk.memory.bytes < disk.length id) : ∃ fault, file.readAll disk = .error fault := by
  unfold readAll load
  rw [target]
  simp only [if_pos large]
  exact ⟨_, rfl⟩

/-- A file that holds anything is there. -/
theorem there_of_length_pos (nonempty : 0 < disk.length id) : id < disk.contents.size := by
  refine Nat.lt_of_not_le fun gone => ?_
  have empty : disk.length id = 0 := by
    simp [FileSystem.length, FileSystem.stored, Array.getD, Nat.not_lt.2 gone, Content.length]
  omega

section Succeeding

variable {policy : Policy} {asked asked' : List Mismatch} {recovery : Recovery} {offset : Nat}

/-- A scan succeeds only on a file, and one that can be read as a whole. -/
theorem scan_target (scanned : blocks.scan policy asked disk = (.ok recovery, asked')) :
    ∃ id, blocks.file.target = .file id ∧ disk.length id ≤ disk.memory.bytes ∧
      DurableStore.scan blocks.limit policy blocks.path (disk.content id) asked =
        (.ok recovery, asked') := by
  rw [scan_eq] at scanned
  unfold readAll load at scanned
  cases target : blocks.file.target with
  | directory =>
    rw [target] at scanned
    cases scanned
  | file id =>
    rw [target] at scanned
    by_cases large : disk.length id > disk.memory.bytes
    · simp only [if_pos large] at scanned
      cases scanned
    · simp only [if_neg large] at scanned
      exact ⟨id, rfl, Nat.le_of_not_lt large, scanned⟩

/-- A torn block lies inside the file. -/
theorem torn_lt_length (scanned : blocks.scan policy asked disk = (.ok recovery, asked'))
    (torn : recovery.tornAt = some offset)
    (target : blocks.file.target = .file id) :
    offset < disk.length id ∧ offset ≤ largestOffset := by
  obtain ⟨id', target', holds, read⟩ := scan_target scanned
  cases target.symm.trans target'
  have inside := (scan_extent read).2.1 offset torn
  rw [FileSystem.length_content] at inside
  have := memory_modest disk
  exact ⟨inside, by omega⟩

/-- A recovery succeeds only on a file that can be scanned, and leaves of it what the scan calls
valid; it changes only a file that may be written. -/
theorem recover_eq_ok {blocks' : BlockFile} {after : FileSystem}
    (recovered : blocks.recover policy asked disk =
      { result := .ok recovery, asked := asked', blocks := blocks', disk := after }) :
    ∃ id, blocks.file.target = .file id ∧ disk.length id ≤ disk.memory.bytes ∧
      DurableStore.scan blocks.limit policy blocks.path (disk.content id) asked =
        (.ok recovery, asked') ∧
      blocks' = { blocks with tornTail := none } ∧
      after.content id = (disk.content id).take recovery.validLength ∧
      (recovery.tornAt = none ∧ after = disk ∨
        blocks.file.writable? = some id ∧ id < after.contents.size) := by
  unfold recover at recovered
  cases read : blocks.scan policy asked disk with
  | mk result asked'' =>
    rw [read] at recovered
    cases result with
    | error fault => cases recovered
    | ok recovery' =>
      obtain ⟨id, target, holds, scanned⟩ := scan_target read
      have valid := (scan_extent scanned).2.2
      cases torn : recovery'.tornAt with
      | none =>
        simp only [torn] at recovered
        cases recovered
        refine ⟨id, target, holds, scanned, rfl, ?_, .inl ⟨torn, rfl⟩⟩
        rw [valid, torn, Option.getD_none, List.take_length]
      | some offset =>
        have inside := torn_lt_length read torn target
        have there : id < disk.contents.size := there_of_length_pos (by omega)
        simp only [torn] at recovered
        cases writes : blocks.file.writable? with
        | none =>
          unfold setLength at recovered
          simp only [writes] at recovered
          cases recovered
        | some id' =>
          cases target.symm.trans (target_of_writable? writes)
          simp only [setLength_eq writes, if_neg (Nat.not_lt.2 inside.2)] at recovered
          cases recovered
          refine ⟨id, target, holds, scanned, rfl, ?_, .inr ⟨rfl, ?_⟩⟩
          · rw [content_edit there, Content.toBytes_resize, valid, torn, Option.getD_some]
            refine resize_of_le ?_
            rw [Content.length_toBytes]
            exact Nat.le_of_lt inside.1
          · rw [(altersOnly_edit disk id _).size]
            exact there

/-- A recovery changes the file at most. -/
theorem recover_alters (target : blocks.file.target = .file id) (policy : Policy)
    (asked : List Mismatch) : AltersOnly id disk (blocks.recover policy asked disk).disk := by
  have unmoved : AltersOnly id disk disk := .refl id disk
  have cut (offset : Nat) : AltersOnly id disk (blocks.file.setLength disk offset).2 := by
    unfold setLength
    split
    next => exact unmoved
    next id' writes =>
      cases target.symm.trans (target_of_writable? writes)
      split
      next => exact unmoved
      next => exact altersOnly_edit disk id (·.resize offset)
  unfold recover
  rcases blocks.scan policy asked disk with ⟨fault | recovery, asked'⟩
  · exact unmoved
  · simp only [sync_eq]
    split
    next => exact unmoved
    next offset _ =>
      have alters := cut offset
      split
      all_goals
        next after shortened =>
          rw [shortened] at alters
          exact alters

/-- A file that is recovered stays there. -/
theorem there_of_recover {blocks' : BlockFile} {after : FileSystem}
    (target : blocks.file.target = .file id) (there : id < disk.contents.size)
    (recovered : blocks.recover policy asked disk =
      { result := .ok recovery, asked := asked', blocks := blocks', disk := after }) :
    id < after.contents.size := by
  obtain ⟨id', target', -, -, -, -, wrote⟩ := recover_eq_ok recovered
  cases target.symm.trans target'
  rcases wrote with ⟨-, rfl⟩ | ⟨-, there'⟩
  · exact there
  · exact there'

end Succeeding

/-- A recovery finds what a scan finds, and keeps of the file what the scan calls valid. -/
theorem recover_of_scan {policy : Policy} {asked asked' : List Mismatch} {recovery : Recovery}
    (writes : blocks.file.writable? = some id)
    (there : id < disk.contents.size) (holds : disk.length id ≤ disk.memory.bytes)
    (scanned : DurableStore.scan blocks.limit policy blocks.path (disk.content id) asked =
      (.ok recovery, asked')) :
    ∃ after, blocks.recover policy asked disk =
        { result := .ok recovery, asked := asked', blocks := { blocks with tornTail := none },
          disk := after } ∧
      after.content id = (disk.content id).take recovery.validLength := by
  have read := scan_of_target (target_of_writable? writes) holds scanned
  obtain ⟨-, cut, valid⟩ := scan_extent scanned
  have total := FileSystem.length_content disk id
  unfold recover
  simp only [read, valid]
  cases torn : recovery.tornAt with
  | none =>
    refine ⟨disk, rfl, ?_⟩
    rw [Option.getD_none, List.take_length]
  | some offset =>
    have inside := cut offset torn
    have far : ¬offset > largestOffset := by
      have := memory_modest disk
      omega
    simp only [setLength_eq writes, if_neg far]
    refine ⟨_, rfl, ?_⟩
    rw [content_edit there, Content.toBytes_resize]
    exact resize_of_le (Nat.le_of_lt inside)

variable (blocks)

/-- A scan finds the blocks of the row. -/
theorem scan_of_stores (bounded : blocks.limit ≤ Config.largestBlockLimit)
    (target : blocks.file.target = .file id) (stores : disk.Stores id blocks.limit payloads torn)
    (holds : disk.length id ≤ disk.memory.bytes) (policy : Policy) (asked : List Mismatch) :
    blocks.scan policy asked disk = (.ok (.ofRow payloads torn), asked) := by
  rw [scan_eq, readAll_of_length_le target holds, stores.content]
  exact scan_row bounded policy blocks.path stores.fit stores.tornFits asked

theorem scan_of_lt_length (target : blocks.file.target = .file id)
    (large : disk.memory.bytes < disk.length id) (policy : Policy) (asked : List Mismatch) :
    ∃ fault, blocks.scan policy asked disk = (.error fault, asked) := by
  obtain ⟨fault, refused⟩ := readAll_of_lt_length blocks.file target large
  refine ⟨fault, ?_⟩
  rw [scan_eq, refused]

/-- **A recovery keeps what a scan finds** and nothing besides, and asks no policy. -/
theorem recover_of_stores (bounded : blocks.limit ≤ Config.largestBlockLimit)
    (writes : blocks.file.writable? = some id)
    (stores : disk.Stores id blocks.limit payloads torn)
    (holds : disk.length id ≤ disk.memory.bytes) (policy : Policy) (asked : List Mismatch) :
    ∃ after, blocks.recover policy asked disk =
        { result := .ok (.ofRow payloads torn), asked, blocks := { blocks with tornTail := none },
          disk := after } ∧
      AltersOnly id disk after ∧
      ({ blocks with tornTail := none } : BlockFile).Intact after id (legible payloads torn)
        none := by
  unfold recover
  rw [scan_of_stores blocks bounded (target_of_writable? writes) stores holds policy asked]
  -- A scan sees a remnant only if that does not look like a block.
  by_cases whole : torn = none ∨ torn = some []
  · refine ⟨disk, ?_, .refl id disk, bounded, writes, ?_, fun _ => rfl, by simp⟩
    · simp only [Recovery.ofRow, if_pos whole]
    · rcases whole with rfl | rfl
      · exact stores
      · exact stores.legible rfl
  · have ends : (row payloads).length ≤ largestOffset := by
      have total := congrArg List.length stores.content
      have := memory_modest disk
      simp only [FileSystem.length_content, List.length_append] at total
      omega
    have cut : AltersOnly id disk (disk.edit id (·.resize (row payloads).length)) :=
      altersOnly_edit disk id _
    refine ⟨_, ?_, cut, bounded, writes, ⟨cut.size ▸ stores.there, ?_, ?_, by simp⟩, fun _ => rfl,
      by simp⟩
    · simp only [Recovery.ofRow, if_neg whole, setLength_eq writes, if_neg (Nat.not_lt.2 ends),
        sync_eq]
    · rw [content_edit stores.there, Content.toBytes_resize,
        legible_of_ne payloads fun empty => whole (.inr empty)]
      refine (congrArg (Bytes.resize · _) stores.content).trans ?_
      rw [resize_row]
      exact (List.append_nil _).symm
    · rw [legible_of_ne payloads fun empty => whole (.inr empty)]
      exact stores.fit

theorem recover_of_lt_length (target : blocks.file.target = .file id)
    (large : disk.memory.bytes < disk.length id) (policy : Policy) (asked : List Mismatch) :
    ∃ fault, blocks.recover policy asked disk =
      { result := .error fault, asked, blocks, disk } := by
  obtain ⟨fault, refused⟩ := scan_of_lt_length blocks target large policy asked
  refine ⟨fault, ?_⟩
  unfold recover
  rw [refused]

end BlockFile

end DurableStore
