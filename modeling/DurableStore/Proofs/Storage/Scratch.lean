import DurableStore.Proofs.FileSystem.Inside
import DurableStore.Proofs.Storage.Directory
import DurableStore.Proofs.Storage.Operations

/-!
What managing scratch files does to the disk.

Scratch files stand inside `tmp`.  Creating them, removing them to gain space, and removing them
when the storage is closed leave every name outside `tmp` and the bytes of every file alone
(`Spares`), as long as the database directory is there and the storage hands out nothing but
scratch files (`Tidy`).  A storage that is closed may still remove some (`perform_of_closed`).
-/

namespace DurableStore

open FileSystem

/-! ## What is spared -/

/-- The location is the directory of scratch files of the database at `path`, or lies in it. -/
def InScratch (path : Path) (location : Location) : Prop :=
  (path.child Storage.scratchDirectoryName).destination <+: location

/-- The second disk has the names of the first outside the directory of scratch files, and the
bytes of every file there was; no directory is gone. -/
structure Spares (path : Path) (before after : FileSystem) : Prop where
  names : ∀ location, ¬InScratch path location → after.find? location = before.find? location
  size : before.contents.size ≤ after.contents.size
  contents : ∀ id < before.contents.size, after.content id = before.content id
  keeps : KeepsDirectories before after

namespace Spares

variable {path : Path} {first second third : FileSystem}

theorem refl (path : Path) (disk : FileSystem) : Spares path disk disk :=
  ⟨fun _ _ => rfl, Nat.le_refl _, fun _ _ => rfl, fun _ h => h⟩

theorem of_eq (same : second = first) : Spares path first second :=
  same ▸ refl path first

theorem trans (h : Spares path first second) (h' : Spares path second third) :
    Spares path first third := by
  refine ⟨?_, Nat.le_trans h.size h'.size, ?_,
    fun location found => h'.keeps _ (h.keeps _ found)⟩
  · intro location outside
    rw [h'.names location outside, h.names location outside]
  · intro id there
    rw [h'.contents id (Nat.lt_of_lt_of_le there h.size), h.contents id there]

/-- A new name for something inside the directory of scratch files. -/
theorem named {disk : FileSystem} {location : Location} (inside : InScratch path location)
    (vacant : disk.find? location = none) (entry : Entry) {contents : Array Content}
    (size : disk.contents.size ≤ contents.size)
    (same : ∀ id < disk.contents.size,
      ({ disk.named location entry with contents } : FileSystem).content id = disk.content id) :
    Spares path disk { disk.named location entry with contents } := by
  refine ⟨?_, size, same, keeps_named vacant entry⟩
  intro other outside
  show (disk.named location entry).find? other = _
  rw [find?_named, if_neg]
  rintro rfl
  exact outside inside

/-- A scratch file is created. -/
theorem create {disk after : FileSystem} {file : Path} {id : FileId}
    (inside : InScratch path file.destination) (created : disk.create file = .ok (id, after)) :
    Spares path disk after := by
  obtain ⟨vacant, rfl, rfl, -⟩ := create_eq_ok created
  refine named inside vacant _ (by simp) ?_
  intro other there
  simp [content, stored, Array.getD_eq_getD_getElem?, Array.getElem?_push, Nat.ne_of_lt there]

/-- A scratch file is removed. -/
theorem remove {disk after : FileSystem} {file : Path} (inside : InScratch path file.destination)
    (removed : disk.remove file = .ok after) : Spares path disk after := by
  obtain ⟨-, contents, names⟩ := remove_eq_ok removed
  refine ⟨?_, Nat.le_of_eq (congrArg Array.size contents).symm, ?_, keeps_remove removed⟩
  · intro location outside
    rw [names, if_neg]
    rintro rfl
    exact outside inside
  · intro id _
    unfold content stored
    rw [contents]

end Spares

namespace Storage

/-! ## Where scratch files stand -/

theorem inward_scratchDirectoryName : Path.Inward scratchDirectoryName :=
  ⟨by decide, by decide, by decide⟩

theorem not_inScratch {name : String} (lasting : Lasting name) (path : Path) :
    ¬InScratch path (path.child name).destination := by
  intro inside
  unfold InScratch at inside
  rw [inward_scratchDirectoryName.destination, lasting.destination,
    List.prefix_append_right_inj] at inside
  exact lasting.apart (List.singleton_inj.1 (inside.eq_of_length rfl)).symm

theorem length_scratchName (owner : String) (number : Nat) :
    2 < (scratchName owner number).length := by
  unfold scratchName
  rw [String.length_append]
  have : scratchSuffix.length = 8 := by decide
  omega

/-- The name of a scratch file leads one level down. -/
theorem goOn_scratchName (owner : String) (number : Nat) (location : Location) :
    Path.goOn location (scratchName owner number) = location ++ [scratchName owner number] := by
  have long := length_scratchName owner number
  have differs (other : String) (short : other.length ≤ 2) : scratchName owner number ≠ other := by
    intro same
    rw [same] at long
    omega
  unfold Path.goOn Path.staysPut
  rw [if_neg, if_neg (differs ".." (by decide))]
  simp only [Bool.or_eq_true, beq_iff_eq, not_or]
  exact ⟨differs "" (by decide), differs "." (by decide)⟩

theorem inScratch_scratchName (path : Path) (owner : String) (number : Nat) :
    InScratch path (scratchPath path (scratchName owner number)).destination := by
  unfold InScratch scratchPath
  rw [Path.destination_child _ (scratchName owner number), goOn_scratchName]
  exact List.prefix_append _ _

/-- The storage hands out nothing but scratch files of its database. -/
def Tidy (storage : Storage) : Prop :=
  ∀ file ∈ storage.scratch, InScratch storage.path file.destination

variable {storage : Storage} {disk : FileSystem}

/-! ## Creating scratch files -/

theorem createFrom_spares (disk : FileSystem) (path : Path) (owner : String)
    (tries counter : Nat) :
    Spares path disk
        (createFrom disk (path.child scratchDirectoryName) owner tries counter).2.2 ∧
      ∀ file, (createFrom disk (path.child scratchDirectoryName) owner tries counter).1 =
        .ok file → InScratch path file.destination := by
  induction tries generalizing counter with
  | zero => exact ⟨.refl path disk, nofun⟩
  | succ tries ih =>
    have inside := inScratch_scratchName path owner counter
    simp only [createFrom]
    split
    next id after created =>
      refine ⟨.create inside created, ?_⟩
      intro file same
      cases same
      exact inside
    next => exact ih (counter + 1)
    next => exact ⟨.refl path disk, nofun⟩

/-- Whatever becomes of the disk, what is registered is a scratch file. -/
theorem makeScratch_tidy (tidy : storage.Tidy) (disk : FileSystem) :
    (storage.makeScratch disk).2.1.Tidy := by
  unfold makeScratch
  simp only
  split
  next => exact tidy
  next between made =>
    obtain ⟨-, inside⟩ := createFrom_spares between storage.path storage.owner
      (between.entries.length + 1) storage.scratchCounter
    split
    next => exact tidy
    next file created =>
      intro other member
      rcases List.mem_append.1 member with old | new
      · exact tidy other old
      · rw [List.mem_singleton.1 new]
        exact inside file created

theorem makeScratch_spares (there : disk.isDirectory storage.path = true) :
    Spares storage.path disk (storage.makeScratch disk).2.2 := by
  have makes : Spares storage.path disk (disk.makeDirectories storage.scratchDirectory).2 := by
    rcases makeDirectories_child there inward_scratchDirectoryName with same | ⟨vacant, made⟩
    · exact .of_eq same
    · unfold scratchDirectory
      rw [made]
      exact .named (List.prefix_refl _) vacant _ (Nat.le_refl _) fun _ _ => rfl
  unfold makeScratch
  simp only
  split
  next kind between made =>
    rw [made] at makes
    exact makes
  next between made =>
    rw [made] at makes
    obtain ⟨spares, -⟩ := createFrom_spares between storage.path storage.owner
      (between.entries.length + 1) storage.scratchCounter
    split
    next => exact makes.trans spares
    next => exact makes.trans spares

theorem createScratch_spares (tidy : storage.Tidy) (there : disk.isDirectory storage.path = true) :
    Spares storage.path disk (storage.createScratch disk).2.2 ∧
      (storage.createScratch disk).2.1.Tidy := by
  unfold createScratch
  split
  next => exact ⟨.refl _ disk, tidy⟩
  next => exact ⟨makeScratch_spares there, makeScratch_tidy tidy disk⟩

/-! ## Removing scratch files -/

theorem reclaim_spares {path file : Path} (so : Reclaimed)
    (inside : InScratch path file.destination) :
    Spares path so.disk (reclaim so file).disk ∧
      ∀ kept ∈ (reclaim so file).kept, kept ∈ so.kept ∨ kept = file := by
  have stays : ∀ kept ∈ so.kept ++ [file], kept ∈ so.kept ∨ kept = file :=
    fun kept member => (List.mem_append.1 member).imp_right List.mem_singleton.1
  unfold reclaim
  split
  next => exact ⟨.refl path so.disk, stays⟩
  next =>
    split
    next =>
      split
      next after removed =>
        split
        next => exact ⟨.remove inside removed, fun kept member => .inl member⟩
        next => exact ⟨.remove inside removed, stays⟩
      next => exact ⟨.refl path so.disk, stays⟩
    next => exact ⟨.refl path so.disk, fun kept member => .inl member⟩

theorem foldl_reclaim_spares {path : Path} {files : List Path}
    (inside : ∀ file ∈ files, InScratch path file.destination) (so : Reclaimed) :
    Spares path so.disk (files.foldl reclaim so).disk ∧
      ∀ kept ∈ (files.foldl reclaim so).kept, kept ∈ so.kept ∨ kept ∈ files := by
  induction files generalizing so with
  | nil => exact ⟨.refl path so.disk, fun kept member => .inl member⟩
  | cons file rest ih =>
    obtain ⟨spares, kept_one⟩ := reclaim_spares so (inside file List.mem_cons_self)
    obtain ⟨spares', kept_rest⟩ :=
      ih (fun other member => inside other (List.mem_cons_of_mem _ member)) (reclaim so file)
    rw [List.foldl_cons]
    refine ⟨spares.trans spares', ?_⟩
    intro kept member
    rcases kept_rest kept member with early | late
    · rcases kept_one kept early with old | rfl
      · exact .inl old
      · exact .inr List.mem_cons_self
    · exact .inr (List.mem_cons_of_mem _ late)

theorem freeSpace_spares (tidy : storage.Tidy) (disk : FileSystem) (requested : Nat) :
    Spares storage.path disk (storage.freeSpace disk requested).2.2 ∧
      (storage.freeSpace disk requested).2.1.Tidy := by
  obtain ⟨spares, kept⟩ := foldl_reclaim_spares tidy { disk }
  exact ⟨spares, fun file member => (kept file member).elim nofun (tidy file)⟩

theorem removeAll_spares {path : Path} {files : List Path}
    (inside : ∀ file ∈ files, InScratch path file.destination) (disk : FileSystem) :
    Spares path disk (removeAll disk files) :=
  removeAll_induction (Spares.refl path) Spares.trans
    (fun file member _ _ removed => .remove (inside file member) removed) disk

theorem close_spares (tidy : storage.Tidy) (disk : FileSystem) :
    Spares storage.path disk (storage.close disk).2 ∧ (storage.close disk).1.Tidy := by
  unfold close
  split
  next => exact ⟨.refl _ disk, tidy⟩
  next => exact ⟨removeAll_spares tidy disk, nofun⟩

/-! ## Operations on scratch files -/

theorem makeScratch_storage (storage : Storage) (disk : FileSystem) :
    ∃ scratch scratchCounter,
      (storage.makeScratch disk).2.1 = { storage with scratch, scratchCounter } := by
  unfold makeScratch
  simp only
  split
  next => exact ⟨_, _, rfl⟩
  next =>
    split
    next => exact ⟨_, _, rfl⟩
    next => exact ⟨_, _, rfl⟩

/-- What manages scratch files stays the same handle but for them, and stays closed if it is. -/
theorem managed_perform (storage : Storage) (disk : FileSystem) {operation : Operation}
    (manages : operation.managesScratch = true) :
    ∃ scratch scratchCounter closed,
      (storage.perform disk operation).1 = { storage with scratch, scratchCounter, closed } ∧
        (storage.closed = true → closed = true) := by
  cases operation with
  | createScratch =>
    show ∃ scratch scratchCounter closed, (storage.createScratch disk).2.1 = _ ∧ _
    unfold createScratch
    split
    next => exact ⟨_, _, _, rfl, id⟩
    next =>
      obtain ⟨scratch, scratchCounter, made⟩ := makeScratch_storage storage disk
      exact ⟨scratch, scratchCounter, storage.closed, made, id⟩
  | freeSpace requested => exact ⟨_, _, _, rfl, id⟩
  | close =>
    show ∃ scratch scratchCounter closed, (storage.close disk).1 = _ ∧ _
    unfold close
    split
    next => exact ⟨_, _, _, rfl, id⟩
    next => exact ⟨_, _, _, rfl, fun _ => rfl⟩
  | _ => cases manages

/-- Managing scratch files spares everything else. -/
theorem managed_spares (tidy : storage.Tidy) (there : disk.isDirectory storage.path = true)
    {operation : Operation} (manages : operation.managesScratch = true) :
    Spares storage.path disk (storage.perform disk operation).2 ∧
      (storage.perform disk operation).1.Tidy := by
  cases operation with
  | createScratch => exact createScratch_spares tidy there
  | freeSpace requested => exact freeSpace_spares tidy disk requested
  | close => exact close_spares tidy disk
  | _ => cases manages

/-- Whatever is done, the storage hands out nothing but scratch files. -/
theorem tidy_perform (tidy : storage.Tidy) (disk : FileSystem) (operation : Operation) :
    (storage.perform disk operation).1.Tidy := by
  cases manages : operation.managesScratch with
  | false =>
    have persists := persists_perform storage disk manages
    unfold Tidy
    rw [persists.path, persists.scratch]
    exact tidy
  | true =>
    cases operation with
    | createScratch =>
      show (storage.createScratch disk).2.1.Tidy
      unfold createScratch
      split
      next => exact tidy
      next => exact makeScratch_tidy tidy disk
    | freeSpace requested => exact (freeSpace_spares tidy disk requested).2
    | close => exact (close_spares tidy disk).2
    | _ => cases manages

/-! ## Closed storages -/

theorem ensureOpen_of_closed (closed : storage.closed = true) :
    storage.ensureOpen = .error .databaseClosed := by
  unfold ensureOpen
  rw [closed, if_pos rfl]

theorem checkWriting_of_closed (closed : storage.closed = true) :
    storage.checkWriting = .error .databaseClosed := by
  unfold checkWriting
  rw [closed, if_pos rfl]

/-- **A closed storage leaves the disk as it is**, but may still remove scratch files that are
registered; only recovering a block file is not refused. -/
theorem perform_of_closed (closed : storage.closed = true) (disk : FileSystem)
    (operation : Operation) :
    (storage.perform disk operation).2 = disk ∨
      (∃ requested, operation = .freeSpace requested) ∨
        ∃ blocks, operation = .recoverBlocks blocks := by
  cases manages : operation.managesScratch with
  | false =>
    rcases perform_of_refused (checkWriting_of_closed closed) disk operation manages with
      same | ⟨name, rfl⟩ | recovers
    · exact .inl same
    · left
      show (storage.openBlockFile disk name).2 = disk
      unfold openBlockFile
      rw [ensureOpen_of_closed closed]
    · exact .inr (.inr recovers)
  | true =>
    cases operation with
    | createScratch =>
      left
      show (storage.createScratch disk).2.2 = disk
      unfold createScratch
      rw [ensureOpen_of_closed closed]
    | freeSpace requested => exact .inr (.inl ⟨requested, rfl⟩)
    | close =>
      left
      show (storage.close disk).2 = disk
      unfold close
      rw [closed, if_pos rfl]
    | _ => cases manages

end Storage

end DurableStore
