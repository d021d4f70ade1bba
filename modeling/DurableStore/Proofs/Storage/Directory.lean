import DurableStore.Database
import DurableStore.Proofs.BlockFile.Reopening

/-!
The names in a database directory, and what housekeeping does to them.

The files that outlast a process have `Lasting` names, which no scratch file can have: a scratch
file stands inside `tmp`, or nowhere below it (`Lasting.ne_scratch`).  Making the directory ready
and removing scratch files (`Tidied`) therefore leave them alone, and so does everything that is
done to one of them through its block file (`Readies`).
-/

namespace DurableStore

open FileSystem

/-! ## Lasting names -/

/-- A name that stands for something directly inside a database directory, scratch files apart. -/
structure Lasting (name : String) : Prop where
  goesOn : Path.staysPut name = false
  down : name ≠ ".."
  apart : name ≠ Storage.scratchDirectoryName

theorem lasting_idFileName : Lasting Storage.idFileName :=
  ⟨by decide, by decide, by decide⟩

theorem lasting_journalName : Lasting Database.journalName :=
  ⟨by decide, by decide, by decide⟩

theorem idFileName_ne_journalName : Storage.idFileName ≠ Database.journalName := by decide

/-- Where a scratch file of the database at `path` stands, whatever its name. -/
def scratchPath (path : Path) (name : String) : Path :=
  (path.child Storage.scratchDirectoryName).child name

theorem Path.goOn_of_lasting {name : String} (lasting : Lasting name) (location : Location) :
    goOn location name = location ++ [name] := by
  unfold goOn
  rw [lasting.goesOn, if_neg Bool.false_ne_true, if_neg lasting.down]

theorem Lasting.destination {name : String} (lasting : Lasting name) (path : Path) :
    (path.child name).destination = path.destination ++ [name] := by
  rw [Path.destination_child, Path.goOn_of_lasting lasting]

theorem Lasting.ne_of_ne {name other : String} (lasting : Lasting name) (lasting' : Lasting other)
    (differs : name ≠ other) (path : Path) :
    (path.child name).destination ≠ (path.child other).destination := by
  rw [lasting.destination, lasting'.destination]
  intro same
  exact differs (List.singleton_inj.1 (List.append_cancel_left same))

/-- A scratch file stands where no lasting one does. -/
theorem Lasting.ne_scratch {name : String} (lasting : Lasting name) (path : Path)
    (other : String) : (scratchPath path other).destination ≠ (path.child name).destination := by
  have inside : (path.child Storage.scratchDirectoryName).destination =
      path.destination ++ [Storage.scratchDirectoryName] := by
    rw [Path.destination_child]
    rfl
  -- A scratch file lies one level deeper, unless its name stays put or goes up.
  rw [scratchPath, Path.destination_child, inside, lasting.destination]
  unfold Path.goOn
  intro same
  split at same
  next => exact lasting.apart (List.singleton_inj.1 (List.append_cancel_left same)).symm
  next =>
    have sizes := congrArg List.length same
    split at sizes
    next => simp at sizes
    next => simp at sizes

namespace Storage

/-! ## Removing scratch files -/

theorem removeAll_cons (disk : FileSystem) (path : Path) (rest : List Path) :
    removeAll disk (path :: rest) = removeAll (removeAll disk [path]) rest := rfl

theorem removeAll_induction {motive : FileSystem → FileSystem → Prop}
    (refl : ∀ disk, motive disk disk)
    (trans : ∀ {first second third}, motive first second → motive second third → motive first third)
    {paths : List Path}
    (remove : ∀ path ∈ paths, ∀ disk after, disk.remove path = .ok after → motive disk after)
    (disk : FileSystem) : motive disk (removeAll disk paths) := by
  induction paths generalizing disk with
  | nil => exact refl disk
  | cons path rest ih =>
    have first : motive disk (removeAll disk [path]) := by
      unfold removeAll
      rw [List.foldl_cons, List.foldl_nil]
      split
      next after removed => exact remove path List.mem_cons_self disk after removed
      next => exact refl disk
    rw [removeAll_cons]
    exact trans first (ih (fun other member => remove other (List.mem_cons_of_mem _ member)) _)

/-- No bytes are lost, only names. -/
theorem contents_removeAll (disk : FileSystem) (paths : List Path) :
    (removeAll disk paths).contents = disk.contents :=
  removeAll_induction (motive := fun before after => after.contents = before.contents)
    (fun _ => rfl) (fun first second => second.trans first)
    (fun _ _ _ _ removed => (remove_eq_ok removed).2.1) disk

theorem contents_close (storage : Storage) (disk : FileSystem) :
    (storage.close disk).2.contents = disk.contents := by
  unfold close
  split
  next => rfl
  next => exact contents_removeAll disk storage.scratch

end Storage

/-! ## Housekeeping -/

/-- The second disk differs from the first in directories that were made and in names that were
taken from files, none of them a lasting name of the database at `path`. -/
structure Tidied (path : Path) (before after : FileSystem) : Prop where
  keeps : KeepsDirectories before after
  names : ∀ name, Lasting name →
    after.find? (path.child name).destination = before.find? (path.child name).destination ∨
      before.find? (path.child name).destination = none ∧
        after.find? (path.child name).destination = some .directory
  contents : after.contents = before.contents
  memory : after.memory = before.memory

namespace Tidied

variable {path : Path} {first second third : FileSystem}

theorem refl (path : Path) (disk : FileSystem) : Tidied path disk disk :=
  ⟨fun _ h => h, fun _ _ => .inl rfl, rfl, rfl⟩

theorem trans (h : Tidied path first second) (h' : Tidied path second third) :
    Tidied path first third := by
  refine ⟨fun location directory => h'.keeps _ (h.keeps _ directory), ?_,
    h'.contents.trans h.contents, h'.memory.trans h.memory⟩
  intro name lasting
  rcases h.names name lasting with same | ⟨none, made⟩
  · rw [← same]
    exact h'.names name lasting
  · exact .inr ⟨none, h'.keeps _ made⟩

theorem of_grows (h : Grows first second) : Tidied path first second :=
  ⟨h.keeps, fun _ _ => h.onlyDirectories _, h.contents, h.memory⟩

end Tidied

namespace Storage

theorem removeAll_tidied (path : Path) {paths : List Path}
    (scratch : ∀ file ∈ paths, ∃ name, file = scratchPath path name) (disk : FileSystem) :
    Tidied path disk (removeAll disk paths) := by
  refine removeAll_induction (Tidied.refl path) Tidied.trans ?_ disk
  intro file member disk after removed
  obtain ⟨name, rfl⟩ := scratch file member
  obtain ⟨-, contents, names⟩ := remove_eq_ok removed
  refine ⟨keeps_remove removed, fun other lasting => .inl ?_, contents, memory_remove removed⟩
  rw [names, if_neg (lasting.ne_scratch path name).symm]

theorem removeStaleScratch_tidied (path : Path) (disk : FileSystem) :
    Tidied path disk (removeStaleScratch disk (path.child scratchDirectoryName)) := by
  refine removeAll_tidied path ?_ disk
  intro file member
  obtain ⟨name, -, rfl⟩ := List.mem_map.1 member
  exact ⟨name, rfl⟩

theorem prepareDirectory_tidied (disk : FileSystem) (path : Path) (config : Config) :
    Tidied path disk (prepareDirectory disk path config).2 := by
  unfold prepareDirectory
  split
  next => exact .refl path disk
  next =>
    have grows := makeDirectories_grows disk path
    split
    next made =>
      rw [made] at grows
      exact .of_grows grows
    next made =>
      rw [made] at grows
      exact (Tidied.of_grows grows).trans (removeStaleScratch_tidied path _)

theorem isDirectory_of_keeps {before after : FileSystem} (keeps : KeepsDirectories before after)
    {path : Path} (h : before.isDirectory path = true) : after.isDirectory path = true := by
  have resolved := isDirectory_iff.1 h
  have found := (resolve_eq_ok_iff.1 resolved).2
  exact isDirectory_iff.2 (resolve_of_keeps keeps resolved ((keeps _ found).trans found.symm))

theorem prepareDirectory_eq_ok {disk after : FileSystem} {path : Path} {config : Config}
    (h : prepareDirectory disk path config = (.ok (), after)) : after.isDirectory path = true := by
  unfold prepareDirectory at h
  split at h
  next =>
    split at h
    next there => cases h; exact there
    next => cases h
  next =>
    split at h
    next => cases h
    next made =>
      cases h
      exact isDirectory_of_keeps (removeStaleScratch_tidied path _).keeps
        (makeDirectories_eq_ok made)

theorem prepareDirectory_of_readOnly {disk after : FileSystem} {path : Path} {config : Config}
    {result : Except Fault Unit} (readOnly : config.readOnly = true)
    (h : prepareDirectory disk path config = (result, after)) : after = disk := by
  unfold prepareDirectory at h
  rw [if_pos readOnly] at h
  cases h
  rfl

theorem prepareDirectory_of_isDirectory {disk : FileSystem} {path : Path} (config : Config)
    (there : disk.isDirectory path = true) :
    ∃ after, prepareDirectory disk path config = (.ok (), after) := by
  unfold prepareDirectory
  split
  next => exact ⟨disk, rfl⟩
  next =>
    rw [makeDirectories_of_isDirectory there]
    exact ⟨_, rfl⟩

end Storage

end DurableStore
