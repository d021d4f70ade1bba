import DurableStore.Proofs.FileSystem.Presence
import DurableStore.Proofs.Storage.Scratch
import Mathlib.Data.List.Nodup

/-!
The accounts of scratch files.

A `Workroom` is a storage whose scratch files are counted: files are created, space is gained by
removing them and the storage is closed, in any order, while others remove files and write to them.

* **Creating a file ends.**  A name is passed over only if something stands there, different numbers
  make different names, and no more of them can be in use than there are entries on the disk
  (`Storage.createFrom_ends`).
* **Removing files** takes away those that are there (`Storage.removeAll_erases`), and gaining space
  counts them and their lengths (`Storage.foldl_reclaim`, `Storage.foldl_reclaim_breaksOff`).
* **The accounts are right.**  The storage lists all of its files that are left, and at each place
  where it ever put one stands a file or nothing (`Workroom.Accounted`); each event keeps that, and
  what the next request comes to follows from it (`Workroom.promises_kept`).

Lengths are added up in 64 bits.  If the sum does not fit, the call breaks off: it gives no answer,
and files that come later stay (`Workroom.freed_overflows`).
-/

namespace DurableStore

open FileSystem

namespace Storage

/-! ## Creating a scratch file ends -/

theorem scratchName_inj {owner : String} {number other : Nat}
    (same : scratchName owner number = scratchName owner other) : number = other := by
  have front := (String.append_left_inj scratchSuffix).1 same
  have numbers : number.repr = other.repr := (String.append_right_inj _).1 front
  rw [Nat.repr_eq_ofList_toDigits, Nat.repr_eq_ofList_toDigits, String.ofList_inj] at numbers
  rw [← Nat.ofDigitChars_toDigits (b := 10) (n := number) (by decide) (by decide), numbers,
    Nat.ofDigitChars_toDigits (by decide) (by decide)]

/-- The scratch file with a number. -/
def numberedFile (path : Path) (owner : String) (number : Nat) : Path :=
  scratchPath path (scratchName owner number)

theorem destination_numberedFile (path : Path) (owner : String) (number : Nat) :
    (numberedFile path owner number).destination =
      (path.child scratchDirectoryName).destination ++ [scratchName owner number] := by
  rw [numberedFile, scratchPath, Path.destination_child _ (scratchName owner number),
    goOn_scratchName]

/-- Different numbers lead to different places. -/
theorem destination_numberedFile_inj {path : Path} {owner : String} {number other : Nat}
    (same : (numberedFile path owner number).destination =
      (numberedFile path owner other).destination) : number = other := by
  rw [destination_numberedFile, destination_numberedFile] at same
  exact scratchName_inj (List.singleton_inj.1 (List.append_cancel_left same))

theorem visible_numberedFile (path : Path) (owner : String) (number : Nat) :
    ∃ name ∈ (numberedFile path owner number).names, name ≠ "" := by
  obtain ⟨front, _, -, -, child⟩ := (path.child scratchDirectoryName).names_child
  refine ⟨scratchName owner number, ?_, ?_⟩
  · rw [numberedFile, scratchPath, child]
    simp
  · intro empty
    have long := length_scratchName owner number
    rw [empty] at long
    cases long

/-- Of the files numbered from `start` on, this is the first that is not there already. -/
structure FirstFree (disk : FileSystem) (file : Nat → Path) (start number : Nat) : Prop where
  later : start ≤ number
  taken : ∀ earlier, start ≤ earlier → earlier < number →
    disk.create (file earlier) = .error .alreadyExists
  free : disk.create (file number) ≠ .error .alreadyExists

/-- What trying to create a file that is not there already comes to. -/
def tried (disk : FileSystem) (file : Path) : Except Fault Path × FileSystem :=
  match disk.create file with
  | .ok (_, after) => (.ok file, after)
  | .error kind => (.error (.ioAt file kind "Failed to create temp file"), disk)

section Trying

variable {disk : FileSystem} {path : Path} {owner : String} {counter : Nat}

theorem createFrom_of_taken (tries : Nat)
    (taken : disk.create (numberedFile path owner counter) = .error .alreadyExists) :
    createFrom disk (path.child scratchDirectoryName) owner (tries + 1) counter =
      createFrom disk (path.child scratchDirectoryName) owner tries (counter + 1) := by
  unfold numberedFile scratchPath at taken
  simp only [createFrom, taken]

theorem createFrom_of_free (tries : Nat)
    (free : disk.create (numberedFile path owner counter) ≠ .error .alreadyExists) :
    createFrom disk (path.child scratchDirectoryName) owner (tries + 1) counter =
      ((tried disk (numberedFile path owner counter)).1, counter + 1,
        (tried disk (numberedFile path owner counter)).2) := by
  unfold numberedFile scratchPath at free ⊢
  unfold tried
  rw [createFrom]
  cases created : disk.create
      ((path.child scratchDirectoryName).child (scratchName owner counter)) with
  | ok made => rfl
  | error kind =>
    cases kind with
    | alreadyExists => exact absurd created free
    | _ => rfl

/-- One name after another is passed over, until one is free or there are no tries left. -/
theorem createFrom_cases (disk : FileSystem) (path : Path) (owner : String)
    (tries counter : Nat) :
    (∀ number, counter ≤ number → number < counter + tries →
        disk.create (numberedFile path owner number) = .error .alreadyExists) ∨
      ∃ number < counter + tries, FirstFree disk (numberedFile path owner) counter number ∧
        createFrom disk (path.child scratchDirectoryName) owner tries counter =
          ((tried disk (numberedFile path owner number)).1, number + 1,
            (tried disk (numberedFile path owner number)).2) := by
  induction tries generalizing counter with
  | zero => exact .inl fun number late early => absurd early (Nat.not_lt.2 late)
  | succ tries ih =>
    by_cases taken : disk.create (numberedFile path owner counter) = .error .alreadyExists
    · -- The name is passed over, and the rest goes on from the next number.
      rcases ih (counter + 1) with all | ⟨number, few, first, created⟩
      · left
        intro number late early
        rcases Nat.eq_or_lt_of_le late with rfl | late
        · exact taken
        · exact all number late (by omega)
      · refine .inr ⟨number, by omega, ⟨Nat.le_of_lt first.later, ?_, first.free⟩, ?_⟩
        · intro earlier late early
          rcases Nat.eq_or_lt_of_le late with rfl | late
          · exact taken
          · exact first.taken earlier late early
        · rw [createFrom_of_taken tries taken, created]
    · refine .inr ⟨counter, by omega, ⟨Nat.le_refl counter, ?_, taken⟩,
        createFrom_of_free tries taken⟩
      exact fun earlier late early => absurd early (Nat.not_lt.2 late)

end Trying

/-- **Creating a scratch file ends** before as many names are passed over as there are entries on
the disk, and one more: different numbers make different names, and each that is passed over is one
of an entry. -/
theorem createFrom_ends (disk : FileSystem) (path : Path) (owner : String) (counter : Nat) :
    ∃ number ≤ counter + disk.entries.length,
      FirstFree disk (numberedFile path owner) counter number ∧
      createFrom disk (path.child scratchDirectoryName) owner (disk.entries.length + 1) counter =
        ((tried disk (numberedFile path owner number)).1, number + 1,
          (tried disk (numberedFile path owner number)).2) := by
  rcases createFrom_cases disk path owner (disk.entries.length + 1) counter with
    all | ⟨number, few, first, created⟩
  · -- More different names would be in use than there are entries.
    let places := (List.range (disk.entries.length + 1)).map fun further =>
      (numberedFile path owner (counter + further)).destination
    have distinct : places.Nodup := by
      refine List.Nodup.map_on ?_ List.nodup_range
      intro further _ other _ same
      exact Nat.add_left_cancel (destination_numberedFile_inj same)
    have inUse : places ⊆ disk.entries.map Prod.fst := by
      intro place member
      obtain ⟨further, bound, rfl⟩ := List.mem_map.1 member
      have bound := List.mem_range.1 bound
      obtain ⟨entry, found⟩ := find?_of_alreadyExists (visible_numberedFile path owner _)
        (all (counter + further) (Nat.le_add_right counter further) (by omega))
      exact mem_of_find? found
    have crowded := distinct.length_le_of_subset inUse
    simp only [places, List.length_map, List.length_range] at crowded
    omega
  · exact ⟨number, Nat.le_of_lt_succ few, first, created⟩

/-- The scratch file of the storage with a number. -/
def numbered (storage : Storage) : Nat → Path :=
  numberedFile storage.path storage.owner

/-- All that creating a scratch file can come to: the storage is closed, the directory cannot be
made ready, or a name is tried after others were passed over. -/
theorem createScratch_cases (storage : Storage) (disk : FileSystem) :
    (storage.closed = true ∧
      storage.createScratch disk = (.error .databaseClosed, storage, disk)) ∨
    (∃ kind unready, disk.makeDirectories storage.scratchDirectory = (.error kind, unready) ∧
      storage.createScratch disk =
        (.error (.ioAt storage.scratchDirectory kind "Failed to create temp directory"), storage,
          unready)) ∨
    storage.closed = false ∧ ∃ ready,
      disk.makeDirectories storage.scratchDirectory = (.ok (), ready) ∧
      ∃ number ≤ storage.scratchCounter + ready.entries.length,
        FirstFree ready storage.numbered storage.scratchCounter number ∧
        storage.createScratch disk =
          ((tried ready (storage.numbered number)).1,
            { storage with
              scratchCounter := number + 1
              scratch := storage.scratch ++
                (tried ready (storage.numbered number)).1.toOption.toList },
            (tried ready (storage.numbered number)).2) := by
  cases closed : storage.closed with
  | true =>
    refine .inl ⟨rfl, ?_⟩
    unfold createScratch Storage.ensureOpen
    rw [closed, if_pos rfl]
  | false =>
    right
    have opened : storage.ensureOpen = .ok () := by
      unfold Storage.ensureOpen
      rw [closed, if_neg Bool.false_ne_true]
    cases made : disk.makeDirectories storage.scratchDirectory with
    | mk result ready =>
      cases result with
      | error kind =>
        refine .inl ⟨kind, ready, rfl, ?_⟩
        unfold createScratch makeScratch
        simp only [opened, made]
      | ok =>
        obtain ⟨number, few, first, created⟩ :=
          createFrom_ends ready storage.path storage.owner storage.scratchCounter
        refine .inr ⟨rfl, ready, rfl, number, few, first, ?_⟩
        have created : createFrom ready storage.scratchDirectory storage.owner
            (ready.entries.length + 1) storage.scratchCounter =
              ((tried ready (storage.numbered number)).1, number + 1,
                (tried ready (storage.numbered number)).2) := created
        unfold createScratch makeScratch
        simp only [opened, made, created]
        cases (tried ready (storage.numbered number)).1 with
        | error fault => simp [Except.toOption, closed]
        | ok file => simp [Except.toOption, closed]

/-- Creating a scratch file, also in vain, takes no name away. -/
theorem find?_createScratch {storage : Storage} {disk : FileSystem} {location : Location}
    {entry : Entry} (found : disk.find? location = some entry) :
    (storage.createScratch disk).2.2.find? location = some entry := by
  have grows := makeDirectories_grows disk storage.scratchDirectory
  rcases createScratch_cases storage disk with
    ⟨-, refused⟩ | ⟨kind, unready, missing, refused⟩ |
      ⟨-, ready, made, number, -, -, outcome⟩
  · rw [refused]
    exact found
  · rw [missing] at grows
    rw [refused]
    exact grows.stays location entry found
  · rw [made] at grows
    have stays := grows.stays location entry found
    rw [outcome]
    unfold tried
    cases created : ready.create (storage.numbered number) with
    | error kind => exact stays
    | ok pair =>
      obtain ⟨id, after⟩ := pair
      show after.find? location = some entry
      rw [find?_create created, if_neg]
      · exact stays
      · rintro rfl
        rw [(create_eq_ok created).1] at stays
        cases stays

/-- No scratch file was handed out when a storage is opened. -/
theorem scratch_of_openAt {before : FileSystem} {path : Path} {config : Config} {owner : String}
    {storage : Storage} (opened : (openAt before path config owner).1 = .ok storage) :
    storage.scratch = [] := by
  unfold openAt at opened
  split at opened
  next => cases opened
  next =>
    split at opened
    next => cases opened
    next =>
      split at opened
      next => cases opened
      next => cases opened; rfl

/-! ## Removing scratch files -/

section Removing

variable {disk : FileSystem} {file : Path} {files : List Path}

theorem removeOne_of_ok {after : FileSystem} (removed : disk.remove file = .ok after) :
    removeAll disk [file] = after := by
  unfold removeAll
  rw [List.foldl_cons, List.foldl_nil, removed]

theorem removeOne_of_absent (absent : disk.exists? file = false) :
    removeAll disk [file] = disk := by
  unfold removeAll
  rw [List.foldl_cons, List.foldl_nil]
  cases removed : disk.remove file with
  | ok after =>
    rw [exists?_of_remove removed] at absent
    cases absent
  | error kind => rfl

theorem existing_singleton (there : disk.exists? file = true) : disk.existing [file] = [file] := by
  simp [existing, there]

theorem existing_of_absent (absent : disk.exists? file = false) : disk.existing [file] = [] := by
  simp [existing, absent]

/-- Removing one file takes its name away if it exists. -/
theorem removeOne_erases (removable : disk.Removable file) :
    Erases ((disk.existing [file]).map Path.destination) disk (removeAll disk [file]) := by
  cases there : disk.exists? file with
  | true =>
    obtain ⟨after, removed⟩ := removable.remove there
    rw [removeOne_of_ok removed, existing_singleton there]
    exact .of_remove removed
  | false =>
    rw [removeOne_of_absent there, existing_of_absent there]
    exact .refl disk

/-- Removing one file leaves others as they are. -/
theorem removeOne_others (removable : ∀ other ∈ file :: files, disk.Removable other)
    (apart : ((file :: files).map Path.destination).Nodup) :
    (∀ other ∈ files, (removeAll disk [file]).Removable other) ∧
      ∀ part, part ⊆ files → (removeAll disk [file]).existing part = disk.existing part ∧
        (removeAll disk [file]).total part = disk.total part := by
  have erases := removeOne_erases (removable file List.mem_cons_self)
  obtain ⟨elsewhere, -⟩ := List.nodup_cons.1 apart
  have removable' : ∀ other ∈ files, disk.Removable other :=
    fun other member => removable other (List.mem_cons_of_mem _ member)
  have kept : ∀ other ∈ files, other.destination ∉ (disk.existing [file]).map Path.destination := by
    intro other member gone
    obtain ⟨same, member', leads⟩ := List.mem_map.1 gone
    obtain rfl := List.mem_singleton.1 (mem_existing.1 member').1
    exact elsewhere (leads ▸ List.mem_map_of_mem member)
  refine ⟨fun other member => erases.removable (removable' other member), ?_⟩
  intro part sub
  exact ⟨existing_of_erases erases (fun other member => removable' other (sub member))
      fun other member => kept other (sub member),
    total_of_erases erases (fun other member => removable' other (sub member))
      fun other member => kept other (sub member)⟩

/-- **Removing files** one after another takes away the names of those that exist. -/
theorem removeAll_erases (removable : ∀ file ∈ files, disk.Removable file)
    (apart : (files.map Path.destination).Nodup) :
    Erases ((disk.existing files).map Path.destination) disk (removeAll disk files) := by
  induction files generalizing disk with
  | nil => exact .refl disk
  | cons file rest ih =>
    have first := removeOne_erases (removable file List.mem_cons_self)
    obtain ⟨removable', others⟩ := removeOne_others removable apart
    have later := ih removable' (List.nodup_cons.1 apart).2
    rw [(others rest (List.Subset.refl rest)).1] at later
    rw [existing_cons, List.map_append, removeAll_cons]
    exact first.trans later

/-- What removing one file comes to while the number of bytes fits 64 bits. -/
theorem reclaim_eq {so : Reclaimed} {freed : Nat} (known : so.freed = some freed)
    (fits : freed < UInt64.size) (removable : so.disk.Removable file) :
    reclaim so file =
      if freed + so.disk.total [file] < UInt64.size then
        { kept := so.kept
          removed := so.removed + (so.disk.existing [file]).length
          freed := some (freed + so.disk.total [file])
          disk := removeAll so.disk [file] }
      else
        { so with kept := so.kept ++ [file], freed := none, disk := removeAll so.disk [file] } := by
  unfold reclaim
  rw [known]
  cases there : so.disk.exists? file with
  | true =>
    obtain ⟨after, removed⟩ := removable.remove there
    rw [removeOne_of_ok removed, existing_singleton there]
    have sum : sum? freed ((so.disk.lengthAt? file).getD 0) =
        if freed + so.disk.total [file] < UInt64.size then some (freed + so.disk.total [file])
        else none := rfl
    simp only [if_true, removed, sum]
    by_cases fits : freed + so.disk.total [file] < UInt64.size
    · rw [if_pos fits, if_pos fits]
      rfl
    · rw [if_neg fits, if_neg fits]
  | false =>
    have lengthless : so.disk.total [file] = 0 := by
      rw [← total_existing (by simpa using removable), existing_of_absent there]
      rfl
    simp only [Bool.false_eq_true, if_false]
    rw [removeOne_of_absent there, existing_of_absent there, lengthless, Nat.add_zero, if_pos fits,
      ← known]
    rfl

/-- Once the number of bytes does not fit, nothing more is done. -/
theorem foldl_reclaim_of_none {so : Reclaimed} (overflown : so.freed = none) (files : List Path) :
    files.foldl reclaim so = { so with kept := so.kept ++ files } := by
  induction files generalizing so with
  | nil =>
    rw [List.append_nil]
    rfl
  | cons file rest ih =>
    have first : reclaim so file = { so with kept := so.kept ++ [file] } := by
      unfold reclaim
      rw [overflown]
    have later : ({ so with kept := so.kept ++ [file] } : Reclaimed).freed = none := overflown
    rw [List.foldl_cons, first, ih later, List.append_assoc]
    rfl

/-- **Gaining space** removes the files that exist and counts them and their bytes, if the number
of bytes fits 64 bits. -/
theorem foldl_reclaim {so : Reclaimed} {freed : Nat} (known : so.freed = some freed)
    (removable : ∀ file ∈ files, so.disk.Removable file)
    (apart : (files.map Path.destination).Nodup) (fits : freed + so.disk.total files < UInt64.size) :
    files.foldl reclaim so =
      { kept := so.kept
        removed := so.removed + (so.disk.existing files).length
        freed := some (freed + so.disk.total files)
        disk := removeAll so.disk files } := by
  induction files generalizing so freed with
  | nil =>
    show so = { so with freed := some freed }
    rw [← known]
  | cons file rest ih =>
    obtain ⟨removable', others⟩ := removeOne_others removable apart
    obtain ⟨exist, lengths⟩ := others rest (List.Subset.refl rest)
    rw [total_cons] at fits ⊢
    have first := reclaim_eq known (by omega) (removable file List.mem_cons_self)
    rw [if_pos (by omega)] at first
    rw [List.foldl_cons, first, ih rfl removable' (List.nodup_cons.1 apart).2]
    · rw [exist, lengths, existing_cons so.disk file rest, List.length_append, Nat.add_assoc,
        Nat.add_assoc]
      rfl
    · rw [lengths]
      omega

/-- If it does not fit, the call breaks off at the file that is too much, which is removed but not
counted. -/
theorem foldl_reclaim_breaksOff {so : Reclaimed} {freed : Nat} (known : so.freed = some freed)
    (removable : ∀ file ∈ files, so.disk.Removable file)
    (apart : (files.map Path.destination).Nodup) (small : freed < UInt64.size)
    (large : UInt64.size ≤ freed + so.disk.total files) :
    ∃ gone last stay, files = gone ++ last :: stay ∧
      freed + so.disk.total gone < UInt64.size ∧
      UInt64.size ≤ freed + so.disk.total (gone ++ [last]) ∧
      files.foldl reclaim so =
        { kept := so.kept ++ last :: stay
          removed := so.removed + (so.disk.existing gone).length
          freed := none
          disk := removeAll so.disk (gone ++ [last]) } := by
  induction files generalizing so freed with
  | nil => exact absurd small (Nat.not_lt.2 large)
  | cons file rest ih =>
    obtain ⟨removable', others⟩ := removeOne_others removable apart
    have first := reclaim_eq known small (removable file List.mem_cons_self)
    by_cases fits : freed + so.disk.total [file] < UInt64.size
    · -- The file that is too much comes later.
      rw [if_pos fits] at first
      have told : (reclaim so file).freed = some (freed + so.disk.total [file]) := by rw [first]
      have left : removeAll so.disk [file] = (reclaim so file).disk := by rw [first]
      rw [left] at removable' others
      rw [total_cons, ← Nat.add_assoc, ← (others rest (List.Subset.refl rest)).2] at large
      obtain ⟨gone, last, stay, rfl, before, beyond, removes⟩ :=
        ih told removable' (List.nodup_cons.1 apart).2 fits large
      obtain ⟨exist, lengths⟩ := others gone (List.subset_append_left ..)
      obtain ⟨-, lengths'⟩ := others (gone ++ [last]) (by simp)
      refine ⟨file :: gone, last, stay, rfl, ?_, ?_, ?_⟩
      · rw [total_cons]
        omega
      · rw [List.cons_append, total_cons]
        omega
      · rw [List.foldl_cons, removes, exist, existing_cons so.disk file gone, List.length_append,
          first, Nat.add_assoc]
        rfl
    · rw [if_neg fits] at first
      refine ⟨[], file, rest, rfl, small, Nat.not_lt.1 fits, ?_⟩
      rw [List.foldl_cons, first, foldl_reclaim_of_none rfl, List.append_assoc]
      rfl

end Removing

/-- Whatever files are removed, nothing but names is taken away. -/
theorem removeAll_takes (disk : FileSystem) (files : List Path) :
    ∃ gone, Erases gone disk (removeAll disk files) := by
  refine removeAll_induction (motive := fun before after => ∃ gone, Erases gone before after)
    ?_ ?_ ?_ disk
  · exact fun disk => ⟨[], .refl disk⟩
  · rintro _ _ _ ⟨gone, first⟩ ⟨gone', second⟩
    exact ⟨gone ++ gone', first.trans second⟩
  · exact fun file _ _ _ removed => ⟨_, .of_remove removed⟩

end Storage

/-! ## Workrooms -/

/-- A storage, the disk it works on, and every scratch file that it ever handed out. -/
structure Workroom where
  storage : Storage
  disk : FileSystem
  created : List Path

namespace Workroom

/-- What happens in a workroom. -/
inductive Event where
  /-- A scratch file is created. -/
  | create
  /-- Scratch files are removed to gain space. -/
  | free (requested : Nat)
  /-- The storage is closed. -/
  | close
  /-- Somebody else removes a file. -/
  | removed (file : Path)
  /-- Somebody else writes to a file or changes its length. -/
  | written (id : FileId) (change : Content → Content)

def step (room : Workroom) : Event → Workroom
  | .create =>
    let (result, storage, disk) := room.storage.createScratch room.disk
    { storage, disk, created := room.created ++ result.toOption.toList }
  | .free requested =>
    let (_, storage, disk) := room.storage.freeSpace room.disk requested
    { room with storage, disk }
  | .close =>
    let (storage, disk) := room.storage.close room.disk
    { room with storage, disk }
  | .removed file => { room with disk := Storage.removeAll room.disk [file] }
  | .written id change => { room with disk := room.disk.edit id change }

def run (room : Workroom) (events : List Event) : Workroom :=
  events.foldl step room

/-- The files of the storage that are left. -/
def left (room : Workroom) : List Path :=
  room.disk.existing room.created

/-! ## The accounts are right -/

/-- The storage lists those of its files that are left, in the order in which they were created, and
at the place of every file it handed out stands a file or nothing. -/
structure Accounted (room : Workroom) : Prop where
  numbered : ∀ file ∈ room.created, ∃ number < room.storage.scratchCounter,
    file = room.storage.numbered number
  distinct : room.created.Nodup
  known : room.storage.scratch.Sublist room.created
  removable : ∀ file ∈ room.created, room.disk.Removable file
  listed : ∀ file ∈ room.left, file ∈ room.storage.scratch
  ready : room.created ≠ [] → room.disk.isDirectory room.storage.scratchDirectory = true
  settled : room.storage.closed = true → room.storage.scratch = []

namespace Accounted

variable {room : Workroom} {after : FileSystem}

/-- Nothing was handed out yet. -/
theorem of_blank {storage : Storage} (blank : storage.scratch = []) (disk : FileSystem) :
    Accounted ⟨storage, disk, []⟩ where
  numbered := nofun
  distinct := List.nodup_nil
  known := by simp [blank]
  removable := nofun
  listed := nofun
  ready := by simp
  settled := fun _ => blank

theorem eq_of_destination (h : room.Accounted) {file : Path} (member : file ∈ room.created)
    {number : Nat} (same : file.destination = (room.storage.numbered number).destination) :
    file = room.storage.numbered number := by
  obtain ⟨number', -, rfl⟩ := h.numbered file member
  rw [Storage.destination_numberedFile_inj same]

theorem apart (h : room.Accounted) : (room.storage.scratch.map Path.destination).Nodup := by
  refine List.Nodup.map_on ?_ (h.distinct.sublist h.known)
  intro file member other member' same
  obtain ⟨number, -, rfl⟩ := h.numbered other (h.known.subset member')
  exact h.eq_of_destination (h.known.subset member) same

theorem removable_of_listed (h : room.Accounted) :
    ∀ file ∈ room.storage.scratch, room.disk.Removable file :=
  fun file listed => h.removable file (h.known.subset listed)

/-- What is left is what exists of the files that are listed. -/
theorem existing_scratch (h : room.Accounted) :
    room.disk.existing room.storage.scratch = room.left := by
  refine (h.known.filter _).eq_of_length_le ?_
  refine List.Nodup.length_le_of_subset (h.distinct.filter _) fun file member => ?_
  exact mem_existing.2 ⟨h.listed file member, (mem_existing.1 member).2⟩

theorem total_scratch (h : room.Accounted) :
    room.disk.total room.storage.scratch = room.disk.total room.left := by
  rw [← total_existing h.removable_of_listed, h.existing_scratch]

/-- Changes of the disk that lose no directory and give no name that was handed out away. -/
theorem on_disk (h : room.Accounted) (keeps : KeepsDirectories room.disk after)
    (removable : ∀ file ∈ room.created, after.Removable file)
    (fewer : ∀ file ∈ room.created, after.exists? file = true → room.disk.exists? file = true) :
    Accounted { room with disk := after } where
  numbered := h.numbered
  distinct := h.distinct
  known := h.known
  removable := removable
  listed file member := by
    obtain ⟨member, there⟩ := mem_existing.1 member
    exact h.listed file (mem_existing.2 ⟨member, fewer file member there⟩)
  ready some := Storage.isDirectory_of_keeps keeps (h.ready some)
  settled := h.settled

theorem removed (h : room.Accounted) (file : Path) : (room.step (.removed file)).Accounted := by
  obtain ⟨gone, erases⟩ := Storage.removeAll_takes room.disk [file]
  refine h.on_disk erases.keeps ?_ ?_
  · exact fun other member => erases.removable (h.removable other member)
  · exact fun other member there => ((erases.exists?_iff (h.removable other member)).1 there).1

theorem written (h : room.Accounted) (id : FileId) (change : Content → Content) :
    (room.step (.written id change)).Accounted := by
  refine h.on_disk (fun _ found => found) ?_ (fun _ _ there => there)
  exact fun file member => (h.removable file member).of_keeps (fun _ found => found) (.inl rfl)

/-! ### Removing the files that are left -/

/-- Some of the files are removed, and at least the others stay listed. -/
theorem cleared (h : room.Accounted) {gone stay : List Path} {closed : Bool}
    (listed : stay.Sublist room.storage.scratch)
    (parts : ∀ file ∈ room.storage.scratch, file ∈ gone ∨ file ∈ stay)
    (settled : closed = true → stay = [])
    (erases : Erases ((room.disk.existing gone).map Path.destination) room.disk after) :
    Accounted { room with
      storage := { room.storage with scratch := stay, closed }
      disk := after } where
  numbered := h.numbered
  distinct := h.distinct
  known := listed.trans h.known
  removable file member := erases.removable (h.removable file member)
  listed file member := by
    -- What is left was listed and was not removed.
    obtain ⟨member, there⟩ := mem_existing.1 member
    obtain ⟨there, kept⟩ := (erases.exists?_iff (h.removable file member)).1 there
    have listed := h.listed file (mem_existing.2 ⟨member, there⟩)
    refine (parts file listed).resolve_left fun removed => kept ?_
    exact List.mem_map_of_mem (mem_existing.2 ⟨removed, there⟩)
  ready some := Storage.isDirectory_of_keeps erases.keeps (h.ready some)
  settled := settled

theorem cleared_all (h : room.Accounted) {closed : Bool}
    (erases : Erases ((room.disk.existing room.storage.scratch).map Path.destination) room.disk
      after) :
    Accounted { room with
      storage := { room.storage with scratch := [], closed }
      disk := after } :=
  h.cleared (List.nil_sublist _) (fun _ => .inl) (fun _ => rfl) erases

theorem removeAll_erases (h : room.Accounted) :
    Erases ((room.disk.existing room.storage.scratch).map Path.destination) room.disk
      (Storage.removeAll room.disk room.storage.scratch) :=
  Storage.removeAll_erases h.removable_of_listed h.apart

/-- **Gaining space** removes the files that are left, and tells how many bytes they had, if the
number fits 64 bits. -/
theorem freeSpace_eq (h : room.Accounted) (fits : room.disk.total room.left < UInt64.size)
    (requested : Nat) :
    room.storage.freeSpace room.disk requested =
      (some (if room.left = [] then .error (.diskFull (some room.storage.path) requested)
          else .ok (room.disk.total room.left)),
        { room.storage with scratch := [] },
        Storage.removeAll room.disk room.storage.scratch) := by
  rw [← h.total_scratch] at fits
  have nothing : ({ disk := room.disk } : Storage.Reclaimed).freed = some 0 := rfl
  have gained := Storage.foldl_reclaim nothing h.removable_of_listed h.apart
    (by rwa [Nat.zero_add])
  unfold Storage.freeSpace
  simp only [gained, Nat.zero_add, h.existing_scratch, h.total_scratch, Option.map_some,
    List.length_eq_zero_iff]

/-- If the number does not fit, gaining space breaks off at the file that is too much. -/
theorem freeSpace_breaksOff (h : room.Accounted) (large : UInt64.size ≤ room.disk.total room.left)
    (requested : Nat) :
    ∃ gone last stay, room.storage.scratch = gone ++ last :: stay ∧
      room.disk.total gone < UInt64.size ∧
      UInt64.size ≤ room.disk.total (gone ++ [last]) ∧
      room.storage.freeSpace room.disk requested =
        (none, { room.storage with scratch := last :: stay },
          Storage.removeAll room.disk (gone ++ [last])) ∧
      Erases ((room.disk.existing (gone ++ [last])).map Path.destination) room.disk
        (Storage.removeAll room.disk (gone ++ [last])) := by
  rw [← h.total_scratch] at large
  have nothing : ({ disk := room.disk } : Storage.Reclaimed).freed = some 0 := rfl
  obtain ⟨gone, last, stay, parts, before, beyond, breaks⟩ :=
    Storage.foldl_reclaim_breaksOff nothing h.removable_of_listed h.apart (by decide)
      (by rwa [Nat.zero_add])
  rw [Nat.zero_add] at before beyond
  have front : (gone ++ [last]).Sublist room.storage.scratch := by
    rw [parts, List.append_cons gone last stay]
    exact List.sublist_append_left _ _
  refine ⟨gone, last, stay, parts, before, beyond, ?_, Storage.removeAll_erases
    (fun file member => h.removable_of_listed file (front.subset member))
    (h.apart.sublist (front.map _))⟩
  unfold Storage.freeSpace
  simp only [breaks, Option.map_none, List.nil_append]

/-- The file that is too much is one that is left. -/
theorem left_of_breaksOff (h : room.Accounted) {gone stay : List Path} {last : Path}
    (parts : room.storage.scratch = gone ++ last :: stay)
    (before : room.disk.total gone < UInt64.size)
    (beyond : UInt64.size ≤ room.disk.total (gone ++ [last])) :
    room.disk.existing [last] = [last] ∧
      room.left = room.disk.existing gone ++ last :: room.disk.existing stay ∧
      room.disk.total (room.disk.existing gone) = room.disk.total gone := by
  have removable := h.removable_of_listed
  rw [parts] at removable
  have there : room.disk.existing [last] = [last] := by
    cases there : room.disk.exists? last with
    | true => exact Storage.existing_singleton there
    | false =>
      -- A file that does not exist would add nothing.
      have nothing : room.disk.total [last] = 0 := by
        rw [← total_existing (by simpa using removable last (by simp)),
          Storage.existing_of_absent there]
        rfl
      rw [total_append] at beyond
      omega
  refine ⟨there, ?_, total_existing fun file member => removable file (by simp [member])⟩
  rw [← h.existing_scratch, parts, existing_append, existing_cons, there]
  rfl

theorem free (h : room.Accounted) (requested : Nat) :
    (room.step (.free requested)).Accounted := by
  rcases Nat.lt_or_ge (room.disk.total room.left) UInt64.size with fits | large
  · simp only [Workroom.step, h.freeSpace_eq fits]
    exact h.cleared_all h.removeAll_erases
  · obtain ⟨gone, last, stay, parts, -, -, breaks, erases⟩ := h.freeSpace_breaksOff large requested
    simp only [Workroom.step, breaks]
    refine h.cleared (parts ▸ List.sublist_append_right gone _) ?_ ?_ erases
    · intro file listed
      rw [parts] at listed
      exact (List.mem_append.1 listed).imp_left (List.mem_append_left _)
    · intro closed
      have none := h.settled closed
      rw [parts] at none
      exact (List.append_eq_nil_iff.1 none).2

theorem close (h : room.Accounted) : (room.step .close).Accounted := by
  cases closed : room.storage.closed with
  | true =>
    simp only [Workroom.step, Storage.close, closed, if_true]
    exact h
  | false =>
    simp only [Workroom.step, Storage.close, closed, Bool.false_eq_true, if_false]
    exact h.cleared_all h.removeAll_erases

/-! ### Creating a file -/

theorem makeDirectories_of_some (h : room.Accounted) (some : room.created ≠ []) :
    room.disk.makeDirectories room.storage.scratchDirectory = (.ok (), room.disk) :=
  makeDirectories_of_isDirectory (h.ready some)

/-- The directory is made ready, and some names are passed over. -/
theorem skipped (h : room.Accounted) {ready : FileSystem} {counter : Nat}
    (made : room.disk.makeDirectories room.storage.scratchDirectory = (.ok (), ready))
    (later : room.storage.scratchCounter ≤ counter) :
    Accounted { room with
      storage := { room.storage with scratchCounter := counter }
      disk := ready } := by
  -- The directory is there already if a file was ever handed out.
  have same (some : room.created ≠ []) : ready = room.disk :=
    congrArg Prod.snd (made.symm.trans (h.makeDirectories_of_some some))
  have there {file : Path} (member : file ∈ room.created) : ready = room.disk :=
    same (List.ne_nil_of_mem member)
  refine ⟨?_, h.distinct, h.known, ?_, ?_, ?_, h.settled⟩
  · intro file member
    obtain ⟨number, below, named⟩ := h.numbered file member
    exact ⟨number, Nat.lt_of_lt_of_le below later, named⟩
  · intro file member
    rw [there member]
    exact h.removable file member
  · intro file member
    have handed := (mem_existing.1 member).1
    refine h.listed file ?_
    unfold left
    rw [← there handed]
    exact member
  · intro some
    rw [same some]
    exact h.ready some

/-- A file is created that was never handed out before. -/
theorem added (h : room.Accounted) {number : Nat} {file : Path} {id : FileId}
    (opened : room.storage.closed = false) (below : number < room.storage.scratchCounter)
    (named : file = room.storage.numbered number)
    (new : file ∉ room.created)
    (there : room.disk.isDirectory room.storage.scratchDirectory = true)
    (made : room.disk.create file = .ok (id, after)) :
    Accounted
      { storage := { room.storage with scratch := room.storage.scratch ++ [file] }
        disk := after
        created := room.created ++ [file] } := by
  have elsewhere : ∀ other ∈ room.created, other.destination ≠ file.destination := by
    rintro other member same
    rw [named] at same
    exact new (named ▸ h.eq_of_destination member same ▸ member)
  have others (other : Path) (member : other ∈ room.created) :=
    (h.removable other member).create made (elsewhere other member)
  refine ⟨?_, ?_, h.known.append (List.Sublist.refl [file]), ?_, ?_, ?_, ?_⟩
  · intro other member
    rcases List.mem_append.1 member with old | same
    · exact h.numbered other old
    · exact ⟨number, below, (List.mem_singleton.1 same).trans named⟩
  · exact List.nodup_append.2 ⟨h.distinct, List.nodup_singleton file,
      fun other old _ same => List.mem_singleton.1 same ▸ fun eq => new (eq ▸ old)⟩
  · intro other member
    rcases List.mem_append.1 member with old | same
    · exact (others other old).1
    · obtain rfl := List.mem_singleton.1 same
      exact (removable_of_create made).1
  · intro other member
    obtain ⟨member, exists_⟩ := mem_existing.1 member
    rcases List.mem_append.1 member with old | same
    · rw [(others other old).2] at exists_
      exact List.mem_append_left _ (h.listed other (mem_existing.2 ⟨old, exists_⟩))
    · exact List.mem_append_right _ same
  · intro _
    exact Storage.isDirectory_of_keeps (keeps_create made) there
  · intro closes
    rw [show room.storage.closed = true from closes] at opened
    cases opened

theorem numbered_notMem (h : room.Accounted) {number : Nat}
    (later : room.storage.scratchCounter ≤ number) :
    room.storage.numbered number ∉ room.created := by
  intro member
  obtain ⟨earlier, below, same⟩ := h.numbered _ member
  have := Storage.destination_numberedFile_inj (congrArg Path.destination same)
  omega

theorem create (h : room.Accounted) : (room.step .create).Accounted := by
  rcases Storage.createScratch_cases room.storage room.disk with
    ⟨-, refused⟩ | ⟨kind, unready, missing, refused⟩ |
      ⟨opened, ready, made, number, -, first, outcome⟩
  · simpa [Workroom.step, refused, Except.toOption] using h
  · have none : room.created = [] := by
      by_contra some
      rw [h.makeDirectories_of_some some] at missing
      cases missing
    have blank : room.storage.scratch = [] := List.sublist_nil.1 (none ▸ h.known)
    simpa [Workroom.step, refused, Except.toOption, none] using of_blank blank unready
  · simp only [Workroom.step, outcome]
    have between := h.skipped made (Nat.le_succ_of_le first.later)
    unfold Storage.tried
    cases created : ready.create (room.storage.numbered number) with
    | error kind => simpa [Except.toOption] using between
    | ok pair =>
      have there := makeDirectories_eq_ok made
      exact between.added opened (Nat.lt_succ_self number) rfl (h.numbered_notMem first.later) there
        created

/-- **Every event keeps the accounts right.** -/
theorem step (h : room.Accounted) (event : Event) : (room.step event).Accounted := by
  cases event with
  | create => exact h.create
  | free requested => exact h.free requested
  | close => exact h.close
  | removed file => exact h.removed file
  | written id change => exact h.written id change

theorem run (h : room.Accounted) (events : List Event) : (room.run events).Accounted := by
  induction events generalizing room with
  | nil => exact h
  | cons event rest ih => exact ih (h.step event)

end Accounted

/-! ## What the next request comes to -/

/-- What creating a file, gaining space and closing come to at the moment. -/
structure Promises (room : Workroom) : Prop where
  /-- Creating a file ends: names that are in use are passed over, no more of them than there are
  entries on the disk, and the first one that is not decides. -/
  ends : room.storage.closed = false → ∀ ready,
    room.disk.makeDirectories room.storage.scratchDirectory = (.ok (), ready) →
    ∃ number ≤ room.storage.scratchCounter + ready.entries.length,
      Storage.FirstFree ready room.storage.numbered room.storage.scratchCounter number ∧
      (room.storage.createScratch room.disk).1 =
        (Storage.tried ready (room.storage.numbered number)).1
  /-- A file that is created stands where nothing did, under a name never handed out before. -/
  fresh : ∀ file storage after,
    room.storage.createScratch room.disk = (.ok file, storage, after) →
      room.disk.find? file.destination = none ∧ file ∉ room.created ∧ after.exists? file = true
  /-- Creating a file, also in vain, removes nothing. -/
  spares : ∀ location entry, room.disk.find? location = some entry →
    (room.storage.createScratch room.disk).2.2.find? location = some entry
  /-- Gaining space tells how long the files were that are left, or that there are none, if their
  length fits 64 bits. -/
  freed : room.disk.total room.left < UInt64.size → ∀ requested,
    (room.storage.freeSpace room.disk requested).1 =
      some (if room.left = [] then .error (.diskFull (some room.storage.path) requested)
        else .ok (room.disk.total room.left))
  /-- It removes the files that are left then, and nothing else. -/
  erases : room.disk.total room.left < UInt64.size → ∀ requested,
    Erases (room.left.map Path.destination) room.disk
      (room.storage.freeSpace room.disk requested).2.2
  /-- If the length does not fit, it removes files in the order in which they were created, up to
  the one that is too much, and gives no answer. -/
  breaksOff : UInt64.size ≤ room.disk.total room.left → ∀ requested,
    (room.storage.freeSpace room.disk requested).1 = none ∧
    ∃ gone last stay, room.left = gone ++ last :: stay ∧
      room.disk.total gone < UInt64.size ∧ UInt64.size ≤ room.disk.total (gone ++ [last]) ∧
      Erases ((gone ++ [last]).map Path.destination) room.disk
        (room.storage.freeSpace room.disk requested).2.2
  /-- Closing removes the files that are left, whatever their length. -/
  closes : Erases (room.left.map Path.destination) room.disk (room.storage.close room.disk).2
  /-- No file is left once the storage was closed. -/
  gone : room.storage.closed = true → room.left = []

namespace Accounted

variable {room : Workroom}

theorem fresh (h : room.Accounted) {file : Path} {storage : Storage} {after : FileSystem}
    (handed : room.storage.createScratch room.disk = (.ok file, storage, after)) :
    room.disk.find? file.destination = none ∧ file ∉ room.created ∧
      after.exists? file = true := by
  rcases Storage.createScratch_cases room.storage room.disk with
    ⟨-, refused⟩ | ⟨kind, unready, missing, refused⟩ |
      ⟨opened, ready, made, number, -, first, outcome⟩
  · rw [refused] at handed
    cases handed
  · rw [refused] at handed
    cases handed
  · rw [outcome] at handed
    unfold Storage.tried at handed
    cases created : ready.create (room.storage.numbered number) with
    | error kind =>
      rw [created] at handed
      cases handed
    | ok pair =>
      obtain ⟨id, disk⟩ := pair
      rw [created] at handed
      cases handed
      refine ⟨?_, h.numbered_notMem first.later, (removable_of_create created).2⟩
      -- What was there before the directory was made ready would be there still.
      have grows := makeDirectories_grows room.disk room.storage.scratchDirectory
      rw [made] at grows
      rw [Option.eq_none_iff_forall_ne_some]
      intro entry found
      have stays := grows.stays _ entry found
      rw [(create_eq_ok created).1] at stays
      cases stays

theorem left_eq_nil (h : room.Accounted) (closed : room.storage.closed = true) :
    room.left = [] := by
  refine List.eq_nil_iff_forall_not_mem.2 fun file member => ?_
  have listed := h.listed file member
  rw [h.settled closed] at listed
  cases listed

theorem close_erases (h : room.Accounted) :
    Erases (room.left.map Path.destination) room.disk (room.storage.close room.disk).2 := by
  unfold Storage.close
  split
  next closed =>
    rw [h.left_eq_nil closed]
    exact .refl room.disk
  next =>
    rw [← h.existing_scratch]
    exact h.removeAll_erases

theorem breaksOff (h : room.Accounted) (large : UInt64.size ≤ room.disk.total room.left)
    (requested : Nat) :
    (room.storage.freeSpace room.disk requested).1 = none ∧
      ∃ gone last stay, room.left = gone ++ last :: stay ∧
        room.disk.total gone < UInt64.size ∧ UInt64.size ≤ room.disk.total (gone ++ [last]) ∧
        Erases ((gone ++ [last]).map Path.destination) room.disk
          (room.storage.freeSpace room.disk requested).2.2 := by
  obtain ⟨gone, last, stay, parts, before, beyond, breaks, erases⟩ :=
    h.freeSpace_breaksOff large requested
  obtain ⟨there, left, lengths⟩ := h.left_of_breaksOff parts before beyond
  rw [existing_append, there] at erases
  refine ⟨by rw [breaks], room.disk.existing gone, last, room.disk.existing stay, left, ?_, ?_, ?_⟩
  · rwa [lengths]
  · rwa [total_append, lengths, ← total_append]
  · rwa [breaks]

theorem promises (h : room.Accounted) : room.Promises where
  ends opened ready made := by
    rcases Storage.createScratch_cases room.storage room.disk with
      ⟨closed, -⟩ | ⟨kind, unready, missing, -⟩ |
        ⟨-, ready', made', number, few, first, outcome⟩
    · rw [opened] at closed
      cases closed
    · rw [made] at missing
      cases missing
    · obtain rfl : ready' = ready := congrArg Prod.snd (made'.symm.trans made)
      exact ⟨number, few, first, by rw [outcome]⟩
  fresh _ _ _ handed := h.fresh handed
  spares location entry found := Storage.find?_createScratch found
  freed fits requested := by rw [h.freeSpace_eq fits]
  erases fits requested := by
    rw [h.freeSpace_eq fits, ← h.existing_scratch]
    exact h.removeAll_erases
  breaksOff large requested := h.breaksOff large requested
  closes := h.close_erases
  gone := h.left_eq_nil

end Accounted

variable {storage : Storage}

/-- **Scratch files are unique and accounted for**: whatever stands on the disk when the storage was
opened, and whatever happened since, the next request keeps its promises. -/
theorem promises_kept {before : FileSystem} {path : Path} {config : Config} {owner : String}
    (opened : (Storage.openAt before path config owner).1 = .ok storage) (disk : FileSystem)
    (events : List Event) : ((⟨storage, disk, []⟩ : Workroom).run events).Promises :=
  ((Accounted.of_blank (Storage.scratch_of_openAt opened) disk).run events).promises

/-! ### A first opening -/

/-- A first opening of a directory. -/
def opening : Except Fault Storage × FileSystem :=
  Storage.openAt .empty ⟨["", "db"]⟩ .testing "7"

/-- What happened since. -/
def since (storage : Storage) (events : List Event) : Workroom :=
  run ⟨storage, opening.2, []⟩ events

/-- A file that somebody else removed is not counted, and its name is not given to another. -/
theorem promises_kept_removed : ∃ storage,
    (Storage.openAt .empty ⟨["", "db"]⟩ .testing "7").1 = .ok storage ∧
      ((since storage [.create, .removed ⟨["", "db", "tmp", "7-0.temp.db"]⟩, .create]).created =
          [⟨["", "db", "tmp", "7-0.temp.db"]⟩, ⟨["", "db", "tmp", "7-1.temp.db"]⟩] ∧
        (since storage [.create, .removed ⟨["", "db", "tmp", "7-0.temp.db"]⟩, .create]).left =
          [⟨["", "db", "tmp", "7-1.temp.db"]⟩]) ∧
      (since storage [.create, .removed ⟨["", "db", "tmp", "7-0.temp.db"]⟩, .create]).Promises := by
  have computed : (opening.1.toOption.map fun storage =>
      ((since storage [.create, .removed ⟨["", "db", "tmp", "7-0.temp.db"]⟩, .create]).created,
        (since storage [.create, .removed ⟨["", "db", "tmp", "7-0.temp.db"]⟩, .create]).left)) =
      some ([⟨["", "db", "tmp", "7-0.temp.db"]⟩, ⟨["", "db", "tmp", "7-1.temp.db"]⟩],
        [⟨["", "db", "tmp", "7-1.temp.db"]⟩]) := by
    decide +kernel
  obtain ⟨storage, opened, counted⟩ := Option.map_eq_some_iff.1 computed
  have opened := toOption_eq_some.1 opened
  exact ⟨storage, opened, Prod.mk.injEq .. ▸ counted, promises_kept opened opening.2 _⟩

/-- Four files as long as files can be. -/
def longest : List Event :=
  [.create, .create, .create, .create] ++
    [1, 2, 3, 4].map fun id => .written id (·.resize OpenFile.largestOffset)

/-- Four such files have more bytes than 64 bits can count, and gaining space breaks off: it gives
no answer, and one of the files is still there. -/
theorem freed_overflows : ∃ storage,
    (Storage.openAt .empty ⟨["", "db"]⟩ .testing "7").1 = .ok storage ∧
      (since storage longest).disk.total (since storage longest).left =
        4 * OpenFile.largestOffset ∧
      ((since storage longest).storage.freeSpace (since storage longest).disk 1).1 = none ∧
      (since storage (longest ++ [.free 1])).left = [⟨["", "db", "tmp", "7-3.temp.db"]⟩] := by
  have computed : (opening.1.toOption.map fun storage =>
      ((since storage longest).disk.total (since storage longest).left,
        ((since storage longest).storage.freeSpace (since storage longest).disk 1).1.isNone,
        (since storage (longest ++ [.free 1])).left)) =
      some (4 * OpenFile.largestOffset, true, [⟨["", "db", "tmp", "7-3.temp.db"]⟩]) := by
    decide +kernel
  obtain ⟨storage, opened, told⟩ := Option.map_eq_some_iff.1 computed
  simp only [Prod.mk.injEq, Option.isNone_iff_eq_none] at told
  exact ⟨storage, toOption_eq_some.1 opened, told⟩

end Workroom

end DurableStore
