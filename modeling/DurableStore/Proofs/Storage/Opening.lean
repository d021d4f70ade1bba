import DurableStore.Proofs.Storage.Directory

/-!
Opening the storage of a database, whatever state its directory is in.

A lasting file of the directory is missing or holds a row of blocks with a remnant behind it
(`Holding`).  Opening and recovering such a file makes the remnant go away and changes nothing that
belongs to another lasting name (`recover_holding`); the storage then goes on above the last
reservation that can be read (`openAt_holding`).
-/

namespace DurableStore

open FileSystem

/-! ## Lasting files -/

/-- The file that stands under a lasting name, if one does, and what it holds. -/
inductive Holding (disk : FileSystem) (path : Path) (name : String) (limit : Nat) :
    Option FileId → List Bytes → Option Bytes → Prop where
  /-- No file stands there. -/
  | missing (nothing : ∀ id, disk.find? (path.child name).destination ≠ some (.file id)) :
      Holding disk path name limit none [] none
  /-- A file of blocks stands there. -/
  | there {id : FileId} {payloads : List Bytes} {torn : Option Bytes}
      (resolved : disk.resolve (path.child name) = .ok (.file id))
      (stores : disk.Stores id limit payloads torn) :
      Holding disk path name limit (some id) payloads torn

/-- The second disk differs from the first in what tidying changes, in the entry of one lasting
name, which is not taken from a file, and in the bytes of one file. -/
structure Readies (path : Path) (name : String) (id : FileId) (before after : FileSystem) :
    Prop where
  keeps : KeepsDirectories before after
  own : ∀ file, before.find? (path.child name).destination = some (.file file) →
    after.find? (path.child name).destination = some (.file file)
  names : ∀ other, Lasting other → other ≠ name →
    after.find? (path.child other).destination = before.find? (path.child other).destination ∨
      before.find? (path.child other).destination = none ∧
        after.find? (path.child other).destination = some .directory
  size : before.contents.size ≤ after.contents.size
  contents : ∀ other, other ≠ id → other < before.contents.size →
    after.content other = before.content other
  memory : after.memory = before.memory

namespace Readies

variable {path : Path} {name : String} {id : FileId} {first second third : FileSystem}

theorem trans (h : Readies path name id first second) (h' : Readies path name id second third) :
    Readies path name id first third := by
  refine ⟨fun location directory => h'.keeps _ (h.keeps _ directory),
    fun file there => h'.own file (h.own file there), ?_,
    Nat.le_trans h.size h'.size, ?_, h'.memory.trans h.memory⟩
  · intro other lasting differs
    rcases h.names other lasting differs with same | ⟨none, made⟩
    · rw [← same]
      exact h'.names other lasting differs
    · exact .inr ⟨none, h'.keeps _ made⟩
  · intro other differs below
    rw [h'.contents other differs (Nat.lt_of_lt_of_le below h.size)]
    exact h.contents other differs below

theorem of_tidied (lasting : Lasting name) (h : Tidied path first second) :
    Readies path name id first second := by
  refine ⟨h.keeps, ?_, fun other lasting _ => h.names other lasting,
    Nat.le_of_eq (congrArg Array.size h.contents).symm, ?_, h.memory⟩
  · intro file there
    rcases h.names name lasting with same | ⟨none, -⟩
    · rw [same, there]
    · rw [none] at there
      cases there
  · intro other _ _
    unfold FileSystem.content FileSystem.stored
    rw [h.contents]

theorem of_altersOnly (h : AltersOnly id first second) : Readies path name id first second := by
  refine ⟨?_, ?_, fun other _ _ => .inl (h.find? _),
    Nat.le_of_eq h.size.symm, fun other differs _ => h.others other differs, h.memory⟩
  · intro location directory
    rw [h.find?, directory]
  · intro file there
    rw [h.find?, there]

/-- A new file changes no bytes, and takes a name that was free. -/
theorem of_created (lasting : Lasting name)
    (vacant : first.find? (path.child name).destination = none)
    (created : second = { first.named (path.child name).destination (.file first.contents.size) with
      contents := first.contents.push .empty }) : Readies path name id first second := by
  have names (location : Location) : second.find? location =
      (first.named (path.child name).destination (.file first.contents.size)).find? location := by
    rw [created]
    rfl
  refine ⟨?_, ?_, fun other lasting' differs => .inl ?_,
    ?_, ?_, ?_⟩
  · intro location directory
    rw [names]
    exact keeps_named vacant _ location directory
  · intro file there
    rw [vacant] at there
    cases there
  · rw [names, find?_named, if_neg (lasting'.ne_of_ne lasting differs path)]
  · rw [created]
    simp
  · intro other _ below
    rw [created]
    have differs : other ≠ first.contents.size := Nat.ne_of_lt below
    simp [FileSystem.content, FileSystem.stored, Array.getD_eq_getD_getElem?, Array.getElem?_push,
      differs]
  · rw [created]
    rfl

/-- A lasting file stays where it is. -/
theorem resolve (h : Readies path name id first second) {other : String} (lasting : Lasting other)
    {file : FileId} (there : first.resolve (path.child other) = .ok (.file file)) :
    second.resolve (path.child other) = .ok (.file file) := by
  have found := (resolve_eq_ok_iff.1 there).2
  refine resolve_of_keeps h.keeps there ?_
  rw [found]
  by_cases same : other = name
  · subst same
    exact h.own file found
  · rcases h.names other lasting same with same | ⟨none, -⟩
    · rw [same, found]
    · rw [none] at found
      cases found

end Readies

namespace Holding

variable {before after disk : FileSystem} {path : Path} {name other : String} {limit : Nat}
  {file : Option FileId} {payloads : List Bytes} {torn : Option Bytes}

theorem of_tidied (h : Holding before path name limit file payloads torn) (lasting : Lasting name)
    (tidied : Tidied path before after) : Holding after path name limit file payloads torn := by
  cases h with
  | missing nothing =>
    refine .missing ?_
    intro id found
    rcases tidied.names name lasting with same | ⟨-, made⟩
    · exact nothing id (same ▸ found)
    · rw [made] at found
      cases found
  | there resolved stores =>
    have readies : Readies path name before.contents.size before after := .of_tidied lasting tidied
    exact .there (readies.resolve lasting resolved)
      (stores.of_content readies.size
        (readies.contents _ (Nat.ne_of_lt stores.there) stores.there))

/-- What belongs to one lasting name is not touched by what is done to another. -/
theorem of_readies (h : Holding before path other limit file payloads torn)
    (lasting : Lasting other) (differs : other ≠ name) {id : FileId} (apart : file ≠ some id)
    (readies : Readies path name id before after) :
    Holding after path other limit file payloads torn := by
  cases h with
  | missing nothing =>
    refine .missing ?_
    intro id found
    rcases readies.names other lasting differs with same | ⟨-, made⟩
    · exact nothing id (same ▸ found)
    · rw [made] at found
      cases found
  | there resolved stores =>
    exact .there (readies.resolve lasting resolved)
      (stores.of_content readies.size
        (readies.contents _ (fun same => apart (congrArg some same)) stores.there))

theorem lt_size (h : Holding disk path name limit file payloads torn) {id : FileId}
    (there : file = some id) : id < disk.contents.size := by
  cases h with
  | missing => cases there
  | there _ stores => cases there; exact stores.there

end Holding

/-! ## Opening and recovering one lasting file -/

/-- A lasting file was opened, and nothing but whole blocks is in it. -/
structure Opened (path : Path) (name : String) (limit : Nat) (before : FileSystem)
    (file : Option FileId) (payloads : List Bytes) (id : FileId) (blocks : BlockFile)
    (after : FileSystem) : Prop where
  same : ∀ other ∈ file, other = id
  new : file = none → before.contents.size ≤ id
  shape : ∃ syncWrites, blocks = .fresh (path.child name) limit id syncWrites
  resolved : after.resolve (path.child name) = .ok (.file id)
  intact : blocks.Intact after id payloads none
  readies : Readies path name id before after

/-- A file that stood under another name before is not the one that was opened. -/
theorem Opened.apart {path : Path} {name other : String} {limit : Nat} {before after : FileSystem}
    {file : Option FileId} {payloads : List Bytes} {id : FileId} {blocks : BlockFile}
    (h : Opened path name limit before file payloads id blocks after) {file' : Option FileId}
    {payloads' : List Bytes} {torn : Option Bytes}
    (holding : Holding before path other limit file' payloads' torn)
    (apart : ∀ shared, file = some shared → file' ≠ some shared) : file' ≠ some id := by
  intro same
  cases there : file with
  | none => exact Nat.not_lt.2 (h.new there) (holding.lt_size same)
  | some shared =>
    obtain rfl : shared = id := h.same shared there
    exact apart shared there same

/-- An open block file that writes to a lasting file of the database at `path`. -/
structure Attached (blocks : BlockFile) (disk : FileSystem) (path : Path) (name : String)
    (limit : Nat) (id : FileId) (payloads : List Bytes) (torn : Option Bytes) : Prop where
  resolved : disk.resolve (path.child name) = .ok (.file id)
  limited : blocks.limit = limit
  intact : blocks.Intact disk id payloads torn

namespace Attached

variable {blocks : BlockFile} {before after disk : FileSystem} {path : Path} {name other : String}
  {limit : Nat} {id : FileId} {payloads : List Bytes} {torn : Option Bytes}

theorem of_opened {file : Option FileId}
    (h : Opened path name limit before file payloads id blocks after) :
    Attached blocks after path name limit id payloads none := by
  obtain ⟨syncWrites, rfl⟩ := h.shape
  exact ⟨h.resolved, rfl, h.intact⟩

theorem holding (h : Attached blocks disk path name limit id payloads torn) :
    Holding disk path name limit (some id) payloads torn :=
  .there h.resolved (h.limited ▸ h.intact.stores)

theorem of_tidied (h : Attached blocks before path name limit id payloads torn)
    (lasting : Lasting name) (tidied : Tidied path before after) :
    Attached blocks after path name limit id payloads torn := by
  have readies : Readies path name before.contents.size before after := .of_tidied lasting tidied
  have there := h.intact.stores.there
  exact ⟨readies.resolve lasting h.resolved, h.limited,
    h.intact.of_content readies.size (readies.contents _ (Nat.ne_of_lt there) there)⟩

/-- What is done to another lasting file leaves this one alone. -/
theorem of_readies (h : Attached blocks before path name limit id payloads torn)
    (lasting : Lasting name) {file : FileId} (apart : id ≠ file)
    (readies : Readies path other file before after) :
    Attached blocks after path name limit id payloads torn :=
  ⟨readies.resolve lasting h.resolved, h.limited,
    h.intact.of_content readies.size (readies.contents id apart h.intact.stores.there)⟩

end Attached

section Recovering

variable {disk opened : FileSystem} {path : Path} {name : String} {limit : Nat} {syncWrites : Bool}
  {file : Option FileId} {payloads : List Bytes} {torn : Option Bytes} {blocks : BlockFile}

/-- **A lasting file that could be opened is recovered**, unless memory cannot hold it. -/
theorem recover_holding (bounded : limit ≤ Config.largestBlockLimit) (lasting : Lasting name)
    (holding : Holding disk path name limit file payloads torn)
    (h : BlockFile.openAt disk (path.child name) limit syncWrites = (.ok blocks, opened)) (policy : Policy)
    (asked : List Mismatch) :
    (∃ id whole after,
        blocks.recover policy asked opened =
          { result := .ok (.ofRow payloads torn), asked, blocks := whole, disk := after } ∧
        Opened path name limit disk file (legible payloads torn) id whole after) ∨
      ∃ id fault, file = some id ∧ disk.memory.bytes < disk.length id ∧
        blocks.recover policy asked opened =
          { result := .error fault, asked, blocks, disk } := by
  cases holding with
  | missing nothing =>
    obtain ⟨id, rfl, resolved, rfl | ⟨vacant, rfl, created⟩⟩ := BlockFile.openAt_eq_ok h
    · exact absurd (resolve_eq_ok_iff.1 resolved).2 (nothing id)
    -- The file is new, so there is nothing in it to recover.
    · have readies : Readies path name disk.contents.size disk opened :=
        .of_created lasting vacant created
      have stores : opened.Stores disk.contents.size limit [] none := by
        refine ⟨?_, ?_, by simp, by simp⟩
        · rw [created]
          simp
        · rw [created]
          simp [FileSystem.content, FileSystem.stored, remnant]
      have holds : opened.length disk.contents.size ≤ opened.memory.bytes := by
        rw [← FileSystem.length_content, stores.content]
        simp [remnant]
      obtain ⟨after, recovered, alters, intact⟩ :=
        BlockFile.recover_of_stores (.fresh _ limit _ syncWrites) bounded rfl stores holds
          policy asked
      have cut : Readies path name disk.contents.size opened after := .of_altersOnly alters
      exact .inl ⟨_, _, after, recovered, by simp, fun _ => Nat.le_refl _,
        ⟨syncWrites, rfl⟩,
        cut.resolve lasting resolved, intact, readies.trans cut⟩
  | @there id _ _ resolved stores =>
    rw [BlockFile.openAt_of_resolve resolved] at h
    cases h
    rcases Nat.lt_or_ge disk.memory.bytes (disk.length id) with large | holds
    · obtain ⟨fault, refused⟩ :=
        BlockFile.recover_of_lt_length (.fresh _ limit _ syncWrites) rfl large policy asked
      exact .inr ⟨id, fault, rfl, large, refused⟩
    · obtain ⟨after, recovered, alters, intact⟩ :=
        BlockFile.recover_of_stores (.fresh _ limit _ syncWrites) bounded rfl stores holds
          policy asked
      have cut : Readies path name id disk after := .of_altersOnly alters
      exact .inl ⟨id, _, after, recovered, fun _ same => (Option.some.inj same).symm, by simp,
        ⟨syncWrites, rfl⟩,
        cut.resolve lasting resolved, intact, cut⟩

/-- Opening a lasting file and recovering it, one after the other. -/
theorem openAt_recover_holding (bounded : limit ≤ Config.largestBlockLimit)
    (lasting : Lasting name) (holding : Holding disk path name limit file payloads torn)
    (policy : Policy) (asked : List Mismatch) :
    (∃ fault, BlockFile.openAt disk (path.child name) limit syncWrites = (.error fault, disk) ∧
        file = none) ∨
      ∃ blocks opened, BlockFile.openAt disk (path.child name) limit syncWrites = (.ok blocks, opened) ∧
        ((∃ id whole after,
            blocks.recover policy asked opened =
              { result := .ok (.ofRow payloads torn), asked, blocks := whole, disk := after } ∧
            Opened path name limit disk file (legible payloads torn) id whole after) ∨
          ∃ id fault, file = some id ∧ disk.memory.bytes < disk.length id ∧
            blocks.recover policy asked opened =
              { result := .error fault, asked, blocks, disk }) := by
  cases opens : BlockFile.openAt disk (path.child name) limit syncWrites with
  | mk result opened =>
    cases result with
    | error fault =>
      obtain rfl := BlockFile.openAt_eq_error opens
      refine .inl ⟨fault, rfl, ?_⟩
      cases holding with
      | missing => rfl
      | there resolved =>
        rw [BlockFile.openAt_of_resolve resolved] at opens
        cases opens
    | ok blocks =>
      exact .inr ⟨blocks, opened, rfl, recover_holding bounded lasting holding opens policy asked⟩

end Recovering

/-! ## Opening the storage -/

namespace Storage

/-- The storage of a database as it is opened. -/
def initial (path : Path) (config : Config) (owner : String) (ids : ObjectIds)
    (idFile : Option BlockFile) : Storage :=
  { path, config, owner, ids, idFile
    writeState := if config.readOnly then .readOnly else .writable
    power := .ofCountdown config.powerOffCountdown }

variable {disk : FileSystem} {path : Path} {config : Config} {file : Option FileId}
  {payloads : List Bytes} {torn : Option Bytes}

theorem loadIds_of_writable (bounded : config.blockLimit ≤ Config.largestBlockLimit)
    (writable : config.readOnly = false)
    (holding : Holding disk path idFileName config.blockLimit file payloads torn) :
    (∃ fault, loadIds disk path config = (.error fault, disk) ∧
        ∀ id, file = some id → disk.memory.bytes < disk.length id) ∨
      ∃ id blocks after,
        loadIds disk path config = (.ok (idsAbove (legible payloads torn), some blocks), after) ∧
        Opened path idFileName config.blockLimit disk file (legible payloads torn) id blocks
          after := by
  unfold loadIds
  simp only [writable, Bool.false_eq_true, if_false]
  rcases openAt_recover_holding bounded lasting_idFileName holding .fail [] with
    ⟨fault, refused, none⟩ | ⟨blocks, opened, opens, ⟨id, whole, after, recovered, ready⟩ |
      ⟨id, fault, there, large, refused⟩⟩
  · rw [refused]
    refine .inl ⟨fault, rfl, ?_⟩
    intro id there
    rw [none] at there
    cases there
  · rw [opens]
    simp only [recovered]
    refine .inr ⟨id, whole, after, ?_, ready⟩
    simp only [Except.map, Recovery.payloads_ofRow]
  · rw [opens]
    simp only [refused]
    refine .inl ⟨fault, rfl, ?_⟩
    intro other there'
    rw [there] at there'
    cases there'
    exact large

theorem loadIds_of_readOnly (bounded : config.blockLimit ≤ Config.largestBlockLimit)
    (readOnly : config.readOnly = true)
    (holding : Holding disk path idFileName config.blockLimit file payloads torn) :
    (∃ fault, loadIds disk path config = (.error fault, disk) ∧
        ∀ id, file = some id → disk.memory.bytes < disk.length id) ∨
      loadIds disk path config = (.ok (idsAbove (legible payloads torn), none), disk) := by
  unfold loadIds
  simp only [readOnly, if_true]
  cases holding with
  | missing nothing =>
    cases opens : BlockFile.openExisting disk (path.child idFileName) config.blockLimit with
    | error fault =>
      split
      next => exact .inr rfl
      next => exact .inl ⟨_, rfl, by simp⟩
      next opened => cases opened
    | ok blocks =>
      simp only
      obtain ⟨target, resolved, rfl⟩ := BlockFile.openExisting_eq_ok opens
      cases target with
      | directory => exact .inl ⟨_, rfl, by simp⟩
      | file id => exact absurd (resolve_eq_ok_iff.1 resolved).2 (nothing id)
  | @there id _ _ resolved stores =>
    rw [BlockFile.openExisting_of_resolve resolved]
    simp only
    rcases Nat.lt_or_ge disk.memory.bytes (disk.length id) with large | holds
    · obtain ⟨fault, refused⟩ := BlockFile.scan_of_lt_length
        (.existing (path.child idFileName) config.blockLimit id) rfl large .fail []
      rw [refused]
      refine .inl ⟨fault, rfl, ?_⟩
      intro other same
      cases same
      exact large
    · rw [BlockFile.scan_of_stores (.existing (path.child idFileName) config.blockLimit id) bounded
        rfl stores holds .fail []]
      refine .inr ?_
      simp only [Except.map, Recovery.payloads_ofRow]

/-- **Opening the storage** either fails and leaves the lasting files alone, or goes on above the
last reservation that can be read. -/
theorem openAt_holding {after : FileSystem} {owner : String} {result : Except Fault Storage}
    (holding : Holding disk path idFileName config.blockLimit file payloads torn)
    (h : openAt disk path config owner = (result, after)) :
    (∃ fault, result = .error fault ∧ Tidied path disk after ∧
        Holding after path idFileName config.blockLimit file payloads torn) ∨
      config.problem? = none ∧ config.readOnly = true ∧ after = disk ∧
        result = .ok (initial path config owner (idsAbove (legible payloads torn)) none) ∨
      config.problem? = none ∧ config.readOnly = false ∧ after.isDirectory path = true ∧
        ∃ id blocks,
          result = .ok
            (initial path config owner (idsAbove (legible payloads torn)) (some blocks)) ∧
          Opened path idFileName config.blockLimit disk file (legible payloads torn) id blocks
            after := by
  unfold openAt at h
  cases sound : config.problem? with
  | some problem =>
    rw [sound] at h
    cases h
    exact .inl ⟨_, rfl, .refl path disk, holding⟩
  | none =>
    have bounded := ((Config.problem?_eq_none_iff config).1 sound).2.2.1
    have tidied := prepareDirectory_tidied disk path config
    rw [sound] at h
    simp only at h
    cases prepares : prepareDirectory disk path config with
    | mk outcome prepared =>
      rw [prepares] at h tidied
      have holding' := holding.of_tidied lasting_idFileName tidied
      cases outcome with
      | error fault =>
        cases h
        exact .inl ⟨fault, rfl, tidied, holding'⟩
      | ok =>
        simp only at h
        cases mode : config.readOnly with
        | true =>
          obtain rfl := prepareDirectory_of_readOnly mode prepares
          rcases loadIds_of_readOnly bounded mode holding' with ⟨fault, refused, -⟩ | loaded
          · rw [refused] at h
            cases h
            exact .inl ⟨fault, rfl, tidied, holding'⟩
          · rw [loaded] at h
            cases h
            exact .inr (.inl ⟨rfl, rfl, rfl, rfl⟩)
        | false =>
          rcases loadIds_of_writable bounded mode holding' with
            ⟨fault, refused, -⟩ | ⟨id, blocks, loadedDisk, loaded, opened⟩
          · rw [refused] at h
            cases h
            exact .inl ⟨fault, rfl, tidied, holding'⟩
          · rw [loaded] at h
            cases h
            refine .inr (.inr ⟨rfl, rfl, ?_, id, blocks, rfl, opened.same, ?_, opened.shape,
              opened.resolved, opened.intact,
              (Readies.of_tidied lasting_idFileName tidied).trans opened.readies⟩)
            · exact isDirectory_of_keeps opened.readies.keeps (prepareDirectory_eq_ok prepares)
            · intro new
              rw [← congrArg Array.size tidied.contents]
              exact opened.new new

/-- The storage of a directory that was opened before opens again, if memory can hold its file of
reservations. -/
theorem openAt_of_there {id : FileId} (sound : config.problem? = none)
    (directory : disk.isDirectory path = true)
    (holding : Holding disk path idFileName config.blockLimit (some id) payloads torn)
    (holds : disk.length id ≤ disk.memory.bytes) (owner : String) :
    ∃ storage after, openAt disk path config owner = (.ok storage, after) := by
  have bounded := ((Config.problem?_eq_none_iff config).1 sound).2.2.1
  obtain ⟨prepared, prepares⟩ := prepareDirectory_of_isDirectory config directory
  have tidied : Tidied path disk prepared := by
    have := prepareDirectory_tidied disk path config
    rwa [prepares] at this
  have holding' := holding.of_tidied lasting_idFileName tidied
  have fits : prepared.length id ≤ prepared.memory.bytes := by
    unfold FileSystem.length FileSystem.stored at holds ⊢
    rwa [tidied.contents, tidied.memory]
  unfold openAt
  rw [sound, prepares]
  simp only
  cases mode : config.readOnly with
  | true =>
    rcases loadIds_of_readOnly bounded mode holding' with ⟨fault, -, large⟩ | loaded
    · exact absurd (large id rfl) (Nat.not_lt.2 fits)
    · rw [loaded]
      exact ⟨_, prepared, rfl⟩
  | false =>
    rcases loadIds_of_writable bounded mode holding' with
      ⟨fault, -, large⟩ | ⟨_, blocks, after, loaded, -⟩
    · exact absurd (large id rfl) (Nat.not_lt.2 fits)
    · rw [loaded]
      exact ⟨_, after, rfl⟩

end Storage

end DurableStore
