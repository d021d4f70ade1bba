import DurableStore.Proofs.ObjectIds.Handles
import DurableStore.Proofs.Storage.Scratch

/-!
An id that could not be handed out.

A `Desk` is a database directory with the handle that is open on it, if one is, and with the ids
that were handed out.  Handles are opened, do all that a storage can do, and are lost in crashes,
while others write to the disk.  When an allocation fails, the ids are as they were before it; what
the handle then hands out as fresh lies above all that it handed out, and as long as nobody else
writes the reservations, above all that any handle did (`Desk.allocateId_refused`).
-/

namespace DurableStore

open FileSystem ObjectIds

/-! ## What does not concern the ids -/

namespace Storage

variable {storage : Storage} {disk : FileSystem}

/-- The second storage has the ids of the first, and writes their reservations to the same file. -/
structure KeepsIds (before after : Storage) : Prop where
  path : after.path = before.path
  ids : after.ids = before.ids
  idFile : after.idFile = before.idFile

/-- Ids change only when a request is served. -/
theorem keepsIds_perform (storage : Storage) (disk : FileSystem) {operation : Operation}
    (other : ∀ request, operation ≠ .serve request) :
    storage.KeepsIds (storage.perform disk operation).1 := by
  cases manages : operation.managesScratch with
  | true =>
    obtain ⟨_, _, _, same, -⟩ := managed_perform storage disk manages
    rw [same]
    exact ⟨rfl, rfl, rfl⟩
  | false =>
    cases operation with
    | serve request => exact absurd rfl (other request)
    | appendBlock blocks payload =>
      obtain ⟨power, appended⟩ := appendBlock_storage storage blocks payload disk
      show storage.KeepsIds (storage.appendBlock blocks payload disk).storage
      rw [appended]
      exact ⟨rfl, rfl, rfl⟩
    | openFile | openBlockFile => exact ⟨rfl, rfl, rfl⟩
    | recoverBlocks | verify | reportMismatch | setPolicy | checkPower => exact ⟨rfl, rfl, rfl⟩
    | createScratch | freeSpace | close => cases manages

/-- The storage without its scratch files. -/
def swept (storage : Storage) : Storage :=
  { storage with scratch := [] }

theorem reserveId_swept (storage : Storage) (disk : FileSystem) (id : ObjectId) (space : IdSpace) :
    storage.swept.reserveId disk id space =
      ((storage.reserveId disk id space).1, (storage.reserveId disk id space).2.1.swept,
        (storage.reserveId disk id space).2.2) := by
  have writes : storage.swept.writeReservation disk =
      ((storage.writeReservation disk).1, (storage.writeReservation disk).2.1.swept,
        (storage.writeReservation disk).2.2) := by
    have named : storage.swept.idFile = storage.idFile := rfl
    unfold writeReservation
    rw [named]
    cases storage.idFile <;> rfl
  unfold reserveId
  rw [writes]
  rcases storage.writeReservation disk with ⟨_ | _, later, after⟩ <;> rfl

theorem allocateId_swept (storage : Storage) (disk : FileSystem) (needFresh : Bool)
    (space : IdSpace) :
    storage.swept.allocateId disk needFresh space =
      ((storage.allocateId disk needFresh space).1,
        (storage.allocateId disk needFresh space).2.1.swept,
        (storage.allocateId disk needFresh space).2.2) := by
  have same : storage.swept.ensureOpen = storage.ensureOpen := rfl
  have takes : storage.swept.takeId needFresh space =
      ((storage.takeId needFresh space).1, (storage.takeId needFresh space).2.swept) := rfl
  unfold allocateId
  rw [same, takes]
  cases storage.ensureOpen with
  | error => rfl
  | ok =>
    rcases storage.takeId needFresh space with ⟨fault | allocation, later⟩
    · rfl
    · cases advanced : allocation.advanced with
      | false => simp only [advanced, Bool.false_eq_true, if_false]
      | true =>
        have reserves : later.swept.checkReserving = later.checkReserving := rfl
        simp only [advanced, if_true, reserves]
        cases later.checkReserving with
        | error => rfl
        | ok => exact later.reserveId_swept disk allocation.id space

/-- Scratch files do not matter to what a request is answered with. -/
theorem serve_swept (storage : Storage) (disk : FileSystem) (request : Request) :
    storage.swept.serve disk request =
      ((storage.serve disk request).1, (storage.serve disk request).2.1.swept,
        (storage.serve disk request).2.2) := by
  cases request with
  | allocateId needFresh space => simp only [serve, allocateId_swept]
  | setWriteState state =>
    have same : storage.swept.config = storage.config := rfl
    simp only [serve, setWriteState, same]
    split <;> rfl
  | retainId | releaseId | armPower | resetPower => rfl

theorem loadIds_starts {path : Path} {config : Config} {ids : ObjectIds} {idFile : Option BlockFile}
    {after : FileSystem} (loads : loadIds disk path config = (.ok (ids, idFile), after))
    (space : IdSpace) : ∃ mark, ids.ledger space = .ofMark mark := by
  unfold loadIds at loads
  simp only at loads
  split at loads
  next =>
    split at loads
    next =>
      cases loads
      cases space <;> exact ⟨firstId, rfl⟩
    next => cases loads
    next blocks _ =>
      cases scanned : (blocks.scan .fail [] disk).1 with
      | error => simp [scanned, Except.map] at loads
      | ok recovery =>
        simp only [scanned, Except.map] at loads
        cases loads
        exact ledger_idsAbove recovery.payloads space
  next =>
    split at loads
    next => cases loads
    next blocks opened _ =>
      cases recovered : (blocks.recover .fail [] opened).result with
      | error => simp [recovered, Except.map] at loads
      | ok recovery =>
        simp only [recovered, Except.map] at loads
        cases loads
        exact ledger_idsAbove recovery.payloads space

/-- A handle starts above the marks that it read, and has no scratch files. -/
theorem openAt_starts {path : Path} {config : Config} {owner : String} {after : FileSystem}
    (opens : openAt disk path config owner = (.ok storage, after)) :
    storage.scratch = [] ∧ ∀ space, ∃ mark, storage.ids.ledger space = .ofMark mark := by
  unfold openAt at opens
  split at opens
  next => cases opens
  next =>
    split at opens
    next => cases opens
    next =>
      split at opens
      next => cases opens
      next loads =>
        cases opens
        exact ⟨rfl, loadIds_starts loads⟩

end Storage

/-- The second disk has the reservations of the first. -/
structure SparesReservations (path : Path) (before after : FileSystem) : Prop where
  missing : (∀ id, before.find? (path.child Storage.idFileName).destination ≠ some (.file id)) →
    ∀ id, after.find? (path.child Storage.idFileName).destination ≠ some (.file id)
  there : ∀ id < before.contents.size,
    before.resolve (path.child Storage.idFileName) = .ok (.file id) →
      after.resolve (path.child Storage.idFileName) = .ok (.file id) ∧
        after.content id = before.content id
  size : before.contents.size ≤ after.contents.size

namespace SparesReservations

variable {path : Path} {before after disk : FileSystem} {limit : Nat} {file : Option FileId}
  {payloads : List Bytes} {torn : Option Bytes} {log : List (IdSpace × ObjectId)}
  {storage storage' : Storage}

theorem refl (path : Path) (disk : FileSystem) : SparesReservations path disk disk :=
  ⟨fun h => h, fun _ _ h => ⟨h, rfl⟩, Nat.le_refl _⟩

theorem trans {first second third : FileSystem} (h : SparesReservations path first second)
    (h' : SparesReservations path second third) : SparesReservations path first third := by
  refine ⟨fun nothing => h'.missing (h.missing nothing), ?_, Nat.le_trans h.size h'.size⟩
  intro id stored resolved
  obtain ⟨resolved', content⟩ := h.there id stored resolved
  obtain ⟨resolved'', content'⟩ := h'.there id (Nat.lt_of_lt_of_le stored h.size) resolved'
  exact ⟨resolved'', content'.trans content⟩

/-- The reservations do not stand among the scratch files. -/
theorem of_spares (spares : Spares path before after) : SparesReservations path before after := by
  have names := spares.names _ (Storage.not_inScratch lasting_idFileName path)
  refine ⟨?_, ?_, spares.size⟩
  · rw [names]
    exact id
  · intro id stored resolved
    exact ⟨resolve_of_keeps spares.keeps resolved names, spares.contents id stored⟩

theorem of_tidied (tidied : Tidied path before after) : SparesReservations path before after := by
  have names := tidied.names _ lasting_idFileName
  refine ⟨?_, ?_, Nat.le_of_eq (congrArg Array.size tidied.contents).symm⟩
  · intro nothing id found
    rcases names with same | ⟨-, directory⟩
    · exact nothing id (same.symm.trans found)
    · cases directory.symm.trans found
  · intro id _ resolved
    rcases names with same | ⟨nothing, -⟩
    · refine ⟨resolve_of_keeps tidied.keeps resolved same, ?_⟩
      unfold content FileSystem.stored
      rw [tidied.contents]
    · cases nothing.symm.trans (resolve_eq_ok_iff.1 resolved).2

theorem holding (h : SparesReservations path before after)
    (holding : Holding before path Storage.idFileName limit file payloads torn) :
    Holding after path Storage.idFileName limit file payloads torn := by
  cases holding with
  | missing nothing => exact .missing (h.missing nothing)
  | there resolved stores =>
    obtain ⟨resolved', content⟩ := h.there _ stores.there resolved
    exact .there resolved' (stores.of_content h.size content)

theorem attached {blocks : BlockFile} {id : FileId} (h : SparesReservations path before after)
    (attached : Attached blocks before path Storage.idFileName limit id payloads torn) :
    Attached blocks after path Storage.idFileName limit id payloads torn := by
  obtain ⟨resolved, content⟩ := h.there _ attached.intact.stores.there attached.resolved
  exact ⟨resolved, attached.limited, attached.intact.of_content h.size content⟩

theorem books (h : SparesReservations path before after)
    (books : Books path limit before log file payloads torn) :
    Books path limit after log file payloads torn :=
  ⟨h.holding books.holding, books.plain, books.covered⟩

theorem keeper (h : SparesReservations path before after) (keeps : storage.KeepsIds storage')
    (keeper : Keeper path limit before log file payloads torn storage.swept) :
    Keeper path limit after log file payloads torn storage'.swept := by
  refine ⟨keeps.path.trans keeper.place, rfl, ?_, ?_⟩
  · intro blocks same
    obtain ⟨id, rfl, attached⟩ := keeper.backed blocks (keeps.idFile ▸ same)
    exact ⟨id, rfl, h.attached attached⟩
  · show storage'.ids.Accounts _ _
    rw [keeps.ids]
    exact keeper.accounts

end SparesReservations

namespace Storage

variable {path : Path} {storage : Storage}

/-- Creating a scratch file spares the reservations, wherever the directory of scratch files has to
be made. -/
theorem createScratch_sparesReservations (place : storage.path = path) (disk : FileSystem) :
    SparesReservations path disk (storage.createScratch disk).2.2 := by
  subst place
  have makes : SparesReservations storage.path disk
      (disk.makeDirectories storage.scratchDirectory).2 :=
    .of_tidied (.of_grows (makeDirectories_grows disk storage.scratchDirectory))
  unfold createScratch
  split
  next => exact .refl storage.path disk
  next =>
    unfold makeScratch
    simp only
    split
    next kind between made =>
      rw [made] at makes
      exact makes
    next between made =>
      rw [made] at makes
      obtain ⟨spares, -⟩ := createFrom_spares between storage.path storage.owner
        (between.entries.length + 1) storage.scratchCounter
      split
      next => exact makes.trans (.of_spares spares)
      next => exact makes.trans (.of_spares spares)

end Storage

/-! ## A desk and its moves -/

/-- A database directory with the handle that is open on it and the ids that were handed out, each
with its space. -/
structure Desk where
  disk : FileSystem
  storage : Option Storage := none
  /-- The ids that the open handle handed out. -/
  issued : List (IdSpace × ObjectId) := []
  /-- The ids that any handle handed out. -/
  handed : List (IdSpace × ObjectId) := []

namespace Operation

/-- The ids that an operation hands out. -/
def issues (storage : Storage) (disk : FileSystem) : Operation → List (IdSpace × ObjectId)
  | .serve request => Service.issued request (storage.serve disk request).1
  | _ => []

/-- The operation is about a file that its caller names. -/
def namesFile : Operation → Bool
  | .openFile .. | .openBlockFile _ | .recoverBlocks _ | .appendBlock .. => true
  | _ => false

/-- Apart from requests, only operations on a file that their caller names can get at the
reservations. -/
theorem perform_sparesReservations {path : Path} {storage : Storage} (tidy : storage.Tidy)
    (place : storage.path = path) (disk : FileSystem) {operation : Operation}
    (other : ∀ request, operation ≠ .serve request) (unnamed : operation.namesFile = false) :
    SparesReservations path disk (storage.perform disk operation).2 := by
  cases operation with
  | serve request => exact absurd rfl (other request)
  | createScratch => exact storage.createScratch_sparesReservations place disk
  | freeSpace requested =>
    subst place
    exact .of_spares (storage.freeSpace_spares tidy disk requested).1
  | close =>
    subst place
    exact .of_spares (storage.close_spares tidy disk).1
  | openFile | openBlockFile | recoverBlocks | appendBlock => cases unnamed
  | _ => exact .refl path disk

theorem serves_or_not (operation : Operation) :
    (∃ request, operation = .serve request) ∨ ∀ request, operation ≠ .serve request := by
  cases operation with
  | serve request => exact .inl ⟨request, rfl⟩
  | _ => exact .inr nofun

theorem issues_of_other {operation : Operation} (other : ∀ request, operation ≠ .serve request)
    (storage : Storage) (disk : FileSystem) : operation.issues storage disk = [] := by
  cases operation with
  | serve request => exact absurd rfl (other request)
  | _ => rfl

end Operation

namespace Desk

/-- What happens at a desk. -/
inductive Move where
  /-- The handle is lost, if there was one, and another one is opened. -/
  | reopen (config : Config) (owner : String)
  /-- The open handle carries an operation out. -/
  | perform (operation : Operation)
  /-- Others leave this disk behind. -/
  | outside (disk : FileSystem)

/-- What a move does at the desk of the directory at `path`. -/
def move (path : Path) (desk : Desk) : Move → Desk
  | .reopen config owner =>
    match Storage.openAt desk.disk path config owner with
    | (.ok storage, disk) => { desk with disk, storage := some storage, issued := [] }
    | (.error _, disk) => { desk with disk, storage := none, issued := [] }
  | .perform operation =>
    match desk.storage with
    | some storage =>
      let (later, disk) := storage.perform desk.disk operation
      let ids := operation.issues storage desk.disk
      { disk, storage := some later, issued := desk.issued ++ ids, handed := desk.handed ++ ids }
    | none => desk
  | .outside disk => { desk with disk }

/-- What a series of moves does. -/
def run (path : Path) (desk : Desk) (moves : List Move) : Desk :=
  moves.foldl (move path) desk

/-- What the open handle would hand out as fresh lies above the ids of its space in `log`. -/
def FreshAbove (desk : Desk) (log : List (IdSpace × ObjectId)) : Prop :=
  ∀ storage needFresh space id, desk.storage = some storage →
    needFresh = true ∨ (storage.ids.ledger space).free = [] →
    (storage.allocateId desk.disk needFresh space).1 = .ok id →
    ∀ earlier, (space, earlier) ∈ log → earlier < id

/-- Handles are opened with this limit on blocks, and only they write reservations, when they serve
requests: others spare the reservations, and so does what they do to files that they name. -/
def Undisturbed (path : Path) (limit : Nat) : Desk → List Move → Prop
  | _, [] => True
  | desk, next :: rest =>
    (match next with
      | .reopen config _ => config.blockLimit = limit
      | .perform operation => operation.namesFile = true →
        SparesReservations path desk.disk (desk.move path next).disk
      | .outside after => SparesReservations path desk.disk after) ∧
      Undisturbed path limit (desk.move path next) rest

variable {path : Path} {limit : Nat} {desk : Desk} {storage : Storage}

section Moves

variable {config : Config} {owner : String} {disk after : FileSystem}

theorem move_reopen_ok (opens : Storage.openAt desk.disk path config owner = (.ok storage, after)) :
    desk.move path (.reopen config owner) =
      { desk with disk := after, storage := some storage, issued := [] } := by
  simp only [move, opens]

theorem move_reopen_error {fault : Fault}
    (opens : Storage.openAt desk.disk path config owner = (.error fault, after)) :
    desk.move path (.reopen config owner) =
      { desk with disk := after, storage := none, issued := [] } := by
  simp only [move, opens]

theorem move_perform (there : desk.storage = some storage) (operation : Operation) :
    desk.move path (.perform operation) =
      { disk := (storage.perform desk.disk operation).2
        storage := some (storage.perform desk.disk operation).1
        issued := desk.issued ++ operation.issues storage desk.disk
        handed := desk.handed ++ operation.issues storage desk.disk } := by
  simp only [move, there]

theorem move_perform_none (nobody : desk.storage = none) (operation : Operation) :
    desk.move path (.perform operation) = desk := by
  simp only [move, nobody]

end Moves

/-! ## What the open handle hands out -/

/-- The ids of the open handle are in step with those that it handed out. -/
def InStep (desk : Desk) : Prop :=
  ∀ storage, desk.storage = some storage → storage.ids.Tracks desk.issued

theorem run_append (path : Path) (desk : Desk) (moves more : List Move) :
    desk.run path (moves ++ more) = (desk.run path moves).run path more :=
  List.foldl_append

theorem inStep_of_none (nobody : desk.storage = none) : desk.InStep := by
  intro storage there
  rw [nobody] at there
  cases there

theorem InStep.move (h : desk.InStep) (next : Move) : (desk.move path next).InStep := by
  intro later opened
  cases next with
  | reopen config owner =>
    cases opens : Storage.openAt desk.disk path config owner with
    | mk result after =>
      cases result with
      | error fault =>
        rw [move_reopen_error opens] at opened
        cases opened
      | ok storage =>
        rw [move_reopen_ok opens] at opened ⊢
        cases opened
        exact .of_marks (Storage.openAt_starts opens).2
  | perform operation =>
    cases there : desk.storage with
    | none =>
      rw [move_perform_none there] at opened
      rw [there] at opened
      cases opened
    | some storage =>
      rw [move_perform there] at opened ⊢
      cases opened
      have tracks := h storage there
      rcases operation.serves_or_not with ⟨request, rfl⟩ | other
      · exact tracks.serve desk.disk request
      · rw [Operation.issues_of_other other, List.append_nil,
          (storage.keepsIds_perform desk.disk other).ids]
        exact tracks
  | outside disk => exact h later opened

theorem InStep.run (h : desk.InStep) (path : Path) (moves : List Move) :
    (desk.run path moves).InStep := by
  induction moves generalizing desk with
  | nil => exact h
  | cons next rest ih => exact ih (h.move next)

theorem InStep.freshAbove (h : desk.InStep) : desk.FreshAbove desk.issued := by
  intro storage needFresh space id there unforced given earlier before
  have tracks := h storage there
  cases allocates : storage.allocateId desk.disk needFresh space with
  | mk result rest =>
    rw [allocates] at given
    cases given
    rw [(Storage.allocateId_ok tracks allocates).2 unforced]
    exact tracks.below space earlier before

/-! ## What any handle hands out -/

/-- The desk as a service, its scratch files left aside. -/
def service (desk : Desk) : Service :=
  { disk := desk.disk, storage := desk.storage.map Storage.swept, handed := desk.handed }

theorem service_reopen (desk : Desk) (config : Config) (owner : String) :
    (desk.move path (.reopen config owner)).service = desk.service.reopen path config owner := by
  unfold Service.reopen
  cases opens : Storage.openAt desk.disk path config owner with
  | mk result after =>
    have opens' : Storage.openAt desk.service.disk path config owner = (result, after) := opens
    cases result with
    | error fault =>
      rw [move_reopen_error opens, opens']
      rfl
    | ok storage =>
      have sweeps : storage.swept = storage := by
        unfold Storage.swept
        rw [← (Storage.openAt_starts opens).1]
      rw [move_reopen_ok opens, opens']
      simp only [service, Option.map_some, sweeps]

theorem service_serve (desk : Desk) (request : Request) :
    (desk.move path (.perform (.serve request))).service = desk.service.serve request := by
  unfold Service.serve
  cases there : desk.storage with
  | none =>
    rw [move_perform_none there]
    simp only [service, there, Option.map_none]
  | some storage =>
    rw [move_perform there]
    simp only [service, there, Option.map_some, Storage.serve_swept]
    rfl

/-- Whatever does not concern the ids keeps the books in order. -/
theorem inOrder_of_spares {desk' : Desk} (h : desk.service.InOrder path limit)
    (spares : SparesReservations path desk.disk desk'.disk)
    (keeps : ∀ storage', desk'.storage = some storage' →
      ∃ storage, desk.storage = some storage ∧ storage.KeepsIds storage')
    (handed : desk'.handed = desk.handed) : desk'.service.InOrder path limit := by
  obtain ⟨file, payloads, torn, books, keeper⟩ := h
  refine ⟨file, payloads, torn, ?_, ?_⟩
  · show Books path limit desk'.disk desk'.handed file payloads torn
    rw [handed]
    exact spares.books books
  · intro swept there
    obtain ⟨storage', there', rfl⟩ := Option.map_eq_some_iff.1 there
    obtain ⟨storage, was, same⟩ := keeps storage' there'
    show Keeper path limit desk'.disk desk'.handed file payloads torn storage'.swept
    rw [handed]
    exact spares.keeper same (keeper storage.swept (by simp [service, was]))

/-- The open handle hands out nothing but scratch files. -/
def Tidy (desk : Desk) : Prop :=
  ∀ storage, desk.storage = some storage → storage.Tidy

theorem tidy_of_none (nobody : desk.storage = none) : desk.Tidy := by
  intro storage there
  rw [nobody] at there
  cases there

theorem Tidy.move (h : desk.Tidy) (path : Path) (next : Move) : (desk.move path next).Tidy := by
  intro later opened
  cases next with
  | reopen config owner =>
    rcases opens : Storage.openAt desk.disk path config owner with ⟨fault | storage, after⟩
    · rw [move_reopen_error opens] at opened
      cases opened
    · rw [move_reopen_ok opens] at opened
      cases opened
      unfold Storage.Tidy
      rw [(Storage.openAt_starts opens).1]
      exact List.forall_mem_nil _
  | perform operation =>
    cases there : desk.storage with
    | none =>
      rw [move_perform_none there, there] at opened
      cases opened
    | some storage =>
      rw [move_perform there] at opened
      cases opened
      exact Storage.tidy_perform (h storage there) desk.disk operation
  | outside disk => exact h later opened

/-- An operation other than a request keeps the books in order. -/
theorem inOrder_perform {operation : Operation} (h : desk.service.InOrder path limit)
    (tidy : desk.Tidy) (other : ∀ request, operation ≠ .serve request)
    (spares : operation.namesFile = true →
      SparesReservations path desk.disk (desk.move path (.perform operation)).disk) :
    (desk.move path (.perform operation)).service.InOrder path limit := by
  cases there : desk.storage with
  | none =>
    rw [move_perform_none there]
    exact h
  | some storage =>
    have place : storage.path = path := by
      obtain ⟨_, _, _, -, keeper⟩ := h
      exact (keeper storage.swept (by simp [service, there])).place
    have spared : SparesReservations path desk.disk (storage.perform desk.disk operation).2 := by
      cases named : operation.namesFile with
      | true =>
        have given := spares named
        rwa [move_perform there] at given
      | false =>
        exact Operation.perform_sparesReservations (tidy storage there) place desk.disk other named
    rw [move_perform there]
    refine inOrder_of_spares h spared ?_ ?_
    · rintro _ ⟨⟩
      exact ⟨storage, there, storage.keepsIds_perform desk.disk other⟩
    · show desk.handed ++ operation.issues storage desk.disk = desk.handed
      rw [Operation.issues_of_other other, List.append_nil]

/-- **Every move keeps the books in order**, if only the open handle writes reservations. -/
theorem inOrder_run {moves : List Move} (h : desk.service.InOrder path limit) (tidy : desk.Tidy)
    (undisturbed : desk.Undisturbed path limit moves) :
    (desk.run path moves).service.InOrder path limit := by
  induction moves generalizing desk with
  | nil => exact h
  | cons next rest ih =>
    obtain ⟨now, rest⟩ := undisturbed
    refine ih ?_ (tidy.move path next) rest
    cases next with
    | reopen config owner =>
      rw [service_reopen]
      exact Service.inOrder_reopen h now owner
    | outside disk =>
      exact inOrder_of_spares h now (fun storage there => ⟨storage, there, rfl, rfl, rfl⟩) rfl
    | perform operation =>
      rcases operation.serves_or_not with ⟨request, rfl⟩ | other
      · rw [service_serve]
        exact Service.inOrder_serve h request
      · exact inOrder_perform h tidy other now

theorem freshAbove_of_inOrder (h : desk.service.InOrder path limit) :
    desk.FreshAbove desk.handed := by
  intro storage needFresh space id there unforced given earlier before
  obtain ⟨file, payloads, torn, books, keeper⟩ := h
  have kept := keeper storage.swept (by simp [service, there])
  have given' : (storage.swept.allocateId desk.disk true space).1 = .ok id := by
    rw [Storage.allocateId_swept]
    rcases unforced with rfl | nothing
    · exact given
    · rw [← given, Storage.allocateId_of_free storage desk.disk needFresh nothing]
  rcases kept.allocateId books true space with
    ⟨fault, _, _, _, refused, -⟩ | ⟨_, _, _, _, _, issues, above, -⟩
  · rw [show desk.service.disk = desk.disk from rfl] at refused
    rw [refused] at given'
    cases given'
  · rw [show desk.service.disk = desk.disk from rfl] at issues
    rw [issues] at given'
    cases given'
    exact above rfl earlier before

/-! ## Refused allocations -/

/-- **A refused allocation leaves the ids as they were.**  The same ids are live as before, with as
many references, and the same ids can be handed out again.  Whatever is done later, what the open
handle hands out as fresh lies above all that it handed out, and above all that any handle did if
the directory was new and only the open handle writes reservations. -/
theorem allocateId_refused {disk after : FileSystem} {moves : List Move} {later : Storage}
    {needFresh : Bool} {space : IdSpace} {fault : Fault}
    (there : (run path { disk } moves).storage = some storage)
    (refused : storage.allocateId (run path { disk } moves).disk needFresh space =
      (.error fault, later, after)) :
    (∀ other, (storage.ids.ledger other).Agrees (later.ids.ledger other)) ∧
      run path { disk } (moves ++ [.perform (.serve (.allocateId needFresh space))]) =
        { run path { disk } moves with disk := after, storage := some later } ∧
      ∀ more desk,
        run path { disk } (moves ++ .perform (.serve (.allocateId needFresh space)) :: more) =
          desk →
        desk.FreshAbove desk.issued ∧
          ∀ limit,
            (∀ id, disk.find? (path.child Storage.idFileName).destination ≠ some (.file id)) →
            Undisturbed path limit { disk }
              (moves ++ .perform (.serve (.allocateId needFresh space)) :: more) →
            desk.FreshAbove desk.handed := by
  have inStep : InStep { disk } := inStep_of_none rfl
  have tracks := inStep.run path moves storage there
  refine ⟨(Storage.allocateId_error tracks refused).2, ?_, ?_⟩
  · rw [run_append]
    have last : (run path { disk } moves).move path
        (.perform (.serve (.allocateId needFresh space))) = _ := move_perform there _
    refine last.trans ?_
    simp only [Storage.perform, Storage.serve, Operation.issues, refused, Service.issued,
      List.append_nil]
  · rintro more _ rfl
    refine ⟨(inStep.run path _).freshAbove, fun limit vacant undisturbed => ?_⟩
    have inOrder : (service { disk }).InOrder path limit := Service.inOrder_of_vacant vacant
    have tidy : Tidy { disk } := tidy_of_none rfl
    exact freshAbove_of_inOrder (inOrder_run inOrder tidy undisturbed)

/-- An id is handed out and released, and the power is about to go. -/
def beforePowerCut : List Move :=
  [.reopen .testing "a", .perform (.serve (.allocateId true .dataFile)),
    .perform (.serve (.releaseId 1 .dataFile)), .perform (.serve (.armPower 3)),
    .perform .checkPower]

/-- The power is back, ids are handed out, and after a crash another handle is opened. -/
def afterPowerCut : List Move :=
  [.perform (.serve .resetPower), .perform (.serve (.allocateId false .separateFiles)),
    .perform (.serve (.allocateId false .dataFile)), .reopen .testing "b"]

/-- The desk of a new directory when the power goes. -/
def powerCutDesk : Desk :=
  run ⟨["", "db"]⟩ { disk := .empty } beforePowerCut

/-- The desk after an allocation has failed and the rest is done. -/
def afterPowerCutDesk : Desk :=
  run ⟨["", "db"]⟩ { disk := .empty }
    (beforePowerCut ++ .perform (.serve (.allocateId true .separateFiles)) :: afterPowerCut)

theorem allocateId_refused_powerCut :
    ∃ storage fault later after storage',
      powerCutDesk.storage = some storage ∧
      storage.allocateId powerCutDesk.disk true .separateFiles = (.error fault, later, after) ∧
      (∀ other, (storage.ids.ledger other).Agrees (later.ids.ledger other)) ∧
      afterPowerCutDesk.handed = [(.dataFile, 1), (.separateFiles, 2), (.dataFile, 1)] ∧
      afterPowerCutDesk.storage = some storage' ∧
      (storage'.allocateId afterPowerCutDesk.disk true .separateFiles).1 = .ok 1026 ∧
      ∀ earlier, (.separateFiles, earlier) ∈ afterPowerCutDesk.handed → earlier < 1026 := by
  have opened : powerCutDesk.storage.isSome = true := by decide +kernel
  have opened' : afterPowerCutDesk.storage.isSome = true := by decide +kernel
  have given : ((afterPowerCutDesk.storage.get opened').allocateId afterPowerCutDesk.disk true
      .separateFiles).1 = .ok 1026 := by
    refine toOption_eq_some.1 ?_
    decide +kernel +revert
  have fails : ((powerCutDesk.storage.get opened).allocateId powerCutDesk.disk true
      .separateFiles).1.toOption = none := by
    decide +kernel +revert
  have there := (Option.some_get opened).symm
  have there' := (Option.some_get opened').symm
  have vacant := FileSystem.find?_empty_ne_file
    ((⟨["", "db"]⟩ : Path).child Storage.idFileName).destination
  have undisturbed : Undisturbed ⟨["", "db"]⟩ Config.testing.blockLimit { disk := .empty }
      (beforePowerCut ++ .perform (.serve (.allocateId true .separateFiles)) :: afterPowerCut) :=
    ⟨rfl, nofun, nofun, nofun, nofun, nofun, nofun, nofun, nofun, rfl, trivial⟩
  rcases refused : (powerCutDesk.storage.get opened).allocateId powerCutDesk.disk true
      .separateFiles with ⟨fault | id, later, after⟩
  · obtain ⟨agrees, -, above⟩ := allocateId_refused there refused
    have fresh := (above afterPowerCut afterPowerCutDesk rfl).2 Config.testing.blockLimit vacant
      undisturbed
    exact ⟨_, fault, later, after, _, there, refused, agrees, by decide +kernel, there', given,
      fresh _ true .separateFiles 1026 there' (.inl rfl) given⟩
  · rw [refused] at fails
    cases fails

end Desk

end DurableStore
