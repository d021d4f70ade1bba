import DurableStore.Proofs.Storage.Scratch

/-!
Operations that have begun and are not done yet.

Operations that create or write a file ask for permission first (`Storage.permission`) and act
later; an allocation that needs a new reservation asks once more in between.  Whatever happens
meanwhile, what was permitted is not asked for again.  `Storage.proceed` takes what is left of an
operation one step on; without interruption an operation does what `Storage.perform` says
(`perform_eq_finish`).
-/

namespace DurableStore

open FileSystem

/-- The operation asks for permission before it acts. -/
def Operation.asksFirst : Operation → Bool
  | .serve (.allocateId ..) => true
  | .openFile .. | .openBlockFile _ | .appendBlock .. | .createScratch => true
  | _ => false

/-- What is left of an operation that has begun. -/
inductive Unfinished where
  /-- It was permitted. -/
  | permitted (operation : Operation)
  /-- An id was taken that needs a new reservation. -/
  | taken (id : ObjectId) (space : IdSpace)
  /-- The reservation may be written. -/
  | reserving (id : ObjectId) (space : IdSpace)

namespace Unfinished

/-- How many more steps there may be. -/
def rank : Unfinished → Nat
  | .permitted _ => 2
  | .taken .. => 1
  | .reserving .. => 0

/-- It has yet to be asked whether the id may be handed out. -/
def isTaken : Unfinished → Bool
  | .taken .. => true
  | _ => false

end Unfinished

namespace Storage

/-- What an operation asks for first. -/
def permission (storage : Storage) : Operation → Except Fault Unit
  | .openFile _ mode _ => storage.checkOpening mode
  | .appendBlock .. => storage.checkWriting
  | .openBlockFile _ | .createScratch | .serve (.allocateId ..) => storage.ensureOpen
  | _ => .ok ()

/-- Takes what is left of an operation one step on; what is left of it then, if anything is. -/
def proceed (storage : Storage) (disk : FileSystem) :
    Unfinished → Option Unfinished × Storage × FileSystem
  | .permitted (.openFile name mode mustExist) =>
    (none, storage, (OpenFile.openAt disk (storage.path.join name) mode mustExist).2)
  | .permitted (.openBlockFile name) => (none, storage, (storage.attachBlockFile disk name).2)
  | .permitted (.appendBlock blocks payload) =>
    let appended := storage.writeBlock blocks payload disk
    (none, appended.storage, appended.disk)
  | .permitted .createScratch => (none, (storage.makeScratch disk).2)
  | .permitted (.serve (.allocateId needFresh space)) =>
    let (result, storage) := storage.takeId needFresh space
    match result with
    | .error _ => (none, storage, disk)
    | .ok allocation =>
      (if allocation.advanced then some (.taken allocation.id space) else none, storage, disk)
  | .permitted operation => (none, storage.perform disk operation)
  | .taken id space =>
    match storage.checkReserving with
    | .error _ => (none, storage.giveUpId id space, disk)
    | .ok () => (some (.reserving id space), storage, disk)
  | .reserving id space => (none, (storage.reserveId disk id space).2)

variable {storage after : Storage} {disk left : FileSystem}

theorem proceed_rank {rest next : Unfinished}
    (proceeds : storage.proceed disk rest = (some next, after, left)) : next.rank < rest.rank := by
  unfold proceed at proceeds
  split at proceeds
  case h_5 =>
    simp only at proceeds
    split at proceeds
    next => cases proceeds
    next =>
      split at proceeds
      next => cases proceeds; exact Nat.lt_succ_self 1
      next => cases proceeds
  case h_7 =>
    split at proceeds
    next => cases proceeds
    next => cases proceeds; exact Nat.lt_succ_self 0
  all_goals cases proceeds

/-- Takes what is left of an operation to its end. -/
def finish (storage : Storage) (disk : FileSystem) (rest : Unfinished) : Storage × FileSystem :=
  match proceeds : storage.proceed disk rest with
  | (none, storage, disk) => (storage, disk)
  | (some next, storage, disk) =>
    have := proceed_rank proceeds
    finish storage disk next
  termination_by rest.rank

theorem finish_of_none {rest : Unfinished}
    (proceeds : storage.proceed disk rest = (none, after, left)) :
    storage.finish disk rest = (after, left) := by
  rw [finish]
  split
  next same => cases proceeds.symm.trans same; rfl
  next same => cases proceeds.symm.trans same

theorem finish_of_some {rest next : Unfinished}
    (proceeds : storage.proceed disk rest = (some next, after, left)) :
    storage.finish disk rest = after.finish left next := by
  rw [finish]
  split
  next same => cases proceeds.symm.trans same
  next same => cases proceeds.symm.trans same; rfl

/-- An allocation that nothing comes between. -/
theorem allocateId_eq_finish (storage : Storage) (disk : FileSystem) (needFresh : Bool)
    (space : IdSpace) (isOpen : storage.ensureOpen = .ok ()) :
    (storage.allocateId disk needFresh space).2 =
      storage.finish disk (.permitted (.serve (.allocateId needFresh space))) := by
  unfold allocateId
  rw [isOpen]
  cases takes : storage.takeId needFresh space with
  | mk result later =>
    cases result with
    | error fault =>
      refine (finish_of_none ?_).symm
      simp only [proceed, takes]
    | ok allocation =>
      cases advanced : allocation.advanced with
      | false =>
        refine (finish_of_none ?_).symm
        simp only [proceed, takes, advanced, Bool.false_eq_true, if_false]
      | true =>
        have goesOn : storage.proceed disk (.permitted (.serve (.allocateId needFresh space))) =
            (some (.taken allocation.id space), later, disk) := by
          simp only [proceed, takes, advanced, if_true]
        rw [finish_of_some goesOn]
        simp only [advanced, if_true]
        cases reserves : later.checkReserving with
        | error fault =>
          refine (finish_of_none ?_).symm
          simp only [proceed, reserves]
        | ok =>
          have permits : later.proceed disk (.taken allocation.id space) =
              (some (.reserving allocation.id space), later, disk) := by
            simp only [proceed, reserves]
          rw [finish_of_some permits]
          exact (finish_of_none rfl).symm

/-- **Without interruption** an operation does nothing, if it is not permitted, and otherwise what
is left of it is taken to its end. -/
theorem perform_eq_finish (storage : Storage) (disk : FileSystem) (operation : Operation) :
    storage.perform disk operation =
      match storage.permission operation with
      | .error _ => (storage, disk)
      | .ok () => storage.finish disk (.permitted operation) := by
  cases operation with
  | openFile name mode mustExist =>
    simp only [perform, openFile, permission]
    cases storage.checkOpening mode with
    | error => rfl
    | ok => exact (finish_of_none rfl).symm
  | openBlockFile name =>
    simp only [perform, openBlockFile, permission]
    cases storage.ensureOpen with
    | error => rfl
    | ok => exact (finish_of_none rfl).symm
  | appendBlock blocks payload =>
    simp only [perform, appendBlock, permission]
    cases storage.checkWriting with
    | error => rfl
    | ok => exact (finish_of_none rfl).symm
  | createScratch =>
    simp only [perform, createScratch, permission]
    cases storage.ensureOpen with
    | error => rfl
    | ok => exact (finish_of_none rfl).symm
  | serve request =>
    cases request with
    | allocateId needFresh space =>
      simp only [permission]
      cases isOpen : storage.ensureOpen with
      | error fault =>
        show (storage.allocateId disk needFresh space).2 = _
        unfold allocateId
        rw [isOpen]
      | ok => exact allocateId_eq_finish storage disk needFresh space isOpen
    | _ => exact (finish_of_none rfl).symm
  | _ => exact (finish_of_none rfl).symm

/-! ## Closed storages -/

/-- A closed storage permits nothing. -/
theorem permission_of_closed (closed : storage.closed = true) {operation : Operation}
    (asks : operation.asksFirst = true) :
    storage.permission operation = .error .databaseClosed := by
  have notOpen := ensureOpen_of_closed closed
  cases operation with
  | openFile name mode mustExist =>
    show storage.checkOpening mode = _
    unfold checkOpening
    rw [notOpen, checkWriting_of_closed closed]
    exact ite_self _
  | appendBlock => exact checkWriting_of_closed closed
  | openBlockFile | createScratch => exact notOpen
  | serve request =>
    cases request with
    | allocateId => exact notOpen
    | _ => cases asks
  | _ => cases asks

theorem checkReserving_of_closed (closed : storage.closed = true) :
    ∃ fault, storage.checkReserving = .error fault := by
  unfold checkReserving
  split
  next => exact ⟨_, rfl⟩
  next => exact ⟨_, checkWriting_of_closed closed⟩

/-- An id that was taken is given up if the storage is closed by then. -/
theorem proceed_taken_of_closed (closed : storage.closed = true) (disk : FileSystem)
    (id : ObjectId) (space : IdSpace) :
    storage.proceed disk (.taken id space) = (none, storage.giveUpId id space, disk) := by
  obtain ⟨fault, refused⟩ := checkReserving_of_closed closed
  simp only [proceed, refused]

/-- What is left of an operation after another step at a closed storage will be given up. -/
theorem isTaken_of_proceed (closed : storage.closed = true) {rest next : Unfinished}
    (proceeds : (storage.proceed disk rest).1 = some next) : next.isTaken = true := by
  unfold proceed at proceeds
  split at proceeds
  case h_5 =>
    simp only at proceeds
    split at proceeds
    next => cases proceeds
    next =>
      split at proceeds
      next => cases proceeds; rfl
      next => cases proceeds
  case h_7 =>
    obtain ⟨fault, refused⟩ := checkReserving_of_closed closed
    rw [refused] at proceeds
    cases proceeds
  all_goals cases proceeds

/-! ## What lasts -/

/-- The second storage is the same handle as the first, still closed if that was closed, and its
scratch files are where scratch files belong. -/
structure Endures (before after : Storage) : Prop where
  path : after.path = before.path
  closed : before.closed = true → after.closed = true
  tidy : before.Tidy → after.Tidy

theorem Endures.of_same (path : after.path = storage.path) (closed : after.closed = storage.closed)
    (scratch : after.scratch = storage.scratch) : storage.Endures after := by
  refine ⟨path, closed.trans, ?_⟩
  unfold Tidy
  rw [path, scratch]
  exact id

theorem endures_perform (storage : Storage) (disk : FileSystem) (operation : Operation) :
    storage.Endures (storage.perform disk operation).1 := by
  have tidies (tidy : storage.Tidy) := tidy_perform tidy disk operation
  cases manages : operation.managesScratch with
  | false =>
    have persists := persists_perform storage disk manages
    exact ⟨persists.path, persists.closed.trans, tidies⟩
  | true =>
    obtain ⟨scratch, scratchCounter, closed, same, stays⟩ := managed_perform storage disk manages
    rw [same] at tidies ⊢
    exact ⟨rfl, stays, tidies⟩

theorem endures_proceed (storage : Storage) (disk : FileSystem) (rest : Unfinished) :
    storage.Endures (storage.proceed disk rest).2.1 := by
  unfold proceed
  split
  case h_4 =>
    obtain ⟨scratch, scratchCounter, made⟩ := makeScratch_storage storage disk
    have tidies (tidy : storage.Tidy) := makeScratch_tidy tidy disk
    show storage.Endures (storage.makeScratch disk).2.1
    rw [made] at tidies ⊢
    exact ⟨rfl, id, tidies⟩
  case h_5 needFresh space =>
    simp only [takeId]
    split
    next => exact .of_same rfl rfl rfl
    next => exact .of_same rfl rfl rfl
  case h_6 operation _ _ _ _ _ => exact endures_perform storage disk operation
  case h_7 =>
    split
    next => exact .of_same rfl rfl rfl
    next => exact .of_same rfl rfl rfl
  case h_8 id space =>
    obtain ⟨ids, power, idFile, left⟩ := reserveId_storage storage disk id space
    show storage.Endures (storage.reserveId disk id space).2.1
    rw [left]
    exact .of_same rfl rfl rfl
  all_goals exact .of_same rfl rfl rfl

end Storage

end DurableStore
