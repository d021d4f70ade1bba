import DurableStore.Proofs.ObjectIds.Accounts
import DurableStore.Proofs.Storage.Requests

/-!
Ids across restarts.

A `Service` is a database directory whose storage is opened, used, closed or lost, and opened again,
together with all ids it ever handed out.  Its books are in order (`Service.InOrder`) when each of
these ids lies below the last reservation on disk and, while the storage is open, the accounts of
both spaces agree with that.  Every event keeps them in order (`inOrder_step`), so a fresh id lies
above every id that was handed out before it, by whichever process (`fresh_above_handed`).
-/

namespace DurableStore

open FileSystem

/-! ## Marks -/

/-- The mark of a space that the last readable reservation sets. -/
def marks (payloads : List Bytes) (space : IdSpace) : Int32 :=
  ((Storage.idsAbove payloads).ledger space).nextFresh

namespace ObjectIds

theorem ofReservation?_reservation (ids : ObjectIds) :
    ofReservation? ids.reservation =
      some (ofMarks ids.dataFile.reservedUntil ids.separateFiles.reservedUntil) := by
  unfold reservation Bytes.ofInt32 Bytes.ofWord32 ofReservation?
  simp only [List.cons_append, List.nil_append, Bytes.int32_bytes]

/-- The accounts of both spaces are in order. -/
def Accounts (ids : ObjectIds) (handed : IdSpace → ObjectId → Prop) (marks : IdSpace → Int32) :
    Prop :=
  ∀ space, (ids.ledger space).Accounts (handed space) (marks space)

variable {ids : ObjectIds} {handed : IdSpace → ObjectId → Prop} {marks : IdSpace → Int32}

/-- Only the space whose ledger is replaced has to be looked at. -/
theorem Accounts.withLedger (h : ids.Accounts handed marks) {space : IdSpace} {ledger : IdLedger}
    (one : ledger.Accounts (handed space) (marks space)) :
    (ids.withLedger space ledger).Accounts handed marks := by
  intro other
  by_cases same : other = space
  · subst same
    rw [ledger_withLedger]
    exact one
  · rw [ledger_withLedger_of_ne ids same]
    exact h other

/-- The ids of a space among those that were handed out. -/
def handedIn (log : List (IdSpace × ObjectId)) (space : IdSpace) (id : ObjectId) : Prop :=
  (space, id) ∈ log

theorem handedIn_append (log : List (IdSpace × ObjectId)) (space : IdSpace) (id : ObjectId) :
    handedIn (log ++ [(space, id)]) space = IdLedger.With (handedIn log space) id := by
  funext other
  simp [handedIn, IdLedger.With]

theorem handedIn_append_of_ne (log : List (IdSpace × ObjectId)) {space other : IdSpace}
    (differs : other ≠ space) (id : ObjectId) :
    handedIn (log ++ [(space, id)]) other = handedIn log other := by
  funext earlier
  simp [handedIn, differs]

/-- What `IdLedger.Accounts.allocate` says, for both spaces at once. -/
theorem Accounts.allocate {log : List (IdSpace × ObjectId)} (h : ids.Accounts (handedIn log) marks)
    {needFresh : Bool} {space : IdSpace} {allocation : IdLedger.Allocation} {after : ObjectIds}
    (got : ids.allocate needFresh space = (.ok allocation, after)) :
    (needFresh = true → ∀ earlier, handedIn log space earlier → earlier < allocation.id) ∧
      (allocation.advanced = false →
        after.Accounts (handedIn (log ++ [(space, allocation.id)])) marks) ∧
      (allocation.advanced = true →
        (after.discard allocation.id space).Accounts (handedIn log) marks ∧
          after.markPersisted.Accounts (handedIn (log ++ [(space, allocation.id)]))
            fun other => (after.ledger other).reservedUntil) := by
  obtain ⟨ledger, allocated, rfl⟩ := allocate_eq_ok got
  obtain ⟨above, still, moved⟩ := (h space).allocate allocated
  refine ⟨above, fun below => ?_, fun advanced => ⟨?_, ?_⟩⟩
  · intro other
    by_cases same : other = space
    · subst same
      rw [ledger_withLedger, handedIn_append]
      exact still below
    · rw [ledger_withLedger_of_ne ids same, handedIn_append_of_ne log same]
      exact h other
  · intro other
    by_cases same : other = space
    · subst same
      rw [discard, ledger_withLedger, ledger_withLedger]
      exact (moved advanced).1
    · rw [discard, ledger_withLedger_of_ne _ same, ledger_withLedger_of_ne ids same]
      exact h other
  · intro other
    simp only [ledger_markPersisted]
    by_cases same : other = space
    · subst same
      simp only [ledger_withLedger, handedIn_append]
      exact (moved advanced).2
    · simp only [ledger_withLedger_of_ne ids same, handedIn_append_of_ne log same]
      exact (h other).markPersisted

end ObjectIds

namespace Storage

theorem ledger_idsAbove (payloads : List Bytes) (space : IdSpace) :
    ∃ mark, (idsAbove payloads).ledger space = .ofMark mark := by
  unfold idsAbove
  cases found : payloads.reverse.findSome? ObjectIds.ofReservation? with
  | none => cases space <;> exact ⟨firstId, rfl⟩
  | some ids =>
    obtain ⟨payload, -, read⟩ := List.exists_of_findSome?_eq_some found
    unfold ObjectIds.ofReservation? at read
    split at read
    next => cases read; cases space <;> exact ⟨_, rfl⟩
    next => cases read

/-- The reservation written last sets the marks. -/
theorem marks_append_reservation (payloads : List Bytes) (ids : ObjectIds) (space : IdSpace)
    (start : firstId ≤ (ids.ledger space).reservedUntil) :
    marks (payloads ++ [ids.reservation]) space = (ids.ledger space).reservedUntil := by
  unfold marks idsAbove
  rw [List.reverse_append, List.reverse_singleton, List.singleton_append, List.findSome?_cons,
    ObjectIds.ofReservation?_reservation]
  cases space with
  | dataFile => exact IdLedger.nextFresh_ofMark start
  | separateFiles => exact IdLedger.nextFresh_ofMark start

/-- Ids that go on above the last reservation have their accounts in order. -/
theorem accounts_idsAbove {payloads : List Bytes} {handed : IdSpace → ObjectId → Prop}
    (covered : ∀ space id, handed space id → id < marks payloads space) :
    (idsAbove payloads).Accounts handed (marks payloads) := by
  intro space
  have covered := covered space
  unfold marks at covered ⊢
  obtain ⟨mark, starts⟩ := ledger_idsAbove payloads space
  rw [starts] at covered ⊢
  exact .ofMark covered

end Storage

/-! ## Books in order -/

open ObjectIds (handedIn)

/-- What the disk has to say about the ids that were handed out. -/
structure Books (path : Path) (limit : Nat) (disk : FileSystem) (log : List (IdSpace × ObjectId))
    (file : Option FileId) (payloads : List Bytes) (torn : Option Bytes) : Prop where
  holding : Holding disk path Storage.idFileName limit file payloads torn
  plain : torn ≠ some []
  covered : ∀ space id, handedIn log space id → id < marks payloads space

/-- What an open storage has to say about them. -/
structure Keeper (path : Path) (limit : Nat) (disk : FileSystem) (log : List (IdSpace × ObjectId))
    (file : Option FileId) (payloads : List Bytes) (torn : Option Bytes) (storage : Storage) :
    Prop where
  place : storage.path = path
  tidy : storage.scratch = []
  backed : ∀ blocks, storage.idFile = some blocks → ∃ id, file = some id ∧
    Attached blocks disk path Storage.idFileName limit id payloads torn
  accounts : storage.ids.Accounts (handedIn log) (marks payloads)

namespace Keeper

variable {path : Path} {limit : Nat} {disk : FileSystem} {log : List (IdSpace × ObjectId)}
  {file : Option FileId} {payloads : List Bytes} {torn : Option Bytes} {storage : Storage}

/-- Other ids with accounts in order, under another power and write state. -/
theorem recount (h : Keeper path limit disk log file payloads torn storage) {ids : ObjectIds}
    (accounts : ids.Accounts (handedIn log) (marks payloads)) (power : PowerSwitch)
    (writeState : WriteState) :
    Keeper path limit disk log file payloads torn { storage with ids, power, writeState } :=
  ⟨h.place, h.tidy, h.backed, accounts⟩

/-- **An allocation keeps the books in order**, and a fresh id lies above all others. -/
theorem allocateId (books : Books path limit disk log file payloads torn)
    (h : Keeper path limit disk log file payloads torn storage) (needFresh : Bool)
    (space : IdSpace) :
    (∃ fault later after torn',
        storage.allocateId disk needFresh space = (.error fault, later, after) ∧
        Books path limit after log file payloads torn' ∧
        Keeper path limit after log file payloads torn' later) ∨
      ∃ id later after payloads' torn',
        storage.allocateId disk needFresh space = (.ok id, later, after) ∧
        (needFresh = true → ∀ earlier, handedIn log space earlier → earlier < id) ∧
        Books path limit after (log ++ [(space, id)]) file payloads' torn' ∧
        Keeper path limit after (log ++ [(space, id)]) file payloads' torn' later := by
  rcases storage.allocateId_cases disk needFresh space with
    ⟨fault, refused⟩ | ⟨allocation, ids, allocated, rest⟩
  · exact .inl ⟨fault, storage, disk, torn, refused, books, h⟩
  obtain ⟨above, still, moved⟩ := h.accounts.allocate allocated
  rcases rest with ⟨below, given⟩ | ⟨advanced, persisted⟩
  · have accounts := still below
    exact .inr ⟨_, _, _, payloads, torn, given, above,
      ⟨books.holding, books.plain, fun other => (accounts other).covered⟩,
      h.place, h.tidy, h.backed, accounts⟩
  obtain ⟨given_up, written⟩ := moved advanced
  -- Without a file of reservations the mark cannot move, so the id is given up.
  cases idFile : storage.idFile with
  | none =>
    have refused : ({ storage with ids } : Storage).persistIds disk =
        (.error Storage.openedReadOnly, { storage with ids }, disk) :=
      Storage.persistIds_of_none idFile
    rcases persisted with ⟨fault, later, after, same, given⟩ | ⟨later, after, same, -⟩
    · rw [refused] at same
      cases same
      exact .inl ⟨_, _, disk, torn, given, books, h.recount given_up _ _⟩
    · rw [refused] at same
      cases same
  | some blocks =>
    obtain ⟨id, rfl, attached⟩ := h.backed blocks idFile
    have idFile' : ({ storage with ids } : Storage).idFile = some blocks := idFile
    obtain ⟨result, power, blocks', after', persists, -, outcome⟩ :=
      Storage.persistIds_attached idFile' attached
    rcases persisted with ⟨fault, later, after, same, given⟩ | ⟨later, after, same, given⟩
    · rw [persists] at same
      cases same
      rcases outcome with ⟨impossible, -⟩ | ⟨_, torn', -, attached', plain⟩
      · cases impossible
      · exact .inl ⟨fault, _, _, torn', given,
          ⟨attached'.holding, plain books.plain, books.covered⟩,
          h.place, h.tidy, fun _ same => ⟨id, rfl, Option.some.inj same ▸ attached'⟩, given_up⟩
    · rw [persists] at same
      cases same
      rcases outcome with ⟨-, attached'⟩ | ⟨_, _, impossible, -⟩
      · -- The new reservation covers every id, those of the other space too.
        have marked : marks (payloads ++ [ids.reservation]) =
            fun other => (ids.ledger other).reservedUntil := by
          funext other
          refine Storage.marks_append_reservation payloads ids other ?_
          exact (written other).start
        have accounts : ids.markPersisted.Accounts (handedIn (log ++ [(space, allocation.id)]))
            (marks (payloads ++ [ids.reservation])) := by
          rw [marked]
          exact written
        exact .inr ⟨_, _, _, _, none, given, above,
          ⟨attached'.holding, by simp, fun other => (accounts other).covered⟩,
          h.place, h.tidy, fun _ same => ⟨id, rfl, Option.some.inj same ▸ attached'⟩, accounts⟩
      · cases impossible

end Keeper

/-! ## A service and its events -/

/-- A database directory in service: the disk, the open storage if one is open, and the ids that
were handed out since the beginning, each with its space. -/
structure Service where
  disk : FileSystem
  storage : Option Storage := none
  handed : List (IdSpace × ObjectId) := []

namespace Service

/-- What happens to a service. -/
inductive Event where
  /-- The process is gone, if there was one, and another one opens the storage. -/
  | reopen (config : Config) (owner : String)
  /-- The storage is closed. -/
  | close
  /-- The storage serves a request. -/
  | serve (request : Request)

/-- The event opens the storage with this limit on blocks, if it opens it. -/
def Event.Uses (limit : Nat) : Event → Prop
  | .reopen config _ => config.blockLimit = limit
  | .close | .serve _ => True

instance (limit : Nat) (event : Event) : Decidable (event.Uses limit) :=
  match event with
  | .reopen config _ => inferInstanceAs (Decidable (config.blockLimit = limit))
  | .close | .serve _ => inferInstanceAs (Decidable True)

/-- The id that a request was answered with. -/
def issued : Request → Reply → List (IdSpace × ObjectId)
  | .allocateId _ space, .allocated (.ok id) => [(space, id)]
  | _, _ => []

/-- Another process opens the storage of the directory at `path`. -/
def reopen (path : Path) (config : Config) (owner : String) (service : Service) : Service :=
  match Storage.openAt service.disk path config owner with
  | (.ok storage, disk) => { service with disk, storage := some storage }
  | (.error _, disk) => { service with disk, storage := none }

/-- The storage is closed, if one is open. -/
def close (service : Service) : Service :=
  match service.storage with
  | some storage =>
    let (storage, disk) := storage.close service.disk
    { service with disk, storage := some storage }
  | none => service

/-- The storage serves a request, if one is open. -/
def serve (request : Request) (service : Service) : Service :=
  match service.storage with
  | some storage =>
    let (reply, storage, disk) := storage.serve service.disk request
    { disk, storage := some storage, handed := service.handed ++ issued request reply }
  | none => service

/-- What an event does to the service of the directory at `path`. -/
def step (path : Path) (service : Service) : Event → Service
  | .reopen config owner => service.reopen path config owner
  | .close => service.close
  | .serve request => service.serve request

/-- What a series of events does. -/
def run (path : Path) (service : Service) (events : List Event) : Service :=
  events.foldl (step path) service

/-- The books are in order. -/
def InOrder (path : Path) (limit : Nat) (service : Service) : Prop :=
  ∃ file payloads torn, Books path limit service.disk service.handed file payloads torn ∧
    ∀ storage, service.storage = some storage →
      Keeper path limit service.disk service.handed file payloads torn storage

variable {path : Path} {limit : Nat} {service : Service}

theorem inOrder_of_vacant {disk : FileSystem}
    (vacant : ∀ id, disk.find? (path.child Storage.idFileName).destination ≠ some (.file id)) :
    InOrder path limit { disk } := by
  refine ⟨none, [], none, ⟨.missing vacant, by simp, by simp [handedIn]⟩, ?_⟩
  intro storage same
  cases same

theorem inOrder_reopen (h : service.InOrder path limit) {config : Config}
    (same : config.blockLimit = limit) (owner : String) :
    (service.reopen path config owner).InOrder path limit := by
  obtain ⟨file, payloads, torn, books, -⟩ := h
  subst same
  have legible_eq : legible payloads torn = payloads := legible_of_ne payloads books.plain
  unfold reopen
  cases opens : Storage.openAt service.disk path config owner with
  | mk result after =>
    rcases Storage.openAt_holding books.holding opens with
      ⟨fault, rfl, -, holding⟩ | ⟨-, -, rfl, rfl⟩ | ⟨-, -, -, id, blocks, rfl, opened⟩
    · refine ⟨file, payloads, torn, ⟨holding, books.plain, books.covered⟩, ?_⟩
      intro storage same
      cases same
    · rw [legible_eq]
      refine ⟨file, payloads, torn, books, ?_⟩
      intro storage same
      cases same
      exact ⟨rfl, rfl, by rintro _ ⟨⟩, Storage.accounts_idsAbove books.covered⟩
    · rw [legible_eq] at opened ⊢
      have attached := Attached.of_opened opened
      refine ⟨some id, payloads, none, ⟨attached.holding, by simp, books.covered⟩,
        ?_⟩
      intro storage same
      cases same
      exact ⟨rfl, rfl, fun _ same => ⟨id, rfl, Option.some.inj same ▸ attached⟩,
        Storage.accounts_idsAbove books.covered⟩

theorem inOrder_close (h : service.InOrder path limit) :
    service.close.InOrder path limit := by
  unfold close
  cases there : service.storage with
  | none => exact h
  | some storage =>
    obtain ⟨file, payloads, torn, books, keeper⟩ := h
    have kept := keeper storage there
    simp only
    unfold Storage.close
    split
    next => exact ⟨file, payloads, torn, books, fun _ same => Option.some.inj same ▸ kept⟩
    next =>
      rw [kept.tidy]
      refine ⟨file, payloads, torn, books, ?_⟩
      intro _ same
      cases same
      exact ⟨kept.place, rfl, kept.backed, kept.accounts⟩

theorem inOrder_serve (h : service.InOrder path limit) (request : Request) :
    (service.serve request).InOrder path limit := by
  unfold serve
  cases there : service.storage with
  | none => exact h
  | some storage =>
    obtain ⟨file, payloads, torn, books, keeper⟩ := h
    have kept := keeper storage there
    have recount {ids : ObjectIds}
        (accounts : ids.Accounts (handedIn service.handed) (marks payloads))
        (power : PowerSwitch) (writeState : WriteState) :
        InOrder path limit
          { service with storage := some { storage with ids, power, writeState } } := by
      refine ⟨file, payloads, torn, books, ?_⟩
      intro _ same
      cases same
      exact kept.recount accounts power writeState
    cases request with
    | allocateId needFresh space =>
      rcases kept.allocateId books needFresh space with
        ⟨fault, later, after, torn', given, books', kept'⟩ |
          ⟨id, later, after, payloads', torn', given, -, books', kept'⟩
      · simp only [Storage.serve, given, issued, List.append_nil]
        exact ⟨file, payloads, torn', books', fun _ same => Option.some.inj same ▸ kept'⟩
      · simp only [Storage.serve, given, issued]
        exact ⟨file, payloads', torn', books', fun _ same => Option.some.inj same ▸ kept'⟩
    | retainId id space =>
      simp only [Storage.serve, issued, List.append_nil]
      exact recount (kept.accounts.withLedger ((kept.accounts space).retain id)) _ _
    | releaseId id space =>
      simp only [Storage.serve, issued, List.append_nil]
      exact recount (kept.accounts.withLedger ((kept.accounts space).release id)) _ _
    | setWriteState state =>
      obtain ⟨writeState, later⟩ := Storage.setWriteState_snd storage state
      simp only [Storage.serve, issued, List.append_nil, later]
      exact recount kept.accounts _ writeState
    | armPower countdown =>
      simp only [Storage.serve, issued, List.append_nil]
      exact recount kept.accounts _ _
    | resetPower =>
      simp only [Storage.serve, issued, List.append_nil]
      exact recount kept.accounts _ _

theorem inOrder_step (h : service.InOrder path limit) {event : Event} (uses : event.Uses limit) :
    (service.step path event).InOrder path limit := by
  cases event with
  | reopen config owner => exact inOrder_reopen h uses owner
  | close => exact inOrder_close h
  | serve request => exact inOrder_serve h request

theorem inOrder_run (h : service.InOrder path limit) {events : List Event}
    (uses : ∀ event ∈ events, event.Uses limit) : (service.run path events).InOrder path limit := by
  induction events generalizing service with
  | nil => exact h
  | cons event rest ih =>
    exact ih (inOrder_step h (uses event List.mem_cons_self))
      fun other member => uses other (List.mem_cons_of_mem _ member)

/-- **A fresh id lies above every id of its space that was handed out before it**, by whichever
process, whatever happened in between. -/
theorem fresh_above_handed {disk : FileSystem}
    (vacant : ∀ id, disk.find? (path.child Storage.idFileName).destination ≠ some (.file id))
    {events : List Event} (uses : ∀ event ∈ events, event.Uses limit) {storage : Storage}
    (there : (run path { disk } events).storage = some storage) {space : IdSpace} {id : ObjectId}
    (given : (storage.allocateId (run path { disk } events).disk true space).1 = .ok id) :
    ∀ earlier, (space, earlier) ∈ (run path { disk } events).handed → earlier < id := by
  obtain ⟨file, payloads, torn, books, keeper⟩ := inOrder_run (inOrder_of_vacant vacant) uses
  rcases (keeper storage there).allocateId books true space with
    ⟨fault, _, _, _, refused, -⟩ | ⟨_, _, _, _, _, given', above, -⟩
  · rw [refused] at given
    cases given
  · rw [given'] at given
    cases given
    exact above rfl

/-- Two reservations, the second of them torn, a crash and a start that only reads. -/
def tornReservation : List Event :=
  [.reopen .testing "a", .serve (.allocateId true .dataFile), .serve (.allocateId false .dataFile),
    .serve (.releaseId 1 .dataFile), .serve (.allocateId false .dataFile), .serve (.armPower 2),
    .serve (.allocateId true .separateFiles), .reopen { Config.testing with readOnly := true } "b",
    .serve (.allocateId true .dataFile), .reopen .testing "c"]

/-- The service of a new directory after them. -/
def afterTornReservation : Service :=
  run ⟨["", "db"]⟩ { disk := .empty } tornReservation

theorem fresh_above_handed_tornReservation :
    (∀ id, FileSystem.empty.find? ((⟨["", "db"]⟩ : Path).child Storage.idFileName).destination ≠
        some (.file id)) ∧
      (∀ event ∈ tornReservation, event.Uses Config.testing.blockLimit) ∧
      ∃ storage, afterTornReservation.storage = some storage ∧
        (storage.allocateId afterTornReservation.disk true .dataFile).1 = .ok 1026 ∧
        ∀ earlier, (.dataFile, earlier) ∈ afterTornReservation.handed → earlier < 1026 := by
  have vacant := FileSystem.find?_empty_ne_file
    ((⟨["", "db"]⟩ : Path).child Storage.idFileName).destination
  have uses : ∀ event ∈ tornReservation, event.Uses Config.testing.blockLimit := by
    decide +kernel
  have opened : afterTornReservation.storage.isSome = true := by
    decide +kernel
  have given : ((afterTornReservation.storage.get opened).allocateId afterTornReservation.disk true
      .dataFile).1 = .ok 1026 := by
    refine toOption_eq_some.1 ?_
    decide +kernel +revert
  have there := (Option.some_get opened).symm
  exact ⟨vacant, uses, _, there, given, fresh_above_handed vacant uses there given⟩

end Service

end DurableStore
