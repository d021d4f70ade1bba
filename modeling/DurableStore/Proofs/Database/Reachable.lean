import DurableStore.Proofs.Database.Commit

/-!
What can become of a database directory.

A host is `Reachable` from the first opening of its directory by requests to the storage, by
openings after a crash, and by steps of any tasks in any order, so that calls may be under way at
any stage.  Whatever happens the open database is standing (`Reachable.sound`), since a step does
one of three things to what is in the directory: nothing, what closing does, or, if the frame is
about to write a record, an append to the journal (`Engine.leaves_advance`).
-/

namespace DurableStore

open FileSystem

variable {τ : Type}

/-- The engine that a step leaves, unless the step is to wait or to go elsewhere. -/
def Advance.engine? : Advance τ → Option (Engine τ)
  | .become engine _ | .call engine _ _ | .answer engine _ => some engine
  | .redirect .. | .wait _ => none

/-- The host that a step leaves, unless the step is to wait. -/
def Progress.host? : Progress τ → Option (Host τ)
  | .moved host _ | .answered host _ => some host
  | .waiting _ => none

namespace Engine

/-! ## What a step does to the directory -/

/-- What the step of a frame may leave of what a database has in its directory. -/
inductive Leaves (engine : Engine τ) : Frame τ → Engine τ → Prop where
  /-- All of it. -/
  | same {frame : Frame τ} {after : Engine τ}
      (storage : after.database.storage = engine.database.storage)
      (journal : after.database.journal = engine.database.journal)
      (disk : after.disk = engine.disk) : Leaves engine frame after
  /-- What closing leaves. -/
  | closed {after : Engine τ} (database : after.database = (engine.database.close engine.disk).1)
      (disk : after.disk = (engine.database.close engine.disk).2) :
      Leaves engine (.entering .close) after
  /-- What an append to the journal leaves. -/
  | appended {after : Engine τ} (bytes : Bytes) {during : List (Call τ)} {apply : τ → τ}
      (storage : after.database.storage =
        { engine.database.storage with power := (engine.append bytes).power })
      (journal : after.database.journal = (engine.append bytes).blocks)
      (disk : after.disk = (engine.append bytes).disk) :
      Leaves engine (.writing bytes during apply) after

theorem Leaves.refl (engine : Engine τ) (frame : Frame τ) : engine.Leaves frame engine :=
  .same rfl rfl rfl

variable {engine after : Engine τ} {frame : Frame τ}

theorem connect_snd (database : Database) :
    ∃ lock nextSession, database.connect.2 = { database with lock, nextSession } := by
  unfold Database.connect
  split
  next => exact ⟨database.lock, database.nextSession, rfl⟩
  next => exact ⟨_, _, rfl⟩

theorem endSession_eq (database : Database) (session : SessionId) :
    ∃ lock ended, database.endSession session = { database with lock, ended } := by
  unfold Database.endSession
  split
  next => exact ⟨database.lock, database.ended, rfl⟩
  next => exact ⟨_, _, rfl⟩

theorem leaves_enqueue {session : SessionId} {errand : Errand τ}
    (h : (engine.enqueue session errand).engine? = some after) : engine.Leaves frame after := by
  unfold enqueue at h
  split at h
  all_goals
    cases h
    exact .refl engine frame

theorem leaves_enter {call : Call τ} (h : (engine.enter call).engine? = some after) :
    engine.Leaves (.entering call) after := by
  cases call with
  | connect =>
    obtain ⟨lock, nextSession, connected⟩ := connect_snd engine.database
    cases h
    exact .same (congrArg (·.storage) connected) (congrArg (·.journal) connected) rfl
  | disconnect session => cases h; exact .same rfl rfl rfl
  | endSession session =>
    obtain ⟨lock, ended, same⟩ := endSession_eq engine.database session
    cases h
    exact .same (congrArg (·.storage) same) (congrArg (·.journal) same) rfl
  | close => cases h; exact .closed rfl rfl
  | clearCache => cases h; exact .same rfl rfl rfl
  | setExclusive session enable => exact leaves_enqueue h
  | set session name value =>
    simp only [enter] at h
    split at h
    all_goals
      cases h
      exact .refl engine _
  | query session statement during rows => exact leaves_enqueue h
  | update session bytes during apply => exact leaves_enqueue h
  | elsewhere site call => cases h

theorem leaves_look {session : SessionId} {errand : Errand τ} {seen : Option Nat}
    (h : (engine.look session errand seen).engine? = some after) :
    engine.Leaves (.queued session errand seen) after := by
  unfold look at h
  split at h
  next =>
    split at h
    next => cases h; exact .refl engine _
    next => cases h
    next =>
      split at h
      next => cases h; exact .same rfl rfl rfl
      next => cases h; exact .refl engine _
  next => cases h

theorem leaves_begin {errand : Errand τ} (h : (engine.begin errand).engine? = some after) :
    engine.Leaves (.admitted errand) after := by
  cases errand with
  | setHeld enable => cases h; exact .refl engine _
  | setReuse enable => cases h; exact .same rfl rfl rfl
  | query statement during rows =>
    simp only [begin] at h
    split at h
    all_goals
      cases h
      exact .same rfl rfl rfl
  | update bytes during apply =>
    simp only [begin] at h
    split at h
    all_goals
      cases h
      exact .refl engine _

theorem leaves_record {bytes : Bytes} {during : List (Call τ)} {apply : τ → τ}
    (h : (engine.record bytes during apply).engine? = some after) :
    engine.Leaves (.recording bytes during apply) after := by
  unfold record at h
  split at h
  next => cases h
  next =>
    cases permitted : engine.database.storage.checkWriting with
    | error fault =>
      simp only [Database.beginCommit_of_error permitted] at h
      cases h
      exact .refl engine _
    | ok =>
      simp only [Database.beginCommit_of_ok permitted] at h
      cases h
      exact .same rfl rfl rfl

theorem leaves_write {bytes : Bytes} {during : List (Call τ)} {apply : τ → τ}
    (h : (engine.write bytes during apply).engine? = some after) :
    engine.Leaves (.writing bytes during apply) after := by
  obtain ⟨committing, writes⟩ := engine.database.writeRecord_snd bytes engine.disk
  unfold write at h
  simp only [writes] at h
  split at h
  all_goals
    cases h
    exact .appended bytes rfl rfl rfl

/-- **A step** leaves what the database has in its directory, or closes it, or appends a record to
the journal. -/
theorem leaves_advance (h : (engine.advance frame).engine? = some after) :
    engine.Leaves frame after := by
  unfold advance at h
  split at h
  next => exact leaves_enter h
  next => exact leaves_look h
  next => exact leaves_begin h
  next => exact leaves_record h
  next => exact leaves_write h
  next => cases h; exact .refl engine _
  next =>
    unfold yieldRows at h
    simp only at h
    split at h
    next => cases h; exact .refl engine _
    next => cases h; exact .same rfl rfl rfl
  next => cases h; exact .refl engine _
  next => cases h; exact .same rfl rfl rfl
  next => cases h; exact .same rfl rfl rfl

/-- Whatever a step leaves is standing. -/
theorem Leaves.standing (leaves : engine.Leaves frame after) {path : Path} {limit : Nat}
    {ids journal : FileId} {records : List Bytes} {torn : Option Bytes}
    (h : Standing path limit engine.disk ids journal records torn engine.database) :
    ∃ records' torn', Standing path limit after.disk ids journal records' torn' after.database := by
  cases leaves with
  | same storage blocks disk =>
    rw [disk]
    exact ⟨records, torn, h.congr storage blocks⟩
  | closed database disk =>
    rw [database, disk]
    exact ⟨records, torn, h.close⟩
  | appended bytes storage blocks disk =>
    -- The append may fail; its remnant is marked then, so the database stands all the same.
    have course := BlockFile.append_course h.commits.intact bytes engine.database.storage.power
    rw [disk]
    rcases course.outcome h.commits.intact with ⟨offset, -, intact⟩ | ⟨fault, torn', -, intact, -⟩
    · exact ⟨_, none, (h.append course intact).congr storage blocks⟩
    · exact ⟨records, torn', (h.append course intact).congr storage blocks⟩

end Engine

namespace Host

/-! ## What happens to a host -/

/-- A host with one open database. -/
def ofDatabase (database : Database) (disk : FileSystem) (tables : τ) : Host τ :=
  { disk, sites := #[⟨database, tables⟩] }

/-- The process is gone, if there was one, and another one opens the database of the directory at
`path`. -/
def reopen (path : Path) (config : Config) (owner : String) (tables : τ) (host : Host τ) : Host τ :=
  match Database.openAt host.disk path config owner with
  | (.ok database, disk) => .ofDatabase database disk tables
  | (.error _, disk) => { disk }

/-- The storage of the open database serves a request. -/
def serve (request : Request) (host : Host τ) : Host τ :=
  match host.engine? 0 with
  | none => host
  | some engine =>
    let (_, storage, disk) := engine.database.storage.serve engine.disk request
    host.put 0 { engine with database := { engine.database with storage }, disk }

/-- What can become of a database directory that is only ever opened for writing, with one limit on
blocks. -/
inductive Reachable (path : Path) (limit : Nat) : Host τ → Prop where
  /-- The database is opened where there is none yet. -/
  | opened {config : Config} {owner : String} {disk after : FileSystem} {database : Database}
      (tables : τ) (writable : config.readOnly = false) (limited : config.blockLimit = limit)
      (noIds : ∀ id, disk.find? (path.child Storage.idFileName).destination ≠ some (.file id))
      (noJournal : ∀ id, disk.find? (path.child Database.journalName).destination ≠ some (.file id))
      (opens : Database.openAt disk path config owner = (.ok database, after)) :
      Reachable path limit (ofDatabase database after tables)
  /-- After a crash or a close the database is opened again, successfully or not. -/
  | reopened {host : Host τ} (reachable : Reachable path limit host) {config : Config}
      (owner : String) (tables : τ) (writable : config.readOnly = false)
      (limited : config.blockLimit = limit) :
      Reachable path limit (host.reopen path config owner tables)
  /-- The storage serves a request. -/
  | served {host : Host τ} (reachable : Reachable path limit host) (request : Request) :
      Reachable path limit (host.serve request)
  /-- A call of whatever kind, begun at any time, gets one step further. -/
  | stepped {host after : Host τ} (reachable : Reachable path limit host) {task : Task τ}
      (steps : (host.step task).host? = some after) : Reachable path limit after

/-- At most one database is open, and it is standing. -/
def Sound (path : Path) (limit : Nat) (host : Host τ) : Prop :=
  ∃ ids journal records torn, Resting path limit host.disk ids journal records torn ∧
    host.sites.size ≤ 1 ∧ ∀ engine, host.engine? 0 = some engine →
      Standing path limit engine.disk ids journal records torn engine.database

variable {path : Path} {limit : Nat} {host after : Host τ}

theorem sound_ofDatabase {disk : FileSystem} {database : Database} {ids journal : FileId}
    {records : List Bytes} {torn : Option Bytes}
    (standing : Standing path limit disk ids journal records torn database) (tables : τ) :
    Sound path limit (ofDatabase database disk tables) := by
  refine ⟨ids, journal, records, torn, standing.resting, Nat.le_refl 1, ?_⟩
  intro engine there
  cases there
  exact standing

theorem Sound.reopen (h : Sound path limit host) {config : Config} (owner : String) (tables : τ)
    (writable : config.readOnly = false) (limited : config.blockLimit = limit) :
    Sound path limit (host.reopen path config owner tables) := by
  obtain ⟨ids, journal, records, torn, rests, -⟩ := h
  subst limited
  unfold Host.reopen
  cases opens : Database.openAt host.disk path config owner with
  | mk result after =>
    rcases openAt_of_resting writable rests opens with
      ⟨database, rfl, standing, -⟩ | ⟨fault, rfl, rests'⟩
    · exact sound_ofDatabase standing tables
    · refine ⟨ids, journal, records, torn, rests', Nat.zero_le 1, ?_⟩
      intro engine there
      cases there

theorem Sound.put (h : Sound path limit host) {engine changed : Engine τ}
    (there : host.engine? 0 = some engine) {ids journal : FileId} {records : List Bytes}
    {torn : Option Bytes}
    (standing : Standing path limit changed.disk ids journal records torn changed.database) :
    Sound path limit (host.put 0 changed) := by
  obtain ⟨-, -, -, -, -, single, -⟩ := h
  refine ⟨ids, journal, records, torn, standing.resting, ?_, ?_⟩
  · unfold Host.put
    rwa [Array.size_setIfInBounds]
  · intro engine' there'
    rw [engine?_put_self there] at there'
    cases there'
    exact standing

theorem Sound.serve (h : Sound path limit host) (request : Request) :
    Sound path limit (host.serve request) := by
  unfold Host.serve
  cases there : host.engine? 0 with
  | none => exact h
  | some engine =>
    obtain ⟨_, _, _, _, _, _, stands⟩ := id h
    exact h.put there ((stands engine there).serve request)

theorem host?_deliver (host : Host τ) (answer : Answer τ) (below : List (Activation τ)) :
    (host.deliver answer below).host? = some host := by
  cases below with
  | nil => rfl
  | cons caller below => rfl

/-- A step leaves the host as it is, apart from the database whose frame takes the step. -/
theorem step_cases {task : Task τ} (h : (host.step task).host? = some after) :
    after = host ∨ ∃ engine changed, host.engine? task.top.site = some engine ∧
      (engine.advance task.top.frame).engine? = some changed ∧
        after = host.put task.top.site changed := by
  unfold step at h
  simp only at h
  split at h
  next =>
    rw [host?_deliver] at h
    cases h
    exact .inl rfl
  next engine there =>
    split at h
    next changed frame becomes =>
      cases h
      exact .inr ⟨engine, changed, there, by rw [becomes]; rfl, rfl⟩
    next changed frame callee calls =>
      cases h
      exact .inr ⟨engine, changed, there, by rw [calls]; rfl, rfl⟩
    next => cases h; exact .inl rfl
    next => cases h
    next changed answer answers =>
      rw [host?_deliver] at h
      cases h
      exact .inr ⟨engine, changed, there, by rw [answers]; rfl, rfl⟩

theorem Sound.step (h : Sound path limit host) {task : Task τ}
    (steps : (host.step task).host? = some after) : Sound path limit after := by
  rcases step_cases steps with rfl | ⟨engine, changed, there, advances, rfl⟩
  · exact h
  · obtain ⟨ids, journal, records, torn, rests, single, stands⟩ := id h
    -- There is no other database that could take the step.
    have first : task.top.site = 0 := by
      have bound := (Array.getElem?_eq_some_iff.1 (engine?_eq_some there).1).1
      exact Nat.lt_one_iff.1 (Nat.lt_of_lt_of_le bound single)
    rw [first] at there ⊢
    obtain ⟨records', torn', standing⟩ :=
      (Engine.leaves_advance advances).standing (stands engine there)
    exact h.put there standing

/-- **Whatever happens**, the open database is standing. -/
theorem Reachable.sound (h : Reachable path limit host) : Sound path limit host := by
  -- By induction on how the host was reached, one case for each thing that can happen.
  induction h with
  | opened tables writable limited noIds noJournal opens =>
    subst limited
    obtain ⟨ids, journal, standing, -⟩ := openAt_of_vacant writable noIds noJournal opens
    exact sound_ofDatabase standing tables
  | reopened _ owner tables writable limited ih => exact ih.reopen owner tables writable limited
  | served _ request ih => exact ih.serve request
  | stepped _ steps ih => exact ih.step steps

/-- Taking a task as far as it can go is taking steps. -/
theorem Reachable.run {host : Host τ} (h : Reachable path limit host) (task : Task τ) :
    Reachable path limit (host.run task).2 := by
  rw [run_eq]
  cases steps : host.step task with
  | moved after next =>
    have lower := step_moved_weight steps
    have reached : Reachable path limit after := h.stepped (congrArg Progress.host? steps)
    exact reached.run next
  | answered after answer => exact h.stepped (congrArg Progress.host? steps)
  | waiting waits => exact h
  termination_by task.weight

/-- The first opening of a directory. -/
def firstOpening : Except Fault Database × FileSystem :=
  Database.openAt .empty ⟨["", "db"]⟩ .testing "a"

theorem firstOpening_eq : ∃ database,
    Database.openAt .empty ⟨["", "db"]⟩ .testing "a" = (.ok database, firstOpening.2) := by
  have opened : firstOpening.1.toOption.isSome = true := by
    decide +kernel
  exact ⟨_, Prod.ext (toOption_eq_some.1 (Option.some_get opened).symm) rfl⟩

end Host

end DurableStore
