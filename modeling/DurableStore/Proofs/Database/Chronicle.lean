import DurableStore.Proofs.Database.Reachable

/-!
Acknowledged updates across crashes.

A `Chronicle` is a database directory that is opened, used, closed or lost, and opened again,
together with what its users were told: the records whose updates were acknowledged before the
last opening, and the updates acknowledged since.  It is `Faithful` when the journal holds exactly
these records, a remnant of another one apart that no scan takes for a record, and the open
database agrees with it.  Every event keeps it faithful (`faithful_step`) as long as no power loss
hits an empty record between its header and its payload, whose header alone is a block.  Hence
`acknowledged_survive`.
-/

namespace DurableStore

open FileSystem

variable {τ : Type}

namespace Engine

/-! ## Calls that commit nothing -/

/-- The second engine differs from the first in its sessions and its cache at most. -/
structure Untouched (before after : Engine τ) : Prop where
  storage : after.database.storage = before.database.storage
  journal : after.database.journal = before.database.journal
  generation : after.database.generation = before.database.generation
  committing : after.database.committing = before.database.committing
  recovered : after.database.recovered = before.database.recovered
  disk : after.disk = before.disk
  tables : after.tables = before.tables

theorem Untouched.refl (engine : Engine τ) : engine.Untouched engine :=
  ⟨rfl, rfl, rfl, rfl, rfl, rfl, rfl⟩

theorem untouched_query (engine : Engine τ) (statement : Statement)
    (rows : τ → Except Fault Rows) : engine.Untouched (engine.query statement rows).2 := by
  unfold query
  simp only
  split
  next => exact ⟨rfl, rfl, rfl, rfl, rfl, rfl, rfl⟩
  all_goals
    split
    next => exact ⟨rfl, rfl, rfl, rfl, rfl, rfl, rfl⟩
    next => exact ⟨rfl, rfl, rfl, rfl, rfl, rfl, rfl⟩

theorem untouched_queuedAlone (engine : Engine τ) (session : SessionId) {errand : Errand τ}
    (noUpdate : ∀ bytes during apply, errand ≠ .update bytes during apply) :
    engine.Untouched (engine.queuedAlone session errand).2 := by
  unfold queuedAlone
  split
  next => exact .refl engine
  next => exact .refl engine
  next =>
    cases errand with
    | setHeld enable => exact ⟨rfl, rfl, rfl, rfl, rfl, rfl, rfl⟩
    | setReuse enable => exact ⟨rfl, rfl, rfl, rfl, rfl, rfl, rfl⟩
    | query statement during rows => exact untouched_query engine statement rows
    | update bytes during apply => exact absurd rfl (noUpdate bytes during apply)

theorem close_fst (database : Database) (disk : FileSystem) :
    ∃ closed lock cache storage, (database.close disk).1 =
      { database with closed, lock, cache, storage } := by
  unfold Database.close
  split
  next => exact ⟨database.closed, database.lock, database.cache, database.storage, rfl⟩
  next => exact ⟨_, _, _, _, rfl⟩

theorem untouched_connect (engine : Engine τ) :
    engine.Untouched (engine.callAlone .connect).2 := by
  obtain ⟨lock, nextSession, connected⟩ := connect_snd engine.database
  have after : (engine.callAlone .connect).2 =
      { engine with database := { engine.database with lock, nextSession } } := by
    rw [← connected]
    rfl
  rw [after]
  exact ⟨rfl, rfl, rfl, rfl, rfl, rfl, rfl⟩

theorem untouched_endSession (engine : Engine τ) (session : SessionId) :
    engine.Untouched (engine.callAlone (.endSession session)).2 := by
  obtain ⟨lock, ended, same⟩ := endSession_eq engine.database session
  have after : (engine.callAlone (.endSession session)).2 =
      { engine with database := { engine.database with lock, ended } } := by
    rw [← same]
    rfl
  rw [after]
  exact ⟨rfl, rfl, rfl, rfl, rfl, rfl, rfl⟩

theorem untouched_enqueue (engine : Engine τ) {session : SessionId} {errand : Errand τ}
    (noUpdate : ∀ bytes during apply, errand ≠ .update bytes during apply) {call : Call τ}
    (enters : engine.enter call = engine.enqueue session errand) :
    engine.Untouched (engine.callAlone call).2 := by
  unfold callAlone
  rw [enters]
  rcases Host.enqueue_cases engine session errand with ⟨answer, answered⟩ | queued
  · rw [answered]
    exact .refl engine
  · rw [queued]
    exact untouched_queuedAlone engine session noUpdate

theorem untouched_set (engine : Engine τ) (session : SessionId) (name value : String) :
    engine.Untouched (engine.callAlone (.set session name value)).2 := by
  unfold callAlone
  simp only [enter]
  cases engine.database.ensureConnected session with
  | error fault => exact .refl engine
  | ok =>
    cases Setting.parse name value with
    | error fault => exact .refl engine
    | ok setting =>
      cases setting with
      | exclusive enable => exact untouched_queuedAlone engine session (by simp)
      | reuseResults enable => exact untouched_queuedAlone engine session (by simp)

/-- A call that is neither an update nor closes the database touches neither journal nor tables. -/
theorem untouched_callAlone (engine : Engine τ) {call : Call τ} (noClose : call ≠ .close)
    (noUpdate : ∀ session bytes during apply, call ≠ .update session bytes during apply) :
    engine.Untouched (engine.callAlone call).2 := by
  cases call with
  | connect => exact untouched_connect engine
  | disconnect session => exact ⟨rfl, rfl, rfl, rfl, rfl, rfl, rfl⟩
  | endSession session => exact untouched_endSession engine session
  | close => exact absurd rfl noClose
  | clearCache => exact ⟨rfl, rfl, rfl, rfl, rfl, rfl, rfl⟩
  | setExclusive session enable =>
    have noUpdate : ∀ bytes during (apply : τ → τ),
        Errand.setHeld enable ≠ .update bytes during apply := by simp
    exact untouched_enqueue engine noUpdate rfl
  | set session name value => exact untouched_set engine session name value
  | query session statement during rows =>
    have noUpdate : ∀ bytes during' (apply : τ → τ),
        Errand.query statement during rows ≠ .update bytes during' apply := by simp
    exact untouched_enqueue engine noUpdate rfl
  | update session bytes during apply => exact absurd rfl (noUpdate session bytes during apply)
  | elsewhere site call => exact .refl engine

end Engine

/-! ## Chronicles -/

/-- A database directory, and what its users were told. -/
structure Chronicle (τ : Type) where
  /-- The disk, and the database if one is open. -/
  host : Host τ
  /-- The records acknowledged before the database was last opened. -/
  earlier : List Bytes := []
  /-- The tables that it was opened with. -/
  start : τ
  /-- The records acknowledged since, and how each of them changed the tables. -/
  commits : List (Bytes × (τ → τ)) := []

namespace Chronicle

/-- Every record whose update was acknowledged, in order. -/
def acknowledged (chronicle : Chronicle τ) : List Bytes :=
  chronicle.earlier ++ chronicle.commits.map Prod.fst

/-- The tables after every update acknowledged since the opening was applied once, in order. -/
def tables (chronicle : Chronicle τ) : τ :=
  chronicle.commits.foldl (fun tables commit => commit.2 tables) chronicle.start

/-- What happens to a database directory. -/
inductive Event (τ : Type) where
  /-- The process is gone, if there was one, and another one opens the database with tables. -/
  | reopen (config : Config) (owner : String) (tables : τ)
  /-- A call is made.  If it would have to wait it is given up. -/
  | call (made : Call τ)
  /-- The storage serves a request. -/
  | serve (request : Request)

/-- The commit that an answer acknowledges. -/
def acknowledges : Call τ → Option (Answer τ) → List (Bytes × (τ → τ))
  | .update _ record _ apply, some (.updated (.ok _) _ _) => [(record, apply)]
  | _, _ => []

/-- Another process opens the database of the directory at `path`. -/
def reopen (path : Path) (config : Config) (owner : String) (tables : τ)
    (chronicle : Chronicle τ) : Chronicle τ :=
  { host := chronicle.host.reopen path config owner tables
    earlier := chronicle.acknowledged
    start := tables }

/-- A call is made of the open database. -/
def call (made : Call τ) (chronicle : Chronicle τ) : Chronicle τ :=
  let (outcome, host) := chronicle.host.run { top := ⟨0, .entering made⟩ }
  { chronicle with
    host
    commits := chronicle.commits ++ acknowledges made outcome.answer? }

/-- The storage of the open database serves a request. -/
def serve (request : Request) (chronicle : Chronicle τ) : Chronicle τ :=
  { chronicle with host := chronicle.host.serve request }

/-- What an event does. -/
def step (path : Path) (chronicle : Chronicle τ) : Event τ → Chronicle τ
  | .reopen config owner tables => chronicle.reopen path config owner tables
  | .call made => chronicle.call made
  | .serve request => chronicle.serve request

/-- What a series of events does. -/
def run (path : Path) (chronicle : Chronicle τ) (events : List (Event τ)) : Chronicle τ :=
  events.foldl (step path) chronicle

/-- Openings are for writing, with one limit on blocks, and the bodies of calls make no calls. -/
def Event.Uses (limit : Nat) : Event τ → Prop
  | .reopen config _ _ => config.readOnly = false ∧ config.blockLimit = limit
  | .call made => made.IsFlat
  | .serve _ => True

instance (limit : Nat) (event : Event τ) : Decidable (event.Uses limit) :=
  match event with
  | .reopen config _ _ =>
    inferInstanceAs (Decidable (config.readOnly = false ∧ config.blockLimit = limit))
  | .call made => inferInstanceAs (Decidable made.IsFlat)
  | .serve _ => inferInstanceAs (Decidable True)

/-- Whether an update was answered with a loss of power. -/
def lostPower : Option (Answer τ) → Bool
  | some (.updated (.error fault) _ _) => fault.isPowerLoss
  | _ => false

/-- Whether the event is an update with an empty record that found the power on and lost it, between
the header of the record and its payload. -/
def cutsEmpty (chronicle : Chronicle τ) : Event τ → Bool
  | .call (.update session record during apply) =>
    record.isEmpty && (chronicle.host.engine? 0).any (·.database.storage.power.isOn) &&
      lostPower (chronicle.host.run
        { top := ⟨0, .entering (.update session record during apply)⟩ }).1.answer?
  | _ => false

/-- Whether none of the events cuts an empty record off. -/
def uncut (path : Path) : Chronicle τ → List (Event τ) → Bool
  | _, [] => true
  | chronicle, event :: rest =>
    !chronicle.cutsEmpty event && uncut path (chronicle.step path event) rest

/-! ## Faithful chronicles -/

/-- The open database has what was acknowledged. -/
structure Agrees (chronicle : Chronicle τ) (path : Path) (limit : Nat) (ids journal : FileId)
    (torn : Option Bytes) (engine : Engine τ) : Prop where
  standing : Standing path limit engine.disk ids journal chronicle.acknowledged torn engine.database
  recovered : engine.database.recovered = chronicle.earlier
  generation : engine.database.generation = UInt64.ofNat chronicle.commits.length
  tables : engine.tables = chronicle.tables

/-- The journal holds what was acknowledged, and no scan finds more. -/
def Faithful (path : Path) (limit : Nat) (chronicle : Chronicle τ) : Prop :=
  ∃ ids journal torn, torn ≠ some [] ∧
    Resting path limit chronicle.host.disk ids journal chronicle.acknowledged torn ∧
    ∀ engine, chronicle.host.engine? 0 = some engine →
      chronicle.Agrees path limit ids journal torn engine

variable {path : Path} {limit : Nat} {chronicle : Chronicle τ}

theorem acknowledged_new (host : Host τ) (earlier : List Bytes) (start : τ) :
    (⟨host, earlier, start, []⟩ : Chronicle τ).acknowledged = earlier :=
  List.append_nil earlier

variable (host : Host τ) (record : Bytes) (apply : τ → τ)

theorem acknowledged_commit (chronicle : Chronicle τ) :
    ({ chronicle with host, commits := chronicle.commits ++ [(record, apply)] } :
      Chronicle τ).acknowledged = chronicle.acknowledged ++ [record] := by
  simp [acknowledged]

theorem tables_commit (chronicle : Chronicle τ) :
    ({ chronicle with host, commits := chronicle.commits ++ [(record, apply)] } :
      Chronicle τ).tables = apply chronicle.tables := by
  simp [tables]

theorem faithful_of_agrees (ids journal : FileId) {torn : Option Bytes} {engine : Engine τ}
    (there : chronicle.host.engine? 0 = some engine) (plain : torn ≠ some [])
    (agrees : chronicle.Agrees path limit ids journal torn engine) :
    Faithful path limit chronicle := by
  have rests := agrees.standing.resting
  rw [(Host.engine?_eq_some there).2] at rests
  refine ⟨ids, journal, torn, plain, rests, ?_⟩
  intro other there'
  rw [there] at there'
  cases there'
  exact agrees

theorem faithful_reopen (h : chronicle.Faithful path limit) {config : Config}
    (writable : config.readOnly = false) (same : config.blockLimit = limit) (owner : String)
    (tables : τ) : (chronicle.reopen path config owner tables).Faithful path limit := by
  obtain ⟨ids, journal, torn, plain, rests, -⟩ := h
  subst same
  -- No scan takes the remnant for a record, so the acknowledged records are all there is.
  have legible_eq : legible chronicle.acknowledged torn = chronicle.acknowledged :=
    legible_of_ne _ plain
  unfold reopen Host.reopen
  cases opens : Database.openAt chronicle.host.disk path config owner with
  | mk result after =>
    rcases openAt_of_resting writable rests opens with
      ⟨database, rfl, standing, recovered, generation, -⟩ | ⟨fault, rfl, rests'⟩
    · rw [legible_eq] at standing recovered
      have agrees : Agrees ⟨.ofDatabase database after tables, chronicle.acknowledged, tables, []⟩
          path config.blockLimit ids journal none ⟨database, after, tables⟩ := by
        refine ⟨?_, recovered, generation, rfl⟩
        rw [acknowledged_new]
        exact standing
      have plain : (none : Option Bytes) ≠ some [] := by simp
      exact faithful_of_agrees ids journal rfl plain agrees
    · refine ⟨ids, journal, torn, plain, ?_, ?_⟩
      · rw [acknowledged_new]
        exact rests'
      · intro engine there
        cases there

theorem faithful_serve (h : chronicle.Faithful path limit) (request : Request) :
    (chronicle.serve request).Faithful path limit := by
  unfold serve Host.serve
  cases there : chronicle.host.engine? 0 with
  | none => exact h
  | some engine =>
    obtain ⟨ids, journal, torn, plain, -, agrees⟩ := h
    have agrees := agrees engine there
    have served := agrees.standing.serve request
    exact faithful_of_agrees ids journal (Host.engine?_put_self there _) plain
      ⟨served, agrees.recovered, agrees.generation, agrees.tables⟩

theorem call_eq {engine : Engine τ} (there : chronicle.host.engine? 0 = some engine)
    {made : Call τ} (flat : made.IsFlat) :
    chronicle.call made =
      { chronicle with
        host := chronicle.host.put 0 (engine.callAlone made).2
        commits := chronicle.commits ++ acknowledges made (engine.callAlone made).1 } := by
  obtain ⟨answered, moved⟩ := Host.run_alone there flat
  unfold call
  rw [← answered, ← moved]

theorem acknowledges_of_not_update {made : Call τ}
    (noUpdate : ∀ session record during apply, made ≠ .update session record during apply)
    (answer : Option (Answer τ)) : acknowledges made answer = [] := by
  unfold acknowledges
  split
  next => exact absurd rfl (noUpdate _ _ _ _)
  next => rfl

/-- A call that acknowledges nothing and touches nothing. -/
theorem faithful_untouched (h : chronicle.Faithful path limit) {engine : Engine τ}
    (there : chronicle.host.engine? 0 = some engine) {made : Call τ} (flat : made.IsFlat)
    (silent : acknowledges made (engine.callAlone made).1 = [])
    (untouched : engine.Untouched (engine.callAlone made).2) :
    (chronicle.call made).Faithful path limit := by
  obtain ⟨ids, journal, torn, plain, -, agrees⟩ := h
  have agrees := agrees engine there
  rw [call_eq there flat, silent, List.append_nil]
  refine faithful_of_agrees ids journal (Host.engine?_put_self there _) plain ⟨?_, ?_, ?_, ?_⟩
  · rw [untouched.disk]
    exact agrees.standing.congr untouched.storage untouched.journal
  · exact untouched.recovered.trans agrees.recovered
  · exact untouched.generation.trans agrees.generation
  · exact untouched.tables.trans agrees.tables

theorem faithful_close (h : chronicle.Faithful path limit) {engine : Engine τ}
    (there : chronicle.host.engine? 0 = some engine) :
    (chronicle.call .close).Faithful path limit := by
  obtain ⟨ids, journal, torn, plain, -, agrees⟩ := h
  have agrees := agrees engine there
  have flat : (Call.close : Call τ).IsFlat := trivial
  have noUpdate : ∀ session record during (apply : τ → τ),
      Call.close ≠ .update session record during apply := by simp
  obtain ⟨closed, lock, cache, storage, closes⟩ := Engine.close_fst engine.database engine.disk
  rw [call_eq there flat, acknowledges_of_not_update noUpdate, List.append_nil]
  refine faithful_of_agrees ids journal (Host.engine?_put_self there _) plain
    ⟨agrees.standing.close, ?_, ?_, agrees.tables⟩
  · show (engine.database.close engine.disk).1.recovered = _
    rw [closes]
    exact agrees.recovered
  · show (engine.database.close engine.disk).1.generation = _
    rw [closes]
    exact agrees.generation

/-- A failed append leaves at most a remnant that no scan takes for a record. -/
theorem plain_of_failed {ids journal : FileId} {torn : Option Bytes} (plain : torn ≠ some [])
    {engine : Engine τ} (there : chronicle.host.engine? 0 = some engine)
    (agrees : chronicle.Agrees path limit ids journal torn engine) {session : SessionId}
    {record : Bytes} {apply : τ → τ}
    (uncut : chronicle.cutsEmpty (.call (.update session record [] apply)) = false) {fault : Fault}
    (bad : (engine.append record).result = .error fault)
    (answered : (chronicle.host.run
        { top := ⟨0, .entering (.update session record [] apply)⟩ }).1.answer? =
      some (.updated (.error fault) false [])) :
    ∃ torn', torn' ≠ some [] ∧
      Standing path limit (engine.append record).disk ids journal chronicle.acknowledged torn'
        (engine.database.journaled (engine.append record)) := by
  have course := BlockFile.append_course agrees.standing.commits.intact record
    engine.database.storage.power
  rcases course.outcome agrees.standing.commits.intact with
    ⟨offset, good, -⟩ | ⟨_, torn', bad', intact, left⟩
  · have := bad.symm.trans good
    cases this
  · refine ⟨torn', ?_, agrees.standing.append course intact⟩
    rcases left with rfl | apart | ⟨rfl, on, rfl⟩
    · exact plain
    · exact apart
    · -- The power went behind the header, so the record is not empty.
      intro empty
      obtain rfl : record = [] := Option.some.inj empty
      have same := bad.symm.trans bad'
      cases same
      have cut : chronicle.cutsEmpty (.call (.update session [] [] apply)) = true := by
        unfold cutsEmpty
        simp only [there, answered, Option.any_some, on]
        rfl
      rw [uncut] at cut
      cases cut

/-- An update that commits adds its record to the journal, and one that fails does not. -/
theorem faithful_update (h : chronicle.Faithful path limit) {engine : Engine τ}
    (there : chronicle.host.engine? 0 = some engine) {session : SessionId} {record : Bytes}
    {apply : τ → τ}
    (uncut : chronicle.cutsEmpty (.call (.update session record [] apply)) = false) :
    (chronicle.call (.update session record [] apply)).Faithful path limit := by
  have flat : (Call.update session record [] apply).IsFlat := rfl
  have answered := (Host.run_alone there flat).1
  have attempt := engine.attempt_update session record apply
  have untouched := faithful_untouched h there flat
  obtain ⟨ids, journal, torn, plain, -, agrees⟩ := h
  have agrees := agrees engine there
  rw [call_eq there flat] at untouched ⊢
  -- Whatever came of the update is one of the four attempts.
  generalize engine.callAlone (.update session record [] apply) = result
    at attempt answered untouched ⊢
  cases attempt with
  | waits => exact untouched rfl (.refl engine)
  | refused => exact untouched rfl (.refl engine)
  | failed bad =>
    obtain ⟨torn', plain', standing⟩ := plain_of_failed plain there agrees uncut bad answered
    simp only [acknowledges, List.append_nil]
    exact faithful_of_agrees ids journal (Host.engine?_put_self there _) plain'
      ⟨standing, agrees.recovered, agrees.generation, agrees.tables⟩
  | committed good idle =>
    have course := BlockFile.append_course agrees.standing.commits.intact record
      engine.database.storage.power
    rcases course.outcome agrees.standing.commits.intact with
      ⟨offset, -, intact⟩ | ⟨fault, torn', bad, -⟩
    · have plain' : (none : Option Bytes) ≠ some [] := by simp
      simp only [acknowledges]
      refine faithful_of_agrees ids journal (Host.engine?_put_self there _) plain'
        ⟨?_, agrees.recovered, ?_, ?_⟩
      · rw [acknowledged_commit]
        exact (agrees.standing.append course intact).congr rfl rfl
      · show engine.database.generation + 1 = _
        rw [agrees.generation, List.length_append, List.length_singleton]
        exact (UInt64.ofNat_add _ 1).symm
      · show apply engine.tables = _
        rw [agrees.tables, tables_commit]
    · have := good.symm.trans bad
      cases this

theorem faithful_call (h : chronicle.Faithful path limit) {made : Call τ} (flat : made.IsFlat)
    (uncut : chronicle.cutsEmpty (.call made) = false) :
    (chronicle.call made).Faithful path limit := by
  cases there : chronicle.host.engine? 0 with
  | none =>
    unfold call
    rw [Host.run_of_absent there]
    have nothing : acknowledges made (some (.done (.error .databaseClosed))) = [] := by
      unfold acknowledges
      split
      next same => cases same
      next => rfl
    simp only [Outcome.answer?, nothing, List.append_nil]
    exact h
  | some engine =>
    by_cases closes : made = .close
    · subst closes
      exact faithful_close h there
    by_cases updates : ∃ session record during apply, made = .update session record during apply
    · obtain ⟨session, record, during, apply, rfl⟩ := updates
      obtain rfl : during = [] := flat
      exact faithful_update h there uncut
    · have noUpdate : ∀ session record during apply,
          made ≠ .update session record during apply := by
        intro session record during apply same
        exact updates ⟨session, record, during, apply, same⟩
      exact faithful_untouched h there flat (acknowledges_of_not_update noUpdate _)
        (engine.untouched_callAlone closes noUpdate)

theorem faithful_step (h : chronicle.Faithful path limit) {event : Event τ}
    (uses : event.Uses limit) (uncut : chronicle.cutsEmpty event = false) :
    (chronicle.step path event).Faithful path limit := by
  cases event with
  | reopen config owner tables => exact faithful_reopen h uses.1 uses.2 owner tables
  | call made => exact faithful_call h uses uncut
  | serve request => exact faithful_serve h request

theorem faithful_run (h : chronicle.Faithful path limit) {events : List (Event τ)}
    (uses : ∀ event ∈ events, event.Uses limit) (uncut : chronicle.uncut path events = true) :
    (chronicle.run path events).Faithful path limit := by
  -- Event by event; each one finds the chronicle that the ones before it left.
  induction events generalizing chronicle with
  | nil => exact h
  | cons event rest ih =>
    have later : ∀ event ∈ rest, event.Uses limit := by
      intro other member
      exact uses other (List.mem_cons_of_mem _ member)
    rw [Chronicle.uncut, Bool.and_eq_true, Bool.not_eq_true'] at uncut
    exact ih (faithful_step h (uses event List.mem_cons_self) uncut.1) later uncut.2

/-- The chronicle of a database that was just opened for the first time. -/
def begun (database : Database) (disk : FileSystem) (tables : τ) : Chronicle τ :=
  { host := .ofDatabase database disk tables, start := tables }

theorem faithful_begun {config : Config} {owner : String} {disk after : FileSystem}
    {database : Database} (writable : config.readOnly = false)
    (noIds : ∀ id, disk.find? (path.child Storage.idFileName).destination ≠ some (.file id))
    (noJournal : ∀ id, disk.find? (path.child Database.journalName).destination ≠ some (.file id))
    (opens : Database.openAt disk path config owner = (.ok database, after)) (tables : τ) :
    (begun database after tables).Faithful path config.blockLimit := by
  obtain ⟨ids, journal, standing, recovered, generation, -⟩ :=
    openAt_of_vacant writable noIds noJournal opens
  have plain : (none : Option Bytes) ≠ some [] := by simp
  exact faithful_of_agrees ids journal rfl plain ⟨standing, recovered, generation, rfl⟩

/-- **Acknowledged updates survive.**  Whatever happens to a database directory after its first
opening: the open database recovered exactly the records acknowledged before its opening, its
generation counts those acknowledged since, and its tables are those of its opening with each of
these updates applied once; and the directory can be opened again, with every acknowledged record
in order and no other, if memory can hold its files. -/
theorem acknowledged_survive {config : Config} {owner : String} {disk after : FileSystem}
    {database : Database} (writable : config.readOnly = false)
    (noIds : ∀ id, disk.find? (path.child Storage.idFileName).destination ≠ some (.file id))
    (noJournal : ∀ id, disk.find? (path.child Database.journalName).destination ≠ some (.file id))
    (opens : Database.openAt disk path config owner = (.ok database, after)) (tables : τ)
    {events : List (Event τ)} (uses : ∀ event ∈ events, event.Uses config.blockLimit)
    (uncut : (begun database after tables).uncut path events = true) :
    (∀ engine, ((begun database after tables).run path events).host.engine? 0 = some engine →
      engine.database.recovered = ((begun database after tables).run path events).earlier ∧
      engine.database.generation =
        UInt64.ofNat ((begun database after tables).run path events).commits.length ∧
      engine.tables = ((begun database after tables).run path events).tables) ∧
    ∀ config' owner', config'.problem? = none → config'.blockLimit = config.blockLimit →
      FitsMemory ((begun database after tables).run path events).host.disk path →
      ∃ database' after',
        Database.openAt ((begun database after tables).run path events).host.disk path config'
          owner' = (.ok database', after') ∧
        database'.recovered = ((begun database after tables).run path events).acknowledged := by
  have begins := faithful_begun writable noIds noJournal opens tables
  obtain ⟨ids, journal, torn, plain, rests, agrees⟩ := faithful_run begins uses uncut
  refine ⟨?_, ?_⟩
  · intro engine there
    have agrees := agrees engine there
    exact ⟨agrees.recovered, agrees.generation, agrees.tables⟩
  · intro config' owner' sound same holds
    rw [← same] at rests
    obtain ⟨database', after', opens', recovered⟩ :=
      openAt_recovers sound rests holds owner'
    rw [legible_of_ne _ plain] at recovered
    exact ⟨database', after', opens', recovered⟩

/-- An update that tears its block, the same session going on after a reset, a crash, an update that
finds no power, and a close. -/
def tornCommits : List (Event Nat) :=
  [.call .connect, .call (.update ⟨1⟩ [1, 2] [] (· + 1)), .serve (.armPower 2),
    .call (.update ⟨1⟩ [3] [] (· + 10)), .serve .resetPower, .call (.update ⟨1⟩ [] [] (· + 100)),
    .serve (.armPower 2), .serve (.allocateId true .dataFile), .reopen .testing "b" 0,
    .call .connect, .serve (.armPower 1), .call (.update ⟨1⟩ [] [] (· + 1000)),
    .serve .resetPower, .call (.update ⟨1⟩ [4] [] (· + 10000)), .call .close]

theorem acknowledged_survive_tornCommits : ∃ database after,
    Database.openAt .empty ⟨["", "db"]⟩ .testing "a" = (.ok database, after) ∧
      (∀ event ∈ tornCommits, event.Uses Config.testing.blockLimit) ∧
      (begun database after 0).uncut ⟨["", "db"]⟩ tornCommits = true ∧
      ∃ database' after',
        Database.openAt ((begun database after 0).run ⟨["", "db"]⟩ tornCommits).host.disk
          ⟨["", "db"]⟩ .testing "c" = (.ok database', after') ∧
        database'.recovered = [[1, 2], [], [4]] := by
  obtain ⟨database, opens⟩ := Host.firstOpening_eq
  have computed : (Host.firstOpening.1.toOption.map fun database =>
      ((begun database Host.firstOpening.2 0).uncut ⟨["", "db"]⟩ tornCommits,
        ((begun database Host.firstOpening.2 0).run ⟨["", "db"]⟩ tornCommits).acknowledged,
        decide (FitsMemory
          ((begun database Host.firstOpening.2 0).run ⟨["", "db"]⟩ tornCommits).host.disk
          ⟨["", "db"]⟩))) = some (true, [[1, 2], [], [4]], true) := by
    decide +kernel
  have opened : Host.firstOpening.1 = .ok database := congrArg Prod.fst opens
  rw [opened] at computed
  obtain ⟨uncut, acknowledged, small⟩ : _ ∧ _ ∧ _ := by
    simpa only [Except.toOption, Option.map_some, Option.some.injEq, Prod.mk.injEq] using computed
  have uses : ∀ event ∈ tornCommits, event.Uses Config.testing.blockLimit := by
    decide +kernel
  obtain ⟨database', after', opens', recovered⟩ :=
    (acknowledged_survive rfl (find?_empty_ne_file _) (find?_empty_ne_file _) opens 0 uses
      uncut).2 .testing "c" (by decide) rfl (of_decide_eq_true small)
  exact ⟨database, _, opens, uses, uncut, database', after', opens', recovered.trans acknowledged⟩

end Chronicle

end DurableStore
