import DurableStore.Proofs.Database.SoundScene
import DurableStore.Proofs.ReuseCache.Aged

/-!
A database is closed for good, but what is under way is not called off.

Once a call has closed a database nobody is connected to it or holds its lock, so it is nobody's
turn any more, and its storage permits nothing (`Database.Shut`).  What was permitted before is not
asked for again: a query whose turn had come may still leave its rows in the cache, a commit that
was about to write its record still writes it and moves the generation, and an operation of the
storage that was permitted still acts.  Nothing else leaves a trace (`Scene.closed_ever_after`).
-/

namespace DurableStore

open FileSystem

variable {τ : Type}

/-! ## Closed databases -/

theorem Storage.closed_close (storage : Storage) (disk : FileSystem) :
    (storage.close disk).1.closed = true := by
  unfold close
  split
  next already => exact already
  next => rfl

namespace Database

/-- The database is closed: nobody is connected to it, and its storage is closed. -/
structure Shut (database : Database) : Prop where
  closed : database.closed = true
  connected : database.lock.connected = []
  holder : database.lock.holder = none
  storage : database.storage.closed = true

variable {database : Database}

theorem shut_close (stillOpen : database.closed = false) (disk : FileSystem) :
    (database.close disk).1.Shut := by
  rw [close_of_open stillOpen]
  exact ⟨rfl, rfl, rfl, database.storage.closed_close disk⟩

namespace Shut

theorem of_eq (h : database.Shut) {other : Database} (closed : other.closed = database.closed)
    (lock : other.lock = database.lock) (storage : other.storage.closed = database.storage.closed) :
    other.Shut := by
  refine ⟨closed.trans h.closed, ?_, ?_, storage.trans h.storage⟩
  · rw [lock]
    exact h.connected
  · rw [lock]
    exact h.holder

theorem turn (h : database.Shut) (session : SessionId) :
    database.lock.turn session = .refused := by
  unfold ExclusiveLock.turn
  rw [h.connected, if_neg List.not_mem_nil]

theorem connect (h : database.Shut) : database.connect = (.error .databaseClosed, database) := by
  unfold Database.connect
  rw [h.closed, if_pos rfl]

theorem close (h : database.Shut) (disk : FileSystem) : database.close disk = (database, disk) :=
  close_of_closed h.closed disk

theorem lock_disconnect (h : database.Shut) (session : SessionId) :
    database.lock.disconnect session = database.lock := by
  rcases database.lock.disconnect_cases session with ⟨held, -⟩ | ⟨-, member, -⟩ | ⟨-, -, same⟩
  · rw [h.holder] at held
    cases held
  · rw [h.connected] at member
    cases member
  · exact same

end Shut

end Database

/-! ## What is left of statements under way -/

namespace Frame

/-- What the result of the query that the frame is of would be kept under, if its turn has come. -/
def fingerprint? : Frame τ → Option Fingerprint
  | .admitted (.query statement _ _) => some statement.fingerprint
  | .scanning key .. => some key
  | _ => none

theorem fingerprint?_receive (frame : Frame τ) (answer : Answer τ) :
    (frame.receive answer).fingerprint? = frame.fingerprint? := by
  cases frame <;> rfl

theorem eq_writing_of_receive {frame : Frame τ} {answer : Answer τ} {record : Bytes}
    {during : List (Call τ)} {apply : τ → τ}
    (receives : frame.receive answer = .writing record during apply) :
    frame = .writing record during apply := by
  cases frame with
  | scanning | applying => cases receives
  | _ => exact receives

end Frame

theorem ReuseCache.mem_lookup {cache after : ReuseCache} {key : Fingerprint} {cacheable : Bool}
    {generation : UInt64} {found : Lookup} {entry : CacheEntry}
    (looks : cache.lookup key cacheable generation = (found, after))
    (member : entry ∈ after.entries) : entry ∈ cache.entries := by
  have subset := cache.lookup_subset key cacheable generation
  rw [looks] at subset
  exact subset member

/-- A database that was closed, as `before` was until then: the generation has not moved, or the
commit that was under way has moved it, and what the cache keeps was asked for by one of the
queries that `keys` are of. -/
structure Database.Aftermath (before : Database) (keys : Fingerprint → Prop)
    (database : Database) : Prop where
  shut : database.Shut
  generation :
    database.generation = before.generation ∧
        (database.committing = true → before.committing = true) ∨
      database.generation = before.generation + 1 ∧ before.committing = true ∧
        database.committing = false
  kept : ∀ entry ∈ database.cache.entries, keys entry.key

theorem Database.aftermath_close {database : Database} (stillOpen : database.closed = false)
    (disk : FileSystem) (keys : Fingerprint → Prop) :
    database.Aftermath keys (database.close disk).1 := by
  have shut := database.shut_close stillOpen disk
  rw [close_of_open stillOpen] at shut ⊢
  exact ⟨shut, .inl ⟨rfl, id⟩, nofun⟩

/-- Whatever its storage does, a closed database stays as it is. -/
theorem Database.Aftermath.endures {before database : Database} {keys : Fingerprint → Prop}
    (h : before.Aftermath keys database) {storage : Storage}
    (endures : database.storage.Endures storage) :
    before.Aftermath keys { database with storage } :=
  ⟨⟨h.shut.closed, h.shut.connected, h.shut.holder, endures.closed h.shut.storage⟩, h.generation,
    h.kept⟩

/-- A commit that writes its record at a closed database leaves it closed. -/
theorem Database.Aftermath.writeRecord {before database after : Database}
    {keys : Fingerprint → Prop} (h : before.Aftermath keys database)
    (busy : database.committing = true) {record : Bytes} {disk left : FileSystem}
    {result : Except Fault Unit}
    (writes : database.writeRecord record disk = (result, after, left)) :
    before.Aftermath keys after := by
  obtain ⟨committing, journals⟩ := database.writeRecord_snd record disk
  rw [writes] at journals
  cases journals
  refine ⟨h.shut.of_eq rfl rfl rfl, ?_, h.kept⟩
  rcases h.generation with ⟨same, was⟩ | ⟨-, -, done⟩
  · exact .inl ⟨same, fun _ => was busy⟩
  · rw [busy] at done
    cases done

namespace Engine

variable {engine changed : Engine τ} {frame left : Frame τ} {before : Database}
  {keys : Fingerprint → Prop}

/-- **A step at a closed database** leaves it closed; a commit may be done, and a query may leave
its rows. -/
theorem aftermath_advance (h : before.Aftermath keys engine.database)
    (own : ∀ key, frame.fingerprint? = some key → keys key)
    (busy : frame.isCommit = true → engine.database.committing = true)
    (advances : (engine.advance frame).engine? = some changed) :
    before.Aftermath keys changed.database := by
  have transition := transition_advance engine frame
  generalize engine.advance frame = advance at transition advances
  cases transition with
  | connects =>
    cases advances
    rw [h.shut.connect]
    exact h
  | disconnects session =>
    cases advances
    exact ⟨h.shut.of_eq rfl (h.shut.lock_disconnect session) rfl, h.generation, h.kept⟩
  | ends session =>
    cases advances
    show before.Aftermath keys (engine.database.endSession session)
    unfold Database.endSession
    split
    next => exact h
    next => exact ⟨h.shut.of_eq rfl (h.shut.lock_disconnect session) rfl, h.generation, h.kept⟩
  | closes =>
    cases advances
    rw [h.shut.close]
    exact h
  | clears =>
    cases advances
    exact ⟨h.shut.of_eq rfl rfl rfl, h.generation, nofun⟩
  | holds enable seen turn =>
    rw [h.shut.turn] at turn
    cases turn
  | switches enable =>
    cases advances
    exact ⟨h.shut.of_eq rfl rfl rfl, h.generation,
      fun entry member => h.kept entry (ReuseCache.setEnabled_subset _ _ member)⟩
  | reuses during rows looks =>
    cases advances
    exact ⟨h.shut.of_eq rfl rfl rfl, h.generation,
      fun entry member => h.kept entry (ReuseCache.mem_lookup looks member)⟩
  | scans during rows looks =>
    cases advances
    exact ⟨h.shut.of_eq rfl rfl rfl, h.generation,
      fun entry member => h.kept entry (ReuseCache.mem_lookup looks member)⟩
  | begins record during apply alone permitted =>
    rw [Storage.checkWriting_of_closed h.shut.storage] at permitted
    cases permitted
  | fails during apply writes =>
    cases advances
    exact h.writeRecord (busy rfl) writes
  | records during apply writes =>
    cases advances
    exact h.writeRecord (busy rfl) writes
  | keeps key found answers yielded =>
    cases advances
    refine ⟨h.shut.of_eq rfl rfl rfl, h.generation, ?_⟩
    intro entry member
    rcases ReuseCache.mem_keep member with old | ⟨-, rfl⟩
    · exact h.kept entry old
    · exact own key rfl
  | commits result answers =>
    cases advances
    refine ⟨h.shut.of_eq rfl rfl rfl, .inr ?_, h.kept⟩
    rcases h.generation with ⟨same, was⟩ | ⟨-, -, done⟩
    · exact ⟨congrArg (· + 1) same, was (busy rfl), rfl⟩
    · rw [busy rfl] at done
      cases done
  | redirects | waits | yields => cases advances
  | _ => cases advances; exact h

/-- What is left of a frame of a query is of the same query, unless its turn has come. -/
theorem fingerprint?_of_left {key : Fingerprint}
    (leaves : (engine.advance frame).frame? = some left)
    (noTurn : ∀ session, engine.database.lock.turn session ≠ .granted)
    (keeps : left.fingerprint? = some key) : frame.fingerprint? = some key := by
  have transition := transition_advance engine frame
  generalize engine.advance frame = advance at transition leaves
  cases transition with
  | admits errand seen turn => exact absurd turn (noTurn _)
  | scans | queryCalls =>
    cases leaves
    exact keeps
  | joins | waits | permits | begins | records | applies | updateCalls | yields =>
    cases leaves
    cases keeps
  | _ => cases leaves

/-- No frame comes to write a record while that is not permitted. -/
theorem ne_writing_of_left {fault : Fault} (leaves : (engine.advance frame).frame? = some left)
    (refused : engine.database.storage.checkWriting = .error fault) (record : Bytes)
    (during : List (Call τ)) (apply : τ → τ) : left ≠ .writing record during apply := by
  have transition := transition_advance engine frame
  generalize engine.advance frame = advance at transition leaves
  rintro rfl
  cases transition with
  | begins _ _ _ alone permitted =>
    rw [refused] at permitted
    cases permitted
  | _ => cases leaves

/-- A step at a closed database changes the disk only by writing a record. -/
theorem disk_of_shut (shut : engine.database.Shut)
    (advances : (engine.advance frame).engine? = some changed) :
    changed.disk = engine.disk ∨
      ∃ record during apply, frame = .writing record during apply ∧
        changed.disk = (engine.append record).disk := by
  cases leaves_advance advances with
  | same storage journal disk => exact .inl disk
  | closed database disk =>
    rw [shut.close] at disk
    exact .inl disk
  | appended record storage journal disk => exact .inr ⟨record, _, _, rfl, disk⟩

end Engine

/-! ## Whatever comes after -/

/-- The rest of an operation at the database that will not have to ask any more, or only for an
id. -/
def Interrupted.isPending (site : SiteId) (interrupted : Interrupted) : Bool :=
  interrupted.site == site && !interrupted.rest.isTaken

namespace Scene

variable {closing scene later next : Scene τ} {acted : Option (Activation τ)} {site : SiteId}
  {engine : Engine τ}

/-- In one step a call closes a database that was open. -/
inductive Closes (site : SiteId) (engine : Engine τ) (closing next : Scene τ) : Prop where
  | intro (step : closing.Step (some ⟨site, .entering .close⟩) next)
      (there : closing.host.engine? site = some engine)
      (stillOpen : engine.database.closed = false)

/-- A frame at the database of which `good` holds is under way. -/
def Shows (scene : Scene τ) (site : SiteId) (good : Frame τ → Prop) : Prop :=
  ∃ marked ∈ scene.frames, marked.site = site ∧ good marked.frame

/-- What has become of a database since it was closed, as `before` was until then, and of what was
under way then. -/
structure Final (closing : Scene τ) (site : SiteId) (before : Database) (later : Scene τ)
    (now : Engine τ) : Prop where
  /-- Nobody is connected, nobody holds the lock, and the storage is closed. -/
  shut : now.database.Shut
  /-- The generation does not move, but for a commit that had begun. -/
  generation : now.database.generation = before.generation ∨
    now.database.generation = before.generation + 1 ∧
      closing.Shows site (·.isCommit = true)
  /-- No two commits had begun. -/
  single : closing.frames.countP (Marked.commitsAt site) ≤ 1
  /-- Each entry of the cache is of a query whose turn had come. -/
  kept : ∀ entry ∈ now.database.cache.entries,
    closing.Shows site (·.fingerprint? = some entry.key)
  /-- A step of a call changes the disk only if it writes the record of the commit that was about
  to, by an append to the journal. -/
  stepped : ∀ frame next, later.Step (some ⟨site, frame⟩) next →
    next.host.disk = later.host.disk ∨
      ∃ record during apply, frame = .writing record during apply ∧
        closing.Shows site (· = .writing record during apply) ∧
        next.host.disk = (now.append record).disk
  /-- No operation that asks first is permitted any more. -/
  refused : ∀ operation : Operation, operation.asksFirst = true →
    now.database.storage.permission operation = .error .databaseClosed
  /-- An operation that begins now, but for recovering a block file, leaves the disk as it is, or
  removes scratch files. -/
  operated : ∀ operation, (∀ blocks, operation ≠ .recoverBlocks blocks) →
    (later.host.operate site operation).disk = later.host.disk ∨
      (∃ requested, operation = .freeSpace requested) ∧
        Spares now.database.storage.path later.host.disk (later.host.operate site operation).disk
  /-- Operations that are permitted and not done yet were so when the database was closed. -/
  pending : (later.interrupted.filter (·.isPending site)).Sublist
    (closing.interrupted.filter (·.isPending site))
  /-- An id that was taken and needs a new reservation is given up. -/
  taken : ∀ interrupted ∈ later.interrupted, interrupted.site = site →
    interrupted.rest.isTaken = true → (later.host.proceed interrupted).1 = none ∧
      (later.host.proceed interrupted).2.disk = later.host.disk

/-- What is known of a database, and of what is under way there, since it was closed. -/
structure Follows (closing : Scene τ) (site : SiteId) (before : Database) (scene : Scene τ) :
    Prop where
  sound : scene.Sound
  there : ∃ here, scene.host.sites[site]? = some here ∧
    before.Aftermath (fun key => closing.Shows site (·.fingerprint? = some key)) here.database
  asks : ∀ key, scene.Shows site (·.fingerprint? = some key) →
    closing.Shows site (·.fingerprint? = some key)
  writes : ∀ record during apply, scene.Shows site (· = .writing record during apply) →
    closing.Shows site (· = .writing record during apply)
  pending : (scene.interrupted.filter (·.isPending site)).Sublist
    (closing.interrupted.filter (·.isPending site))

/-- A frame of which `good` holds was under way before, if no frame comes to be one. -/
theorem Step.shows {good : Frame τ → Prop} (step : scene.Step acted next)
    (receives : ∀ frame answer, good (frame.receive answer) → good frame)
    (enters : ∀ call, ¬good (.entering call))
    (remains : ∀ engine frame left, scene.host.engine? site = some engine →
      acted = some ⟨site, frame⟩ → (engine.advance frame).frame? = some left → good left →
        good frame) (shows : next.Shows site good) : scene.Shows site good := by
  suffices all : ∀ marked ∈ next.frames, marked.site = site → good marked.frame →
      scene.Shows site good by
    obtain ⟨marked, member, here, holds⟩ := shows
    exact all marked member here holds
  refine step.forall_frames (fun marked member here holds => ⟨marked, member, here, holds⟩) ?_ ?_ ?_
  · exact fun marked answer before here holds => before here (receives _ _ holds)
  · exact fun _ call _ holds => absurd holds (enters call)
  · intro top engine frame moves there left before here holds
    obtain rfl : top.site = site := here
    exact before rfl (remains engine top.frame frame there moves left holds)

/-- The frame closes a database, or takes its step at one that is closed. -/
def Quiet (engine : Engine τ) (frame : Frame τ) : Prop :=
  frame = .entering .close ∨ engine.database.Shut

/-- No query comes to its turn at a closed database. -/
theorem Step.asks (step : scene.Step acted next)
    (quiet : ∀ engine frame, scene.host.engine? site = some engine →
      acted = some ⟨site, frame⟩ → Quiet engine frame) {key : Fingerprint}
    (asks : next.Shows site (·.fingerprint? = some key)) :
    scene.Shows site (·.fingerprint? = some key) := by
  refine step.shows ?_ (fun _ => nofun) ?_ asks
  · intro frame answer keeps
    rwa [Frame.fingerprint?_receive] at keeps
  · intro engine frame left there moves leaves keeps
    rcases quiet engine frame there moves with rfl | shut
    · cases leaves
    · refine Engine.fingerprint?_of_left leaves (fun session turn => ?_) keeps
      rw [shut.turn] at turn
      cases turn

/-- No commit comes to write its record at a closed database. -/
theorem Step.writes (step : scene.Step acted next)
    (quiet : ∀ engine frame, scene.host.engine? site = some engine →
      acted = some ⟨site, frame⟩ → Quiet engine frame) {record : Bytes} {during : List (Call τ)}
    {apply : τ → τ} (writes : next.Shows site (· = .writing record during apply)) :
    scene.Shows site (· = .writing record during apply) := by
  refine step.shows (fun _ _ => Frame.eq_writing_of_receive) (fun _ => nofun) ?_ writes
  intro engine frame left there moves leaves same
  rcases quiet engine frame there moves with rfl | shut
  · cases leaves
  · have refused := Storage.checkWriting_of_closed shut.storage
    exact absurd same (Engine.ne_writing_of_left leaves refused record during apply)

/-- What is left of an operation after another step at a closed storage will be given up. -/
theorem filter_isPending_proceed {host : Host τ} {interrupted : Interrupted}
    (closed : ∀ engine, host.engine? site = some engine →
      engine.database.storage.closed = true) :
    (host.proceed interrupted).1.toList.filter (·.isPending site) = [] := by
  rw [List.filter_eq_nil_iff]
  intro left member
  cases there : host.engine? interrupted.site with
  | none =>
    unfold Host.proceed at member
    rw [there] at member
    cases member
  | some engine =>
    rw [Host.proceed_of_engine? there] at member
    obtain ⟨rest, proceeds, rfl⟩ := Option.map_eq_some_iff.1 (Option.mem_toList.1 member)
    unfold Interrupted.isPending
    by_cases here : interrupted.site = site
    · rw [here] at there
      rw [Storage.isTaken_of_proceed (closed engine there) proceeds]
      simp
    · simp [here]

/-- Nothing is permitted by a closed storage. -/
theorem Step.pending (step : scene.Step acted next)
    (closed : acted = none → ∀ engine, scene.host.engine? site = some engine →
      engine.database.storage.closed = true) :
    (next.interrupted.filter (·.isPending site)).Sublist
      (scene.interrupted.filter (·.isPending site)) := by
  cases step with
  | begun | moved | operated | opened | disturbed => exact .refl _
  | @interrupted other engine operation there asks permitted =>
    by_cases here : other = site
    · subst here
      rw [Storage.permission_of_closed (closed rfl engine there) asks] at permitted
      cases permitted
    · rw [List.filter_cons_of_neg (by simp [Interrupted.isPending, here])]
  | @proceeded front back interrupted among =>
    rw [among, List.filter_append, List.filter_append, filter_isPending_proceed (closed rfl),
      List.append_nil, List.filter_append]
    exact (List.Sublist.refl _).append ((List.sublist_cons_self _ _).filter _)

theorem Follows.step {before : Database} (h : Follows closing site before scene)
    (step : scene.Step acted next) : Follows closing site before next := by
  obtain ⟨here, found, aftermath⟩ := h.there
  have thereIs (engine : Engine τ) (there : scene.host.engine? site = some engine) :
      engine.database = here.database := by
    cases found.symm.trans (Host.engine?_eq_some there).1
    rfl
  have shut (engine : Engine τ) (there : scene.host.engine? site = some engine) :
      engine.database.Shut := by
    rw [thereIs engine there]
    exact aftermath.shut
  have quiet (engine : Engine τ) (frame : Frame τ) (there : scene.host.engine? site = some engine)
      (_ : acted = some ⟨site, frame⟩) : Quiet engine frame :=
    .inr (shut engine there)
  refine ⟨h.sound.step step, ?_, fun key asks => h.asks key (step.asks quiet asks),
    fun record during apply writes => h.writes _ _ _ (step.writes quiet writes),
    (step.pending fun _ engine there => (shut engine there).storage).trans h.pending⟩
  cases step.affects site with
  | same sites => exact ⟨here, sites.trans found, aftermath⟩
  | opened opens tables vacant =>
    unfold Host.engine? at vacant
    rw [found] at vacant
    cases vacant
  | @operated engine storage there endures sites =>
    refine ⟨_, sites, ?_⟩
    rw [← thereIs engine there] at aftermath
    exact aftermath.endures endures
  | @stepped engine changed frame there by_frame advances sites =>
    refine ⟨_, sites, ?_⟩
    rw [← thereIs engine there] at aftermath
    obtain ⟨⟨⟨_, _⟩, _⟩, member, ⟨⟩⟩ := step.mem_frames by_frame
    refine Engine.aftermath_advance aftermath ?_ ?_ advances
    · exact fun key keeps => h.asks key ⟨_, member, rfl, keeps⟩
    · exact fun commits => Host.committing_of_commitment there (h.sound.busy member commits)

/-- The call that closes a database leaves nothing of it, but for what is under way. -/
theorem Closes.follows (h : Closes site engine closing scene) (sound : closing.Sound) :
    Follows closing site engine.database scene := by
  obtain ⟨step, there, stillOpen⟩ := h
  have left := step.host_of_moved rfl there
  have quiet (engine' : Engine τ) (frame : Frame τ) (_ : closing.host.engine? site = some engine')
      (moves : some (⟨site, .entering .close⟩ : Activation τ) = some ⟨site, frame⟩) :
      Quiet engine' frame := by
    cases moves
    exact .inl rfl
  refine ⟨sound.step step, ?_, fun key asks => step.asks quiet asks,
    fun record during apply writes => step.writes quiet writes, step.pending nofun⟩
  refine ⟨_, by rw [left]; exact sites_put there _, ?_⟩
  exact Database.aftermath_close stillOpen engine.disk _

/-- The commit that a database is in when it is closed is one of the calls under way. -/
theorem Closes.commits (h : Closes site engine closing scene) (sound : closing.Sound)
    (committing : engine.database.committing = true) :
    closing.Shows site (·.isCommit = true) := by
  obtain ⟨-, there, -⟩ := h
  have one := sound.commits site
  rw [Host.commitment_of_engine? there, committing] at one
  have some_one : 0 < closing.frames.countP (Marked.commitsAt site) := by
    rw [one]
    exact Nat.one_pos
  obtain ⟨marked, member, commits⟩ := List.countP_pos_iff.1 some_one
  obtain ⟨here, commits⟩ := Bool.and_eq_true_iff.1 commits
  exact ⟨marked, member, beq_iff_eq.1 here, commits⟩

/-- **A database is closed for good**, and only what was under way when it was closed leaves a
trace. -/
theorem closed_ever_after (reachable : closing.Reachable)
    (closes : Closes site engine closing scene) (after : scene.Later later) :
    ∃ now, later.host.engine? site = some now ∧
      Final closing site engine.database later now := by
  have follows : Follows closing site engine.database later := by
    -- By induction on what came after, one step at a time.
    induction after with
    | refl => exact closes.follows reachable.sound
    | tail _ step ih =>
      obtain ⟨acted, step, -⟩ := step
      exact ih.step step
  obtain ⟨here, found, aftermath⟩ := follows.there
  let now : Engine τ := ⟨here.database, later.host.disk, here.tables⟩
  have there : later.host.engine? site = some now := by
    unfold Host.engine?
    rw [found]
    rfl
  have shut : now.database.Shut := aftermath.shut
  refine ⟨now, there, ?_⟩
  exact {
    shut
    generation := by
      rcases aftermath.generation with ⟨same, -⟩ | ⟨moved, committing, -⟩
      · exact .inl same
      · exact .inr ⟨moved, closes.commits reachable.sound committing⟩
    single := by
      rw [reachable.sound.commits site]
      exact closing.host.commitment_le_one site
    kept := aftermath.kept
    stepped frame next step := by
      rw [step.host_of_moved rfl there]
      cases advances : (now.advance frame).engine? with
      | none => exact .inl rfl
      | some changed =>
        rcases Engine.disk_of_shut shut advances with same | ⟨record, during, apply, rfl, writes⟩
        · exact .inl same
        · obtain ⟨⟨⟨_, _⟩, _⟩, member, ⟨⟩⟩ := step.mem_frames rfl
          exact .inr ⟨record, during, apply, rfl,
            follows.writes record during apply ⟨_, member, rfl, rfl⟩, writes⟩
    refused operation asks := Storage.permission_of_closed shut.storage asks
    operated operation spared := by
      unfold Host.operate
      rw [there]
      rcases Storage.perform_of_closed shut.storage later.host.disk operation with
        same | ⟨requested, rfl⟩ | ⟨blocks, recovers⟩
      · exact .inl same
      · have tidy := follows.sound.tidy site here found
        exact .inr ⟨⟨requested, rfl⟩,
          (Storage.freeSpace_spares tidy later.host.disk requested).1⟩
      · exact absurd recovers (spared blocks)
    pending := follows.pending
    taken := by
      rintro ⟨_, rest⟩ - rfl taken
      rw [Host.proceed_of_engine? there]
      cases rest with
      | taken id space =>
        rw [Storage.proceed_taken_of_closed shut.storage]
        exact ⟨rfl, rfl⟩
      | permitted | reserving => cases taken }

/-! ## Traces of what was under way -/

/-- A query that yields no rows. -/
def survey : Statement :=
  { text := "SELECT 1", constructs := [], params := [], complete := true }

/-- The body of a query closes the database, and the rows that it yields then are kept. -/
theorem closed_ever_after_survey : ∃ (closing scene later : Scene Unit) (engine : Engine Unit),
    closing.Reachable ∧ Closes 0 engine closing scene ∧ scene.Later later ∧
      ∃ now, later.host.engine? 0 = some now ∧ Final closing 0 engine.database later now ∧
        now.database.cache.entries.map (·.key) = [survey.fingerprint] ∧
        closing.Shows 0 (·.fingerprint? = some survey.fingerprint) := by
  obtain ⟨database, opens⟩ := Host.firstOpening_eq
  have visits := reachable_visited opens ()
  obtain ⟨storage, journal, recovered, -, rfl⟩ := Database.openAt_first opens
  let disk := Host.firstOpening.2
  let lock : ExclusiveLock := { connected := [⟨2⟩, ⟨1⟩] }
  let cache : ReuseCache := .new 64 true
  let entry : CacheEntry := ⟨survey.fingerprint, [], 0⟩
  let scene (cache : ReuseCache) (stack : Stack Unit) (clock : Nat) : Scene Unit :=
    ⟨.ofDatabase { storage, cache, journal, recovered, lock, nextSession := 3 } disk (),
      [stack, [], []], clock, []⟩
  let closed (cache : ReuseCache) (stack : Stack Unit) (clock : Nat) : Scene Unit :=
    ⟨.ofDatabase
      { storage := (storage.close disk).1, cache, journal, recovered, lock := lock.shutdown
        nextSession := 3, closed := true } (storage.close disk).2 (), [stack, [], []], clock, []⟩
  let rows : Unit → Except Fault Rows := fun _ => .ok []
  let query (frame : Frame Unit) : Marked Unit := ⟨⟨0, frame⟩, some ⟨⟨1⟩, 3⟩⟩
  let scanning (pending : List (Call Unit)) (answers : List (Answer Unit)) : Frame Unit :=
    .scanning survey.fingerprint (.miss 0) pending rows answers
  have waits : (scene cache
      [⟨⟨0, .queued ⟨1⟩ (.query survey [.close] rows) none⟩, none⟩] 3).Reachable :=
    (visits.step (.begun 0 (.query ⟨1⟩ survey [.close] rows))).step (step_among _ [] ..)
  have admitted : (scene cache [query (.admitted (.query survey [.close] rows))] 4).Reachable :=
    waits.step (step_among _ [] ..)
  have runs : (scene cache.countMiss [query (scanning [.close] [])] 5).Reachable :=
    admitted.step (step_among _ [] ..)
  have calls : (scene cache.countMiss
      [⟨⟨0, .entering .close⟩, none⟩, query (scanning [] [])] 6).Reachable :=
    runs.step (step_among _ [] ..)
  have closes : Closes 0 _ (scene cache.countMiss
      [⟨⟨0, .entering .close⟩, none⟩, query (scanning [] [])] 6)
      (closed cache.countMiss [query (scanning [] [.done (.ok ())])] 7) :=
    ⟨step_among _ [] .., rfl, rfl⟩
  have yields : (closed cache.countMiss [query (scanning [] [.done (.ok ())])] 7).Later
      (closed (cache.countMiss.promote entry) [] 8) :=
    .single ⟨_, step_among _ [] .., fun _ _ => not_false⟩
  obtain ⟨now, there, final⟩ := closed_ever_after calls closes yields
  cases there
  exact ⟨_, _, _, _, calls, closes, yields, _, rfl, final, rfl,
    final.kept entry List.mem_cons_self⟩

/-- Takes the first of the calls that is not answered yet one step on. -/
def moveFirst (host : Host τ) (clock : Nat) : List (Stack τ) → Host τ × List (Stack τ)
  | [] => (host, [])
  | [] :: back =>
    let (host, tasks) := moveFirst host clock back
    (host, [] :: tasks)
  | (top :: below) :: back =>
    let (host, stack) := Stack.step host clock top below
    (host, stack :: back)

/-- What is done in a scene at the first database. -/
inductive Deed (τ : Type) where
  /-- To begin a call. -/
  | begin (call : Call τ)
  /-- To take the call a step on that was begun last and is not answered yet. -/
  | move
  /-- To let the storage do something. -/
  | operate (operation : Operation)
  /-- To let the storage permit something. -/
  | permit (operation : Operation)
  /-- To take what was permitted last one step on. -/
  | proceed

/-- Does something, if there is something to do. -/
def act (scene : Scene τ) : Deed τ → Scene τ
  | .begin call => { scene with tasks := [{ site := 0, frame := .entering call }] :: scene.tasks }
  | .move =>
    if scene.tasks.all List.isEmpty then scene
    else
      let (host, tasks) := moveFirst scene.host scene.clock scene.tasks
      { scene with host, tasks, clock := scene.clock + 1 }
  | .operate operation => { scene with host := scene.host.operate 0 operation }
  | .permit operation =>
    match scene.host.engine? 0 with
    | none => scene
    | some engine =>
      match operation.asksFirst, engine.database.storage.permission operation with
      | true, .ok () => { scene with interrupted := ⟨0, .permitted operation⟩ :: scene.interrupted }
      | _, _ => scene
  | .proceed =>
    match scene.interrupted with
    | [] => scene
    | first :: others =>
      { scene with
        host := (scene.host.proceed first).2
        interrupted := (scene.host.proceed first).1.toList ++ others }

theorem moveFirst_eq (host : Host τ) (clock : Nat) {tasks : List (Stack τ)}
    (some : tasks.all List.isEmpty = false) :
    ∃ front top below back, tasks = front ++ (top :: below) :: back ∧
      moveFirst host clock tasks = ((Stack.step host clock top below).1,
        front ++ (Stack.step host clock top below).2 :: back) := by
  induction tasks with
  | nil => cases some
  | cons stack tasks ih =>
    cases stack with
    | nil =>
      obtain ⟨front, top, below, back, rfl, moves⟩ := ih some
      refine ⟨[] :: front, top, below, back, rfl, ?_⟩
      rw [moveFirst, moves]
      rfl
    | cons top below => exact ⟨[], top, below, tasks, rfl, rfl⟩

theorem later_act (scene : Scene τ) (deed : Deed τ) : scene.Later (scene.act deed) := by
  have once {next : Scene τ} {acted : Option (Activation τ)} (step : scene.Step acted next) :
      scene.Later next :=
    .single ⟨acted, step, fun _ _ => not_false⟩
  cases deed with
  | begin call => exact once (.begun 0 call)
  | operate operation => exact once (.operated 0 operation)
  | move =>
    simp only [act]
    split
    next => exact .refl
    next some =>
      obtain ⟨front, top, below, back, among, moves⟩ :=
        moveFirst_eq scene.host scene.clock (Bool.eq_false_iff.2 some)
      rw [moves]
      exact once (.moved among)
  | permit operation =>
    simp only [act]
    split
    next => exact .refl
    next engine there =>
      split
      next asks permitted => exact once (.interrupted there asks permitted)
      next => exact .refl
  | proceed =>
    simp only [act]
    split
    next => exact .refl
    next first others among =>
      have among : scene.interrupted = [] ++ first :: others := among
      exact once (.proceeded among)

/-- Does one thing after another. -/
def play (scene : Scene τ) (deeds : List (Deed τ)) : Scene τ :=
  deeds.foldl act scene

theorem later_play (scene : Scene τ) (deeds : List (Deed τ)) : scene.Later (scene.play deeds) := by
  induction deeds generalizing scene with
  | nil => exact .refl
  | cons deed deeds ih => exact (later_act scene deed).trans (ih (scene.act deed))

/-- A database that was just opened. -/
def first (database : Database) : Scene Nat :=
  { host := .ofDatabase database Host.firstOpening.2 0 }

/-- What may be seen of a database and of its lasting files. -/
structure Outline where
  closed : Bool
  generation : UInt64
  /-- How many results the cache keeps. -/
  entries : Nat
  journal : Bytes
  reservations : Bytes
  deriving DecidableEq

/-- The bytes of a file of the first database. -/
def bytesOf (disk : FileSystem) (name : String) : Bytes :=
  match disk.find? ["db", name] with
  | some (.file id) => disk.content id
  | _ => []

/-- What may be seen of the first database. -/
def outline (scene : Scene Nat) : Option Outline :=
  scene.host.sites[0]?.map fun there =>
    { closed := there.database.closed
      generation := there.database.generation
      entries := there.database.cache.entries.length
      journal := bytesOf scene.host.disk "commit.journal"
      reservations := bytesOf scene.host.disk "lob.ids" }

/-- The call that closes the database is begun and answered. -/
def close : List (Deed Nat) :=
  [.begin .close, .move]

/-- A session is connected, and a call of it is taken some steps on. -/
def underWay (call : Call Nat) (steps : Nat) : List (Deed Nat) :=
  [.begin .connect, .move, .begin call] ++ List.replicate steps .move

/-- A block file that is the journal. -/
def journalBlocks : BlockFile :=
  .fresh ⟨["", "db", "commit.journal"]⟩ Config.testing.blockLimit 1

/-- What was under way when the database was closed, and what is done of it afterwards. -/
inductive Remainder where
  /-- A query is about to yield its rows. -/
  | query
  /-- An update is about to write its record. -/
  | update
  /-- An append to the journal was permitted. -/
  | appendBlock
  /-- An allocation may write its reservation. -/
  | allocateId
  /-- The power went within a block, and the journal was not recovered. -/
  | recoverBlocks

namespace Remainder

/-- What is done up to closing the database. -/
def before : Remainder → List (Deed Nat)
  | .query => underWay (.query ⟨1⟩ survey [] fun _ => .ok []) 3 ++ close
  | .update => underWay (.update ⟨1⟩ [7] [] (· + 1)) 4 ++ close
  | .appendBlock => .permit (.appendBlock journalBlocks [7]) :: close
  | .allocateId =>
    [.permit (.serve (.allocateId true .dataFile)), .proceed, .proceed] ++ close
  | .recoverBlocks =>
    [.operate (.serve (.armPower 2)), .operate (.appendBlock journalBlocks [7])] ++ close

/-- What is done after that. -/
def after : Remainder → List (Deed Nat)
  | .query => [.move]
  | .update => [.move, .move, .move]
  | .appendBlock | .allocateId => [.proceed]
  | .recoverBlocks => [.operate (.recoverBlocks journalBlocks)]

/-- What may be seen of the database when it was just closed, and when the rest is done. -/
def outlines (database : Database) (remainder : Remainder) : Option Outline × Option Outline :=
  (((first database).play remainder.before).outline,
    ((first database).play (remainder.before ++ remainder.after)).outline)

end Remainder

/-- **A closed database does not stay as it is**: a query that was under way leaves an entry in the
cache; an update that was about to write its record writes it and moves the generation; an append to
the journal and a reservation that were permitted are written; and recovering the journal cuts a
torn block off. -/
theorem closed_not_untouched : ∃ database,
    Database.openAt .empty ⟨["", "db"]⟩ .testing "a" = (.ok database, Host.firstOpening.2) ∧
      (first database).Reachable ∧
      (∀ deeds more,
        ((first database).play deeds).Later ((first database).play (deeds ++ more))) ∧
      Remainder.query.outlines database =
        (some ⟨true, 0, 0, [], []⟩, some ⟨true, 0, 1, [], []⟩) ∧
      Remainder.update.outlines database =
        (some ⟨true, 0, 0, [], []⟩, some ⟨true, 1, 0, row [[7]], []⟩) ∧
      Remainder.appendBlock.outlines database =
        (some ⟨true, 0, 0, [], []⟩, some ⟨true, 0, 0, row [[7]], []⟩) ∧
      Remainder.allocateId.outlines database =
        (some ⟨true, 0, 0, [], []⟩, some ⟨true, 0, 0, [], row [[2, 4, 0, 0, 1, 0, 0, 0]]⟩) ∧
      Remainder.recoverBlocks.outlines database =
        (some ⟨true, 0, 0, remnant (some [7]), []⟩, some ⟨true, 0, 0, [], []⟩) := by
  obtain ⟨database, opens⟩ := Host.firstOpening_eq
  have computed : (Host.firstOpening.1.toOption.map fun database =>
      [Remainder.query, .update, .appendBlock, .allocateId, .recoverBlocks].map
        (Remainder.outlines database)) =
      some [(some ⟨true, 0, 0, [], []⟩, some ⟨true, 0, 1, [], []⟩),
        (some ⟨true, 0, 0, [], []⟩, some ⟨true, 1, 0, row [[7]], []⟩),
        (some ⟨true, 0, 0, [], []⟩, some ⟨true, 0, 0, row [[7]], []⟩),
        (some ⟨true, 0, 0, [], []⟩, some ⟨true, 0, 0, [], row [[2, 4, 0, 0, 1, 0, 0, 0]]⟩),
        (some ⟨true, 0, 0, remnant (some [7]), []⟩, some ⟨true, 0, 0, [], []⟩)] := by
    decide +kernel
  have opened : Host.firstOpening.1 = .ok database := congrArg Prod.fst opens
  rw [opened] at computed
  have nothing : Reachable { host := { disk := .empty } : Scene Nat } := ⟨.empty, .refl⟩
  refine ⟨database, opens, nothing.step (.opened opens 0), ?_, ?_⟩
  · intro deeds more
    unfold play
    rw [List.foldl_append]
    exact later_play _ more
  · simpa only [Except.toOption, Option.map_some, Option.some.injEq, List.map_cons, List.map_nil,
      List.cons.injEq, and_true] using computed

end Scene

end DurableStore
