import DurableStore.Proofs.Database.SoundScene
import DurableStore.Proofs.ExclusiveLock.Waiting

/-!
Exclusive use, and the statements that were under way before it.

While a session holds the lock it is nobody else's turn, and only the session itself, its end and
the closing of the database free the lock again (`Scene.Holds.step`).  So nobody else's statement
comes to its turn meanwhile: whatever runs for another session had come to it before
(`Scene.holder_bars_newcomers`).  Statements that had come to their turn are not waited for: their
bodies may begin and be done while the lock is held (`Scene.holder_not_alone`).
-/

namespace DurableStore

variable {τ : Type}

/-! ## Results -/

namespace Answer

/-- The body of a statement is done, and this is what it yields. -/
def isResult : Answer τ → Bool
  | .queried (.ok _) _ _ | .updated (.ok _) _ _ => true
  | _ => false

theorem isResult_of_failed (answer : Answer τ) (failed : answer.isOk = false) :
    answer.isResult = false := by
  cases answer with
  | done | connected => rfl
  | queried rows =>
    cases rows with
    | error => rfl
    | ok => cases failed
  | updated result =>
    cases result with
    | error => rfl
    | ok => cases failed

end Answer

/-! ## The holder -/

namespace ExclusiveLock

variable {lock : ExclusiveLock} {session other : SessionId}

theorem free_or_own (turn : lock.turn session = .granted) :
    lock.holder = none ∨ lock.holder = some session := by
  rcases lock.turn_cases session with ⟨refused, -⟩ | ⟨-, -, which⟩ | ⟨waits, -⟩
  · rw [turn] at refused
    cases refused
  · exact which
  · rw [turn] at waits
    cases waits

/-- While a session holds the lock it is nobody else's turn. -/
theorem eq_of_granted (held : lock.holder = some session) (turn : lock.turn other = .granted) :
    other = session := by
  rcases free_or_own turn with free | own
  · rw [held] at free
    cases free
  · exact (Option.some.inj (held.symm.trans own)).symm

theorem holder_accept (lock : ExclusiveLock) (session : SessionId) :
    (lock.accept session).2.holder = lock.holder := by
  rcases lock.accept_cases session with ⟨-, -, same⟩ | ⟨-, same⟩ | ⟨_, -, -, -, same⟩ <;> rw [same]

/-- The end of another session leaves the lock with its holder. -/
theorem holder_disconnect (held : lock.holder = some session) (differs : other ≠ session) :
    (lock.disconnect other).holder = some session := by
  rcases lock.disconnect_cases other with ⟨own, -⟩ | ⟨-, -, same⟩ | ⟨-, -, same⟩
  · exact absurd (Option.some.inj (own.symm.trans held)) differs
  · rw [same]
    exact held
  · rw [same]
    exact held

end ExclusiveLock

namespace Frame

/-- The step gives up what a session holds: the session asks for that, or is closed. -/
def frees : Frame τ → SessionId → Bool
  | .queued holder (.setHeld false) _, session => holder == session
  | frame, session => frame.closes session

end Frame

namespace Engine

variable {engine changed : Engine τ} {frame : Frame τ} {session : SessionId}

theorem holder_connect (database : Database) :
    database.connect.2.lock.holder = database.lock.holder := by
  unfold Database.connect
  split
  next => rfl
  next => exact ExclusiveLock.holder_accept _ _

theorem holder_endSession {database : Database} {other : SessionId}
    (held : database.lock.holder = some session) (differs : other ≠ session) :
    (database.endSession other).lock.holder = some session := by
  unfold Database.endSession
  split
  next => exact held
  next => exact ExclusiveLock.holder_disconnect held differs

theorem lock_of_writes {database after : Database} {record : Bytes} {disk left : FileSystem}
    {result : Except Fault Unit}
    (writes : database.writeRecord record disk = (result, after, left)) :
    after.lock = database.lock := by
  have same := (sameSessions_writeRecord database record disk).lock
  rwa [writes] at same

/-- **A session keeps the lock** until a step gives it up. -/
theorem holder_advance (held : engine.database.lock.holder = some session)
    (keeps : frame.frees session = false)
    (advances : (engine.advance frame).engine? = some changed) :
    changed.database.lock.holder = some session := by
  have transition := transition_advance engine frame
  generalize engine.advance frame = advance at transition advances
  cases transition with
  | connects =>
    cases advances
    exact (holder_connect _).trans held
  | disconnects other =>
    cases advances
    exact ExclusiveLock.holder_disconnect held (beq_eq_false_iff_ne.1 keeps)
  | ends other =>
    cases advances
    exact holder_endSession held (beq_eq_false_iff_ne.1 keeps)
  | closes => cases keeps
  | holds enable seen turn =>
    cases advances
    -- It is the holder's own turn, and it does not give the lock up.
    obtain rfl := ExclusiveLock.eq_of_granted held turn
    cases enable with
    | true => exact ExclusiveLock.holder_setHeld (.inr held) true
    | false => exact absurd keeps (by simp [Frame.frees])
  | fails during apply writes =>
    cases advances
    exact (congrArg (·.holder) (lock_of_writes writes)).trans held
  | records during apply writes =>
    cases advances
    exact (congrArg (·.holder) (lock_of_writes writes)).trans held
  | redirects | waits | yields => cases advances
  | _ => cases advances; exact held

/-- A session whose request for the lock is answered has it. -/
theorem holder_of_answered {seen : Option Nat}
    (answered : engine.advance (.queued session (.setHeld true) seen) =
      .answer changed (.done (.ok ()))) : changed.database.lock.holder = some session := by
  have transition := transition_advance engine (.queued session (.setHeld true) seen)
  generalize engine.advance (.queued session (.setHeld true) seen) = advance at *
  cases transition with
  | waits => cases answered
  | admits => cases answered
  | refuses => cases answered
  | holds enable seen turn =>
    cases answered
    exact ExclusiveLock.holder_setHeld (ExclusiveLock.free_or_own turn) true

/-- A statement of another session is refused or has to wait. -/
theorem advance_queued_of_held (held : engine.database.lock.holder = some session)
    {other : SessionId} (differs : other ≠ session) (errand : Errand τ) (seen : Option Nat) :
    (∃ seen', engine.advance (.queued other errand seen) = .wait (.queued other errand seen')) ∨
      engine.advance (.queued other errand seen) =
        .answer engine (errand.refuse (.connectionClosed other)) := by
  have transition := transition_advance engine (.queued other errand seen)
  generalize engine.advance (.queued other errand seen) = advance at transition
  cases transition with
  | waits _ _ seen' => exact .inl ⟨seen', rfl⟩
  | refuses => exact .inr rfl
  | holds enable _ turn => exact absurd (ExclusiveLock.eq_of_granted held turn) differs
  | admits _ _ turn => exact absurd (ExclusiveLock.eq_of_granted held turn) differs

/-- The bytes of the file that the journal is written to. -/
def journalBytes (engine : Engine τ) : Option Bytes :=
  match engine.database.journal.file.target with
  | .file id => some (engine.disk.content id)
  | .directory => none

/-- The step of the frame is the work of a body: it yields the result of a statement, or it
changes the tables, the generation, the journal or the bytes in it. -/
def Works (engine : Engine τ) (frame : Frame τ) : Prop :=
  (∃ changed answer, engine.advance frame = .answer changed answer ∧ answer.isResult = true) ∨
    ∃ changed, (engine.advance frame).engine? = some changed ∧
      ¬(changed.tables = engine.tables ∧
        changed.database.generation = engine.database.generation ∧
        changed.database.journal = engine.database.journal ∧
        changed.journalBytes = engine.journalBytes)

theorem journalBytes_eq (journal : changed.database.journal = engine.database.journal)
    (contents : changed.disk.contents = engine.disk.contents) :
    changed.journalBytes = engine.journalBytes := by
  unfold journalBytes FileSystem.content FileSystem.stored
  rw [journal, contents]

theorem isResult_of_waiting {answer : Answer τ} (waits : frame.isAdmitted = false)
    (answered : engine.advance frame = .answer changed answer) : answer.isResult = false := by
  have transition := transition_advance engine frame
  rw [answered] at transition
  cases transition with
  | turnedAway calm refused => exact answer.isResult_of_failed refused
  | refuses errand seen turn => exact Answer.isResult_of_failed _ (errand.isOk_refuse _)
  | connects | disconnects | ends | closes | clears | holds => rfl
  | _ => cases waits

theorem same_of_waiting (waits : frame.isAdmitted = false)
    (advances : (engine.advance frame).engine? = some changed) :
    changed.tables = engine.tables ∧
      changed.database.generation = engine.database.generation ∧
        changed.database.journal = engine.database.journal ∧
          changed.journalBytes = engine.journalBytes := by
  have transition := transition_advance engine frame
  generalize engine.advance frame = advance at transition advances
  cases transition with
  | connects =>
    obtain ⟨lock, nextSession, connected⟩ := connect_snd engine.database
    cases advances
    have journal := congrArg (·.journal) connected
    exact ⟨rfl, congrArg (·.generation) connected, journal, journalBytes_eq journal rfl⟩
  | ends session =>
    obtain ⟨lock, ended, same⟩ := endSession_eq engine.database session
    cases advances
    have journal := congrArg (·.journal) same
    exact ⟨rfl, congrArg (·.generation) same, journal, journalBytes_eq journal rfl⟩
  | closes =>
    cases advances
    unfold Database.close
    split
    next => exact ⟨rfl, rfl, rfl, rfl⟩
    next =>
      -- Scratch files may be removed, which takes names away and no bytes.
      exact ⟨rfl, rfl, rfl,
        journalBytes_eq rfl (engine.database.storage.contents_close engine.disk)⟩
  | disconnects | clears | turnedAway | refuses | holds | joins | admits =>
    cases advances
    exact ⟨rfl, rfl, rfl, rfl⟩
  | redirects | waits => cases advances
  | _ => cases waits

/-- Only frames that were admitted do the work of a body. -/
theorem Works.isAdmitted (h : engine.Works frame) : frame.isAdmitted = true := by
  by_contra waits
  rw [Bool.not_eq_true] at waits
  rcases h with ⟨changed, answer, answered, result⟩ | ⟨changed, advances, differs⟩
  · rw [isResult_of_waiting waits answered] at result
    cases result
  · exact differs (same_of_waiting waits advances)

end Engine

/-! ## What runs while the lock is held -/

namespace Scene

variable {before scene later next : Scene τ} {acted : Option (Activation τ)} {site : SiteId}
  {session : SessionId}

/-- The session holds the lock of a database. -/
def Holds (scene : Scene τ) (site : SiteId) (session : SessionId) : Prop :=
  ∃ there, scene.host.sites[site]? = some there ∧ there.database.lock.holder = some session

/-- In one step a session's request for the lock of a database is answered that it has it. -/
inductive Acquires (site : SiteId) (session : SessionId) (before next : Scene τ) : Prop where
  | intro {seen : Option Nat} {engine changed : Engine τ}
      (step : before.Step (some ⟨site, .queued session (.setHeld true) seen⟩) next)
      (there : before.host.engine? site = some engine)
      (answered : engine.advance (.queued session (.setHeld true) seen) =
        .answer changed (.done (.ok ())))

theorem Holds.of_engine? {engine : Engine τ} (h : scene.Holds site session)
    (there : scene.host.engine? site = some engine) :
    engine.database.lock.holder = some session := by
  obtain ⟨here, found, held⟩ := h
  cases found.symm.trans (Host.engine?_eq_some there).1
  exact held

theorem Acquires.holds (h : Acquires site session before next) : next.Holds site session := by
  obtain ⟨step, there, answered⟩ := h
  rw [Holds, step.host_of_moved rfl there, answered]
  refine ⟨_, sites_put there _, ?_⟩
  exact Engine.holder_of_answered answered

theorem Holds.step (h : scene.Holds site session) (step : scene.Step acted next)
    (keeps : ∀ activation ∈ acted,
      ¬(activation.site = site ∧ activation.frame.frees session = true)) :
    next.Holds site session := by
  obtain ⟨here, found, held⟩ := h
  cases step.affects site with
  | same sites => exact ⟨here, sites.trans found, held⟩
  | opened opens tables vacant =>
    unfold Host.engine? at vacant
    rw [found] at vacant
    cases vacant
  | operated there operation sites =>
    cases found.symm.trans (Host.engine?_eq_some there).1
    exact ⟨_, sites, held⟩
  | @stepped engine changed frame there by_frame advances sites =>
    cases found.symm.trans (Host.engine?_eq_some there).1
    have holds : engine.database.lock.holder = some session := held
    refine ⟨_, sites, Engine.holder_advance holds ?_ advances⟩
    exact Bool.eq_false_iff.2 fun frees => keeps _ by_frame ⟨rfl, frees⟩

/-- At the database, a turn was the holder's own, or it came before a moment. -/
def Cleared (site : SiteId) (session : SessionId) (moment : Nat) (here : SiteId) (pass : Pass) :
    Prop :=
  here = site → pass.session = session ∨ pass.moment < moment

/-- While a session holds the lock, nobody else comes to a turn. -/
theorem Holds.cleared_step {moment : Nat} (h : scene.Holds site session)
    (cleared : ∀ marked ∈ scene.frames, marked.Passed (Cleared site session moment))
    (step : scene.Step acted next) :
    ∀ marked ∈ next.frames, marked.Passed (Cleared site session moment) := by
  refine passed_step cleared ?_ step
  rintro here engine other errand seen there - turn rfl
  exact .inl (ExclusiveLock.eq_of_granted (h.of_engine? there) turn)

/-- When the lock is acquired, whatever was admitted at the database was so before. -/
theorem Acquires.cleared (h : Acquires site session before scene) (sound : before.Sound) :
    ∀ marked ∈ scene.frames, marked.Passed (Cleared site session before.clock) := by
  obtain ⟨step, -, -⟩ := h
  refine passed_step (fun marked member => (sound.passed marked member).mono ?_) ?_ step
  · exact fun _ _ earlier _ => .inr earlier
  · rintro here engine other errand seen - same - rfl
    cases same
    exact .inl rfl

/-- **The holder bars newcomers.**  From the moment at which a session is answered that it has the
lock until a step gives the lock up, the session holds it, and a statement of another session that
looks whether it is its turn is refused or has to wait.  Each frame whose body is to begin or runs,
and so each step that does the work of a body, is the holder's own, or it had come to its turn
before the lock was acquired. -/
theorem holder_bars_newcomers (reachable : before.Reachable)
    (acquires : Acquires site session before scene)
    (meanwhile : scene.LaterWithout
      (fun acted => acted.site = site ∧ acted.frame.frees session = true) later) :
    later.Holds site session ∧
      ∀ engine, later.host.engine? site = some engine →
        (∀ other, other ≠ session → ∀ errand seen,
          (∃ seen', engine.advance (.queued other errand seen) =
              .wait (.queued other errand seen')) ∨
            engine.advance (.queued other errand seen) =
              .answer engine (errand.refuse (.connectionClosed other))) ∧
        ∀ marked ∈ later.frames, marked.site = site →
          marked.frame.isAdmitted = true ∨ engine.Works marked.frame →
            ∃ pass, marked.pass? = some pass ∧
              (pass.session = session ∨ pass.moment < before.clock) := by
  have barred : later.Holds site session ∧
      ∀ marked ∈ later.frames, marked.Passed (Cleared site session before.clock) := by
    induction meanwhile with
    | refl => exact ⟨acquires.holds, acquires.cleared reachable.sound⟩
    | tail _ step ih =>
      obtain ⟨holds, cleared⟩ := ih
      obtain ⟨acted, step, keeps⟩ := step
      exact ⟨holds.step step keeps, holds.cleared_step cleared step⟩
  obtain ⟨holds, cleared⟩ := barred
  refine ⟨holds, fun engine there => ⟨?_, ?_⟩⟩
  · intro other differs errand seen
    exact Engine.advance_queued_of_held (holds.of_engine? there) differs errand seen
  · intro marked member here body
    obtain ⟨pass, mark, fine⟩ := cleared marked member (body.elim id Engine.Works.isAdmitted)
    exact ⟨pass, mark, fine here⟩

/-! ## A statement that was under way -/

/-- A query that makes no calls and yields no rows. -/
def draw : Errand Unit :=
  .query { text := "SELECT RAND()", constructs := [.random], params := [], complete := true } []
    fun _ => .ok []

/-- The query runs. -/
def drawn : Frame Unit :=
  .scanning { text := "SELECT RAND()", params := [] } .bypass [] (fun _ => .ok []) []

/-- The second session asks for the lock. -/
def claiming : Frame Unit :=
  .queued ⟨2⟩ (.setHeld true) none

/-- A query of one session has come to its turn, but its body has not begun, when another session
acquires the lock. -/
theorem overtaken : ∃ before scene started finished : Scene Unit,
    before.Reachable ∧ Acquires 0 ⟨2⟩ before scene ∧
      ⟨⟨0, .admitted draw⟩, some ⟨⟨1⟩, 3⟩⟩ ∈ scene.frames ∧
      scene.Step (some ⟨0, .admitted draw⟩) started ∧
      ⟨⟨0, drawn⟩, some ⟨⟨1⟩, 3⟩⟩ ∈ started.frames ∧
      started.Step (some ⟨0, drawn⟩) finished := by
  obtain ⟨database, opens⟩ := Host.firstOpening_eq
  have visits := reachable_visited opens ()
  obtain ⟨storage, cache, journal, recovered, rfl⟩ := Database.openAt_fresh opens
  let scene (holder : Option SessionId) (cache : ReuseCache) (tasks : List (Stack Unit))
      (clock : Nat) : Scene Unit :=
    ⟨.ofDatabase
      { storage, cache, journal, recovered, lock := { holder, connected := [⟨2⟩, ⟨1⟩] }
        nextSession := 3 } Host.firstOpening.2 (), tasks, clock, []⟩
  let query (frame : Frame Unit) : Stack Unit := [⟨⟨0, frame⟩, some ⟨⟨1⟩, 3⟩⟩]
  have asks : (scene none cache [[⟨⟨0, .queued ⟨1⟩ draw none⟩, none⟩], [], []] 3).Reachable :=
    (visits.step (.begun 0 (.query ⟨1⟩ _ [] _))).step (step_among _ [] ..)
  have admitted : (scene none cache [query (.admitted draw), [], []] 4).Reachable :=
    asks.step (step_among _ [] ..)
  have claims : (scene none cache
      [[⟨⟨0, claiming⟩, none⟩], query (.admitted draw), [], []] 5).Reachable :=
    (admitted.step (.begun 0 (.setExclusive ⟨2⟩ true))).step (step_among _ [] ..)
  refine ⟨_, scene (some ⟨2⟩) cache [[], query (.admitted draw), [], []] 6,
    scene (some ⟨2⟩) cache.countMiss [[], query drawn, [], []] 7,
    scene (some ⟨2⟩) cache.countMiss [[], [], [], []] 8, claims, ?_, ?_, ?_, ?_, ?_⟩
  · exact ⟨step_among _ [] .., rfl, rfl⟩
  · exact List.mem_cons_self
  · exact step_among _ [[]] ..
  · exact List.mem_cons_self
  · exact step_among _ [[]] ..

/-- The query's turn came before the lock was acquired. -/
theorem holder_bars_newcomers_overtaken : ∃ before scene started : Scene Unit,
    before.Reachable ∧ Acquires 0 ⟨2⟩ before scene ∧
      scene.LaterWithout (fun acted => acted.site = 0 ∧ acted.frame.frees ⟨2⟩ = true) started ∧
      started.Holds 0 ⟨2⟩ ∧
      ∃ pass, ⟨⟨0, drawn⟩, some pass⟩ ∈ started.frames ∧ pass.session = ⟨1⟩ ∧
        pass.moment < before.clock := by
  obtain ⟨before, scene, started, finished, reachable, acquires, -, starts, runs, -⟩ := overtaken
  have meanwhile : scene.LaterWithout
      (fun acted => acted.site = 0 ∧ acted.frame.frees ⟨2⟩ = true) started :=
    .single ⟨_, starts, by rintro _ ⟨⟩ ⟨-, frees⟩; cases frees⟩
  obtain ⟨holds, bars⟩ := holder_bars_newcomers reachable acquires meanwhile
  obtain ⟨there, found, -⟩ := id holds
  obtain ⟨-, cleared⟩ := bars ⟨there.database, started.host.disk, there.tables⟩ (by
    unfold Host.engine?
    rw [found]
    rfl)
  obtain ⟨pass, mark, own | earlier⟩ := cleared _ runs rfl (.inl rfl)
  · cases mark
    cases own
  · cases mark
    exact ⟨before, scene, started, reachable, acquires, meanwhile, holds, _, runs, rfl, earlier⟩

/-- **Exclusive use is not exclusive of what was under way**: while a session holds the lock, the
body of another session's query begins, and is done and yields its rows. -/
theorem holder_not_alone : ∃ (before scene started finished : Scene Unit) (begins ends : Pass),
    before.Reachable ∧ Acquires 0 ⟨2⟩ before scene ∧
      scene.LaterWithout (fun acted => acted.site = 0 ∧ acted.frame.frees ⟨2⟩ = true) finished ∧
      (begins.session = ⟨1⟩ ∧ ⟨⟨0, .admitted draw⟩, some begins⟩ ∈ scene.frames ∧
        scene.Step (some ⟨0, .admitted draw⟩) started) ∧
      (ends.session = ⟨1⟩ ∧ ⟨⟨0, drawn⟩, some ends⟩ ∈ started.frames ∧
        started.Step (some ⟨0, drawn⟩) finished ∧
        ∀ engine, started.host.engine? 0 = some engine → engine.Works drawn) ∧
      scene.Holds 0 ⟨2⟩ ∧ started.Holds 0 ⟨2⟩ ∧ finished.Holds 0 ⟨2⟩ := by
  obtain ⟨before, scene, started, finished, reachable, acquires, waits, starts, runs, completes⟩ :=
    overtaken
  have keeps (frame : Frame Unit) (calm : frame.frees ⟨2⟩ = false) :
      ∀ activation ∈ (some ⟨0, frame⟩ : Option (Activation Unit)),
        ¬(activation.site = 0 ∧ activation.frame.frees ⟨2⟩ = true) := by
    rintro _ ⟨⟩ ⟨-, frees⟩
    rw [calm] at frees
    cases frees
  have first := acquires.holds
  have second := first.step starts (keeps _ rfl)
  have third := second.step completes (keeps _ rfl)
  refine ⟨before, scene, started, finished, _, _, reachable, acquires, ?_, ⟨rfl, waits, starts⟩,
    ⟨rfl, runs, completes, ?_⟩, first, second, third⟩
  · exact (Relation.ReflTransGen.single ⟨_, starts, keeps _ rfl⟩).tail ⟨_, completes, keeps _ rfl⟩
  · exact fun engine _ => .inl ⟨_, _, rfl, rfl⟩

end Scene

end DurableStore
