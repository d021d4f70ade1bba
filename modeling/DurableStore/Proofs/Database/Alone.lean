import DurableStore.Database.Host

/-!
A call that is made alone and whose body makes no calls.

`Host.run` takes such a call through its steps until it is answered or has to wait; `callAlone` says
in one go what comes of it (`run_alone`).  The steps one after another are put together by
`Settles`: an answer settles a frame, having to wait settles it, and a frame that becomes another
one is settled by what settles that.
-/

namespace DurableStore

variable {τ : Type}

/-- The answer, if there is one yet. -/
def Outcome.answer? : Outcome τ → Option (Answer τ)
  | .answered answer => some answer
  | .waiting _ => none

/-- The body of a query or an update makes no calls. -/
def Errand.IsFlat : Errand τ → Prop
  | .query _ during _ | .update _ during _ => during = []
  | .setHeld _ | .setReuse _ => True

/-- The call is made of this database, and its body makes no calls. -/
def Call.IsFlat : Call τ → Prop
  | .query _ _ during _ | .update _ _ during _ => during = []
  | .elsewhere .. => False
  | .connect | .disconnect _ | .endSession _ | .close | .clearCache => True
  | .setExclusive .. | .set .. => True

instance (call : Call τ) : Decidable call.IsFlat :=
  match call with
  | .query _ _ during _ | .update _ _ during _ =>
    match during with
    | [] => isTrue rfl
    | call :: rest => isFalse (List.cons_ne_nil call rest)
  | .elsewhere .. => isFalse id
  | .connect | .disconnect _ | .endSession _ | .close | .clearCache => isTrue trivial
  | .setExclusive .. | .set .. => isTrue trivial

namespace Engine

/-! ## What a call does -/

/-- Runs a query, or reuses its rows. -/
def query (engine : Engine τ) (statement : Statement) (rows : τ → Except Fault Rows) :
    Answer τ × Engine τ :=
  let key := statement.fingerprint
  let generation := engine.database.generation
  let (found, cache) := engine.database.cache.lookup key statement.isCacheable generation
  let withCache (cache : ReuseCache) : Engine τ :=
    { engine with database := { engine.database with cache } }
  match found with
  | .hit rows => (.queried (.ok rows) false [], withCache cache)
  | .miss _ | .bypass =>
    match rows engine.tables with
    | .error fault => (.queried (.error fault) true [], withCache cache)
    | .ok captured =>
      (.queried (.ok captured) true [], withCache (cache.keep key found generation captured))

/-- Commits a record and then applies the update, if writes are permitted.  Nothing comes between
the two times that this is asked. -/
def update (engine : Engine τ) (bytes : Bytes) (apply : τ → τ) : Option (Answer τ) × Engine τ :=
  match engine.database.storage.checkWriting with
  | .error fault => (some (.updated (.error fault) false []), engine)
  | .ok () =>
    if engine.database.committing then (none, engine)
    else
      match { engine.database with committing := true }.writeRecord bytes engine.disk with
      | (.error fault, database, disk) =>
        (some (.updated (.error fault) false []), { engine with database, disk })
      | (.ok (), database, disk) =>
        let tables := apply engine.tables
        (some (.updated (.ok tables) true []), { database := database.finishCommit, disk, tables })

/-- Carries an errand out when it is the session's turn. -/
def carryOut (engine : Engine τ) (session : SessionId) : Errand τ → Option (Answer τ) × Engine τ
  | .setHeld enable =>
    let lock := engine.database.lock.setHeld session enable
    (some (.done (.ok ())), { engine with database := { engine.database with lock } })
  | .setReuse enable =>
    (some (.done (.ok ())), { engine with database := engine.database.setReuse enable })
  | .query statement _ rows =>
    let (answer, engine) := engine.query statement rows
    (some answer, engine)
  | .update bytes _ apply => engine.update bytes apply

/-- Carries an errand out, or refuses it, or finds that another session holds the lock. -/
def queuedAlone (engine : Engine τ) (session : SessionId) (errand : Errand τ) :
    Option (Answer τ) × Engine τ :=
  match engine.database.lock.turn session with
  | .refused => (some (errand.refuse (.connectionClosed session)), engine)
  | .wait => (none, engine)
  | .granted => engine.carryOut session errand

/-- Makes a call. -/
def callAlone (engine : Engine τ) (call : Call τ) : Option (Answer τ) × Engine τ :=
  match engine.enter call with
  | .answer engine answer => (some answer, engine)
  | .become engine (.queued session errand _) => engine.queuedAlone session errand
  | _ => (none, engine)

end Engine

namespace Host

/-! ## One database of a host -/

theorem engine?_eq_some {host : Host τ} {site : SiteId} {engine : Engine τ}
    (there : host.engine? site = some engine) :
    host.sites[site]? = some ⟨engine.database, engine.tables⟩ ∧ engine.disk = host.disk := by
  unfold engine? at there
  cases found : host.sites[site]? with
  | none =>
    rw [found] at there
    cases there
  | some here =>
    rw [found] at there
    cases there
    exact ⟨rfl, rfl⟩

theorem put_self {host : Host τ} {site : SiteId} {engine : Engine τ}
    (there : host.engine? site = some engine) : host.put site engine = host := by
  obtain ⟨found, disk⟩ := engine?_eq_some there
  obtain ⟨bound, same⟩ := Array.getElem?_eq_some_iff.1 found
  unfold put
  rw [disk, ← same]
  congr 1
  rw [Array.setIfInBounds, dif_pos bound]
  exact Array.set_getElem_self bound

theorem put_put (host : Host τ) (site : SiteId) (first second : Engine τ) :
    (host.put site first).put site second = host.put site second := by
  unfold put
  congr 1
  exact Array.setIfInBounds_setIfInBounds ..

theorem engine?_put_self {host : Host τ} {site : SiteId} {engine : Engine τ}
    (there : host.engine? site = some engine) (other : Engine τ) :
    (host.put site other).engine? site = some other := by
  obtain ⟨found, -⟩ := engine?_eq_some there
  exact engine?_put (Array.getElem?_eq_some_iff.1 found).1 other

/-! ## Running a frame -/

/-- Running a frame by itself gives this answer, or none, and this engine. -/
def Settles (host : Host τ) (site : SiteId) (frame : Frame τ)
    (result : Option (Answer τ) × Engine τ) : Prop :=
  (host.run { top := ⟨site, frame⟩ }).1.answer? = result.1 ∧
    (host.run { top := ⟨site, frame⟩ }).2 = host.put site result.2

variable {host : Host τ} {site : SiteId} {engine after : Engine τ} {frame next : Frame τ}

theorem run_eq (host : Host τ) (task : Task τ) :
    host.run task =
      match host.step task with
      | .moved host task => host.run task
      | .answered host answer => (.answered answer, host)
      | .waiting task => (.waiting task, host) := by
  rw [run]
  split
  next moved => simp only [moved]
  next answered => simp only [answered]
  next waits => simp only [waits]

/-- A database that is not there takes no calls. -/
theorem run_of_absent (absent : host.engine? site = none) :
    host.run { top := ⟨site, frame⟩ } = (.answered (.done (.error .databaseClosed)), host) := by
  have stepped : host.step { top := ⟨site, frame⟩ } =
      .answered host (.done (.error .databaseClosed)) := by
    unfold step
    simp only [absent]
    rfl
  rw [run_eq, stepped]

theorem run_of_answer (there : host.engine? site = some engine) {answer : Answer τ}
    (h : engine.advance frame = .answer after answer) :
    host.run { top := ⟨site, frame⟩ } = (.answered answer, host.put site after) := by
  have stepped : host.step { top := ⟨site, frame⟩ } = .answered (host.put site after) answer := by
    unfold step
    simp only [there, h]
    rfl
  rw [run_eq, stepped]

theorem run_of_wait (there : host.engine? site = some engine)
    (h : engine.advance frame = .wait next) :
    host.run { top := ⟨site, frame⟩ } = (.waiting { top := ⟨site, next⟩ }, host) := by
  have stepped : host.step { top := ⟨site, frame⟩ } = .waiting { top := ⟨site, next⟩ } := by
    unfold step
    simp only [there, h]
  rw [run_eq, stepped]

theorem run_of_become (there : host.engine? site = some engine)
    (h : engine.advance frame = .become after next) :
    host.run { top := ⟨site, frame⟩ } = (host.put site after).run { top := ⟨site, next⟩ } := by
  have stepped : host.step { top := ⟨site, frame⟩ } =
      .moved (host.put site after) { top := ⟨site, next⟩ } := by
    unfold step
    simp only [there, h]
  rw [run_eq, stepped]

theorem settles_of_answer (there : host.engine? site = some engine) {answer : Answer τ}
    (h : engine.advance frame = .answer after answer) :
    host.Settles site frame (some answer, after) := by
  unfold Settles
  rw [run_of_answer there h]
  exact ⟨rfl, rfl⟩

theorem settles_of_wait (there : host.engine? site = some engine)
    (h : engine.advance frame = .wait next) : host.Settles site frame (none, engine) := by
  unfold Settles
  rw [run_of_wait there h]
  exact ⟨rfl, (put_self there).symm⟩

theorem settles_of_become (there : host.engine? site = some engine)
    (h : engine.advance frame = .become after next) {result : Option (Answer τ) × Engine τ}
    (later : (host.put site after).Settles site next result) : host.Settles site frame result := by
  unfold Settles at later ⊢
  rw [put_put] at later
  rw [run_of_become there h]
  exact later

/-! ## Running a call -/

theorem settles_scanning (there : host.engine? site = some engine) (key : Fingerprint)
    (found : ReuseCache.Lookup) (rows : τ → Except Fault Rows) :
    host.Settles site (.scanning key found [] rows [])
      (match rows engine.tables with
        | .error fault => (some (.queried (.error fault) true []), engine)
        | .ok captured =>
          (some (.queried (.ok captured) true []),
            { engine with database :=
                { engine.database with
                  cache := engine.database.cache.keep key found engine.database.generation
                    captured } })) := by
  cases outcome : rows engine.tables with
  | error fault =>
    refine settles_of_answer there ?_
    simp only [Engine.advance, Engine.yieldRows, outcome]
  | ok captured =>
    refine settles_of_answer there ?_
    simp only [Engine.advance, Engine.yieldRows, outcome]

theorem settles_query (there : host.engine? site = some engine) (statement : Statement)
    (rows : τ → Except Fault Rows) :
    host.Settles site (.admitted (.query statement [] rows))
      (some (engine.query statement rows).1, (engine.query statement rows).2) := by
  unfold Engine.query
  cases looks : engine.database.cache.lookup statement.fingerprint statement.isCacheable
      engine.database.generation with
  | mk found cache =>
    simp only [looks]
    -- A miss and a bypass go on alike: the body runs.
    have scans (missed : ∀ rows, found ≠ .hit rows) :
        engine.advance (.admitted (.query statement [] rows)) =
          .become { engine with database := { engine.database with cache } }
            (.scanning statement.fingerprint found [] rows []) := by
      simp only [Engine.advance, Engine.begin, looks]
      split
      next rows => exact absurd rfl (missed rows)
      next => rfl
      next => rfl
    have scanned := settles_scanning
      (engine?_put_self there { engine with database := { engine.database with cache } })
      statement.fingerprint found rows
    cases found with
    | hit rows =>
      refine settles_of_answer there ?_
      simp only [Engine.advance, Engine.begin, looks]
    | miss generation =>
      have settled := settles_of_become there (scans (by simp)) scanned
      cases outcome : rows engine.tables with
      | error fault => simpa only [outcome] using settled
      | ok captured => simpa only [outcome] using settled
    | bypass =>
      have settled := settles_of_become there (scans (by simp)) scanned
      cases outcome : rows engine.tables with
      | error fault => simpa only [outcome] using settled
      | ok captured => simpa only [outcome] using settled

theorem settles_update (there : host.engine? site = some engine) (bytes : Bytes)
    (apply : τ → τ) :
    host.Settles site (.admitted (.update bytes [] apply)) (engine.update bytes apply) := by
  unfold Engine.update
  cases permitted : engine.database.storage.checkWriting with
  | error fault =>
    refine settles_of_answer there ?_
    simp only [Engine.advance, Engine.begin, permitted]
  | ok =>
    have permits : engine.advance (.admitted (.update bytes [] apply)) =
        .become engine (.recording bytes [] apply) := by
      simp only [Engine.advance, Engine.begin, permitted]
    refine settles_of_become there permits ?_
    rw [put_self there]
    cases busy : engine.database.committing with
    | true =>
      have waits : engine.advance (.recording bytes [] apply) =
          .wait (.recording bytes [] apply) := by
        simp only [Engine.advance, Engine.record, busy, if_true]
      exact settles_of_wait there waits
    | false =>
      let begun : Engine τ :=
        { engine with database := { engine.database with committing := true } }
      have begins : engine.advance (.recording bytes [] apply) =
          .become begun (.writing bytes [] apply) := by
        simp only [Engine.advance, Engine.record, busy, Database.beginCommit_of_ok permitted,
          Bool.false_eq_true, if_false, begun]
      have sameTables : begun.tables = engine.tables := rfl
      refine settles_of_become there begins ?_
      have begunThere := engine?_put_self there begun
      rw [if_neg Bool.false_ne_true]
      cases written : begun.database.writeRecord bytes begun.disk with
      | mk result rest =>
        obtain ⟨database, disk⟩ := rest
        cases result with
        | error fault =>
          refine settles_of_answer begunThere ?_
          simp only [Engine.advance, Engine.write, written, sameTables]
        | ok =>
          have records : begun.advance (.writing bytes [] apply) =
              .become { engine with database, disk } (.applying [] apply []) := by
            simp only [Engine.advance, Engine.write, written, sameTables]
          -- The tables change in one step, and the generation moves in the next.
          refine settles_of_become begunThere records ?_
          refine settles_of_become (engine?_put_self begunThere _) rfl ?_
          exact settles_of_answer (engine?_put_self (engine?_put_self begunThere _) _) rfl

theorem settles_queued (there : host.engine? site = some engine) (session : SessionId)
    {errand : Errand τ} (flat : errand.IsFlat) :
    host.Settles site (.queued session errand none) (engine.queuedAlone session errand) := by
  unfold Engine.queuedAlone
  cases turn : engine.database.lock.turn session with
  | refused =>
    refine settles_of_answer there ?_
    simp only [Engine.advance, Engine.look, Engine.hasNews, if_true, turn]
  | wait =>
    have waits : engine.advance (.queued session errand none) =
        .wait (.queued session errand (some engine.database.lock.signals)) := by
      simp only [Engine.advance, Engine.look, Engine.hasNews, if_true, turn]
    exact settles_of_wait there waits
  | granted =>
    have admits (others : ∀ enable, errand ≠ .setHeld enable) :
        engine.advance (.queued session errand none) = .become engine (.admitted errand) := by
      simp only [Engine.advance, Engine.look, Engine.hasNews, if_true, turn]
    unfold Engine.carryOut
    cases errand with
    | setHeld enable =>
      refine settles_of_answer there ?_
      simp only [Engine.advance, Engine.look, Engine.hasNews, if_true, turn]
    | setReuse enable =>
      refine settles_of_become there (admits (by simp)) ?_
      rw [put_self there]
      exact settles_of_answer there rfl
    | query statement during rows =>
      obtain rfl : during = [] := flat
      refine settles_of_become there (admits (by simp)) ?_
      rw [put_self there]
      exact settles_query there statement rows
    | update bytes during apply =>
      obtain rfl : during = [] := flat
      refine settles_of_become there (admits (by simp)) ?_
      rw [put_self there]
      exact settles_update there bytes apply

theorem enqueue_cases (engine : Engine τ) (session : SessionId) (errand : Errand τ) :
    (∃ answer, engine.enqueue session errand = .answer engine answer) ∨
      engine.enqueue session errand = .become engine (.queued session errand none) := by
  unfold Engine.enqueue
  cases engine.database.ensureConnected session with
  | error fault => exact .inl ⟨_, rfl⟩
  | ok => exact .inr rfl

/-- A flat call is answered at once or queued as a flat errand. -/
theorem enter_cases (engine : Engine τ) {call : Call τ} (flat : call.IsFlat) :
    (∃ after answer, engine.enter call = .answer after answer) ∨
      ∃ session errand, errand.IsFlat ∧
        engine.enter call = .become engine (.queued session errand none) := by
  -- Most calls queue an errand, after a look at whether the session is open.
  have queues (session : SessionId) (errand : Errand τ) (flat : errand.IsFlat)
      (same : engine.enter call = engine.enqueue session errand) :
      (∃ after answer, engine.enter call = .answer after answer) ∨
        ∃ session errand, errand.IsFlat ∧
          engine.enter call = .become engine (.queued session errand none) := by
    rw [same]
    rcases enqueue_cases engine session errand with ⟨answer, answered⟩ | queued
    · exact .inl ⟨engine, answer, answered⟩
    · exact .inr ⟨session, errand, flat, queued⟩
  cases call with
  | connect => exact .inl ⟨_, _, rfl⟩
  | disconnect session => exact .inl ⟨_, _, rfl⟩
  | endSession session => exact .inl ⟨_, _, rfl⟩
  | close => exact .inl ⟨_, _, rfl⟩
  | clearCache => exact .inl ⟨_, _, rfl⟩
  | setExclusive session enable => exact queues session (.setHeld enable) trivial rfl
  | set session name value =>
    simp only [Engine.enter]
    split
    next => exact .inl ⟨_, _, rfl⟩
    next => exact .inl ⟨_, _, rfl⟩
    next enable _ _ => exact .inr ⟨session, .setHeld enable, trivial, rfl⟩
    next enable _ _ => exact .inr ⟨session, .setReuse enable, trivial, rfl⟩
  | query session statement during rows =>
    exact queues session (.query statement during rows) flat rfl
  | update session bytes during apply =>
    exact queues session (.update bytes during apply) flat rfl
  | elsewhere => exact flat.elim

/-- **A call made alone** does what `callAlone` says. -/
theorem run_alone (there : host.engine? site = some engine) {call : Call τ} (flat : call.IsFlat) :
    host.Settles site (.entering call) (engine.callAlone call) := by
  have entering : engine.advance (.entering call) = engine.enter call := rfl
  unfold Engine.callAlone
  rcases enter_cases engine flat with ⟨after, answer, answered⟩ | ⟨session, errand, flat, queued⟩
  · rw [answered]
    exact settles_of_answer there (entering.trans answered)
  · rw [queued]
    refine settles_of_become there (entering.trans queued) ?_
    rw [put_self there]
    exact settles_queued there session flat

end Host

end DurableStore
