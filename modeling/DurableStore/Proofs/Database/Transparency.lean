import DurableStore.Proofs.Database.Reachable
import DurableStore.Proofs.ReuseCache.Aged

/-!
Reuse of results shows in nothing but how often statement bodies run.

Two databases that start alike, one with reuse as it was set and switched, the other without reuse
all along, go through the same deeds one after another.  They stay `Twins`: alike apart from the
cache, and every entry that the first could reuse has the rows that the second computes.  So they
give the same answers (`reuse_transparent`), as long as the generation does not come around.
-/

namespace DurableStore

open FileSystem ReuseCache

variable {τ : Type}

/-! ## Deeds without reuse -/

/-- The answer, whether or not a query's body ran for it. -/
def Answer.plain : Answer τ → Answer τ
  | .queried rows _ during => .queried rows true during
  | answer => answer

/-- How many commits an answer acknowledges. -/
def Answer.committed : Option (Answer τ) → Nat
  | some (.updated (.ok _) _ _) => 1
  | _ => 0

/-- The errand with reuse staying off. -/
def Errand.muted : Errand τ → Errand τ
  | .setReuse _ => .setReuse false
  | errand => errand

/-- The call with reuse staying off. -/
def Call.muted : Call τ → Call τ
  | .set session name value =>
    match Setting.parse name value with
    | .ok (.reuseResults _) => .set session name "FALSE"
    | _ => .set session name value
  | call => call

/-- A query that may be reused yields what `scan` says for its fingerprint. -/
def Errand.Scans (scan : Fingerprint → τ → Except Fault Rows) : Errand τ → Prop
  | .query statement _ rows => statement.isCacheable = true → rows = scan statement.fingerprint
  | _ => True

/-- A query that may be reused yields what `scan` says for its fingerprint. -/
def Call.Scans (scan : Fingerprint → τ → Except Fault Rows) : Call τ → Prop
  | .query _ statement _ rows => statement.isCacheable = true → rows = scan statement.fingerprint
  | _ => True

namespace Engine

/-- An engine with another cache. -/
def withCache (engine : Engine τ) (cache : ReuseCache) : Engine τ :=
  { engine with database := { engine.database with cache } }

/-! ## Twins -/

/-- The second engine has no reuse and is like the first one otherwise; what the first one could
reuse is current. -/
structure Twins (scan : Fingerprint → τ → Except Fault Rows) (commits : Nat)
    (engine plain : Engine τ) : Prop where
  alike : ∃ cache, cache.enabled = false ∧ plain = engine.withCache cache
  aged : engine.database.cache.Aged scan commits engine.database.generation engine.tables

/-- Both come to the same answer and are twins afterwards. -/
structure Comes (scan : Fingerprint → τ → Except Fault Rows) (commits : Nat)
    (result plain : Option (Answer τ) × Engine τ) : Prop where
  answers : plain.1.map Answer.plain = result.1.map Answer.plain
  twins : Twins scan (commits + Answer.committed result.1) result.2 plain.2

variable {scan : Fingerprint → τ → Except Fault Rows} {commits : Nat} {engine plain : Engine τ}

/-! ## Queries and updates -/

theorem query_of_lookup {statement : Statement} {found : Lookup} {cache : ReuseCache}
    (looks : engine.database.cache.lookup statement.fingerprint statement.isCacheable
      engine.database.generation = (found, cache)) (rows : τ → Except Fault Rows) :
    engine.query statement rows =
      match found with
      | .hit rows => (.queried (.ok rows) false [], engine.withCache cache)
      | .miss _ | .bypass =>
        match rows engine.tables with
        | .error fault => (.queried (.error fault) true [], engine.withCache cache)
        | .ok captured =>
          (.queried (.ok captured) true [],
            engine.withCache
              (cache.keep statement.fingerprint found engine.database.generation captured)) := by
  unfold query
  simp only [looks]
  cases found with
  | hit reused => rfl
  | miss generation => rfl
  | bypass => rfl

/-- Without reuse a query yields its rows. -/
theorem query_of_disabled {cache : ReuseCache} (disabled : cache.enabled = false)
    (statement : Statement) (rows : τ → Except Fault Rows) :
    (engine.withCache cache).query statement rows =
      (.queried (rows engine.tables) true [], engine.withCache cache.countMiss) := by
  rw [query_of_lookup (lookup_of_disabled disabled ..)]
  show (match rows engine.tables with
    | .error fault => _
    | .ok captured => _) = _
  cases rows engine.tables with
  | error fault => rfl
  | ok captured => rfl

theorem comes_query (twins : Twins scan commits engine plain) (few : commits < UInt64.size)
    {statement : Statement} {rows : τ → Except Fault Rows}
    (scans : statement.isCacheable = true → rows = scan statement.fingerprint) :
    Comes scan commits (some (engine.query statement rows).1, (engine.query statement rows).2)
      (some (plain.query statement rows).1, (plain.query statement rows).2) := by
  obtain ⟨⟨cache, disabled, rfl⟩, aged⟩ := twins
  have looked := aged.lookup few statement.fingerprint statement.isCacheable
  rw [query_of_disabled disabled]
  cases looks : engine.database.cache.lookup statement.fingerprint statement.isCacheable
      engine.database.generation with
  | mk found changed =>
    rw [looks] at looked
    obtain ⟨agedLookup, outcome⟩ := looked
    rw [query_of_lookup looks]
    -- What the body yields may be kept, as the tables are those of the lookup.
    have scanned (allowed : ∀ generation, found = .miss generation → statement.isCacheable = true)
        {captured : Rows} (yields : rows engine.tables = .ok captured) :
        (changed.keep statement.fingerprint found engine.database.generation captured).Aged scan
          commits engine.database.generation engine.tables := by
      refine agedLookup.keep ?_
      intro missed
      rw [← scans (allowed _ missed)]
      exact yields
    cases found with
    | hit reused =>
      rcases outcome with ⟨_, same, cacheable, current⟩ | ⟨missed, -⟩ | bypassed
      · cases same
        rw [scans cacheable, current]
        exact ⟨rfl, ⟨cache.countMiss, disabled, rfl⟩, agedLookup⟩
      · cases missed
      · cases bypassed
    | miss generation =>
      rcases outcome with ⟨_, hits, -⟩ | ⟨-, cacheable⟩ | bypassed
      · cases hits
      · cases yields : rows engine.tables with
        | error fault => exact ⟨rfl, ⟨cache.countMiss, disabled, rfl⟩, agedLookup⟩
        | ok captured =>
          exact ⟨rfl, ⟨cache.countMiss, disabled, rfl⟩, scanned (fun _ _ => cacheable) yields⟩
      · cases bypassed
    | bypass =>
      cases yields : rows engine.tables with
      | error fault => exact ⟨rfl, ⟨cache.countMiss, disabled, rfl⟩, agedLookup⟩
      | ok captured => exact ⟨rfl, ⟨cache.countMiss, disabled, rfl⟩, scanned (by simp) yields⟩

theorem writeRecord_withCache (database : Database) (cache : ReuseCache) (bytes : Bytes)
    (disk : FileSystem) :
    ({ database with cache } : Database).writeRecord bytes disk =
      ((database.writeRecord bytes disk).1, { (database.writeRecord bytes disk).2.1 with cache },
        (database.writeRecord bytes disk).2.2) := by
  unfold Database.writeRecord
  simp only
  cases (database.storage.writeBlock database.journal bytes disk).result with
  | error fault => rfl
  | ok => rfl

theorem update_withCache (engine : Engine τ) (cache : ReuseCache) (bytes : Bytes) (apply : τ → τ) :
    (engine.withCache cache).update bytes apply =
      ((engine.update bytes apply).1, (engine.update bytes apply).2.withCache cache) := by
  have writes := writeRecord_withCache { engine.database with committing := true } cache bytes
    engine.disk
  unfold update withCache
  simp only at writes ⊢
  cases engine.database.storage.checkWriting with
  | error fault => rfl
  | ok permitted =>
    by_cases busy : engine.database.committing = true
    · simp only [if_pos busy]
    · simp only [if_neg busy, writes]
      cases ({ engine.database with committing := true } : Database).writeRecord bytes
          engine.disk with
      | mk result rest =>
        cases result with
        | error fault => rfl
        | ok written => rfl

theorem comes_update (twins : Twins scan commits engine plain) (bytes : Bytes) (apply : τ → τ) :
    Comes scan commits (engine.update bytes apply) (plain.update bytes apply) := by
  obtain ⟨⟨cache, disabled, rfl⟩, aged⟩ := twins
  rw [update_withCache]
  have attempt := engine.attempt_carryOut bytes apply
  -- Only a commit changes the tables, and it leaves every entry behind.
  generalize engine.update bytes apply = result at attempt ⊢
  refine ⟨rfl, ⟨cache, disabled, rfl⟩, ?_⟩
  cases attempt with
  | waits => exact aged
  | refused => exact aged
  | failed => exact aged
  | committed => exact aged.commit (apply engine.tables)

/-! ## Calls -/

theorem comes_carryOut (twins : Twins scan commits engine plain) (few : commits < UInt64.size)
    (session : SessionId) {errand : Errand τ} (scans : errand.Scans scan) :
    Comes scan commits (engine.carryOut session errand)
      (plain.carryOut session errand.muted) := by
  cases errand with
  | setHeld enable =>
    obtain ⟨⟨cache, disabled, rfl⟩, aged⟩ := twins
    exact ⟨rfl, ⟨cache, disabled, rfl⟩, aged⟩
  | setReuse enable =>
    obtain ⟨⟨cache, disabled, rfl⟩, aged⟩ := twins
    refine ⟨rfl, ⟨cache.setEnabled false, ?_, rfl⟩, aged.of_subset (setEnabled_subset _ enable)⟩
    unfold ReuseCache.setEnabled
    rw [disabled]
    rfl
  | query statement during rows => exact comes_query twins few scans
  | update bytes during apply => exact comes_update twins bytes apply

theorem comes_queuedAlone (twins : Twins scan commits engine plain) (few : commits < UInt64.size)
    (session : SessionId) {errand : Errand τ} (scans : errand.Scans scan) :
    Comes scan commits (engine.queuedAlone session errand)
      (plain.queuedAlone session errand.muted) := by
  have carried := comes_carryOut twins few session scans
  obtain ⟨⟨cache, disabled, rfl⟩, aged⟩ := id twins
  unfold queuedAlone
  have same : (engine.withCache cache).database.lock = engine.database.lock := rfl
  rw [same]
  cases engine.database.lock.turn session with
  | refused =>
    refine ⟨?_, twins.alike, ?_⟩
    · cases errand with
      | _ => rfl
    · cases errand with
      | _ => exact aged
  | wait => exact ⟨rfl, twins⟩
  | granted => exact carried

theorem ensureConnected_withCache (engine : Engine τ) (cache : ReuseCache) (session : SessionId) :
    (engine.withCache cache).database.ensureConnected session =
      engine.database.ensureConnected session := rfl

theorem comes_enqueue (twins : Twins scan commits engine plain) (few : commits < UInt64.size)
    {session : SessionId} (errand : Errand τ) (scans : errand.Scans scan) {call other : Call τ}
    (enters : engine.enter call = engine.enqueue session errand)
    (enters' : plain.enter other = plain.enqueue session errand.muted) :
    Comes scan commits (engine.callAlone call) (plain.callAlone other) := by
  have queued := comes_queuedAlone twins few session scans
  obtain ⟨⟨cache, disabled, rfl⟩, aged⟩ := id twins
  unfold callAlone
  rw [enters, enters']
  unfold enqueue
  rw [ensureConnected_withCache]
  cases engine.database.ensureConnected session with
  | error fault =>
    refine ⟨?_, twins.alike, ?_⟩
    · cases errand with
      | _ => rfl
    · cases errand with
      | _ => exact aged
  | ok => exact queued

theorem muted_set {name value : String} {enable : Bool}
    (parsed : Setting.parse name value = .ok (.reuseResults enable)) :
    Setting.parse name "FALSE" = .ok (.reuseResults false) := by
  have off : Setting.flag? "FALSE" = some false := by decide
  unfold Setting.parse at parsed ⊢
  rw [off]
  split at parsed
  next => cases parsed
  next named =>
    rw [named]
    rfl
  next => cases parsed

theorem comes_set (twins : Twins scan commits engine plain) (few : commits < UInt64.size)
    (session : SessionId) (name value : String) :
    Comes scan commits (engine.callAlone (.set session name value))
      (plain.callAlone (Call.set session name value).muted) := by
  have queued (errand : Errand τ) (scans : errand.Scans scan) :=
    comes_queuedAlone twins few session scans
  obtain ⟨⟨cache, disabled, rfl⟩, aged⟩ := id twins
  unfold callAlone Call.muted
  cases parsed : Setting.parse name value with
  | error fault =>
    simp only [enter, parsed, ensureConnected_withCache]
    cases engine.database.ensureConnected session with
    | error fault => exact ⟨rfl, twins⟩
    | ok => exact ⟨rfl, twins⟩
  | ok setting =>
    cases setting with
    | exclusive enable =>
      simp only [enter, parsed, ensureConnected_withCache]
      cases engine.database.ensureConnected session with
      | error fault => exact ⟨rfl, twins⟩
      | ok => exact queued (.setHeld enable) trivial
    | reuseResults enable =>
      simp only [enter, parsed, muted_set parsed, ensureConnected_withCache]
      cases engine.database.ensureConnected session with
      | error fault => exact ⟨rfl, twins⟩
      | ok => exact queued (.setReuse enable) trivial

theorem connect_withCache (database : Database) (cache : ReuseCache) :
    ({ database with cache } : Database).connect =
      (database.connect.1, { database.connect.2 with cache }) := by
  unfold Database.connect
  by_cases closed : database.closed = true
  · simp only [if_pos closed]
  · simp only [if_neg closed]

theorem endSession_withCache (database : Database) (cache : ReuseCache) (session : SessionId) :
    ({ database with cache } : Database).endSession session =
      { database.endSession session with cache } := by
  unfold Database.endSession
  by_cases ended : session ∈ database.ended
  · simp only [if_pos ended]
  · simp only [if_neg ended]
    rfl

theorem close_withCache (database : Database) (cache : ReuseCache) (disk : FileSystem) :
    ∃ cache', cache'.enabled = cache.enabled ∧
      ({ database with cache } : Database).close disk =
        ({ (database.close disk).1 with cache := cache' }, (database.close disk).2) := by
  unfold Database.close
  by_cases closed : database.closed = true
  · simp only [if_pos closed]
    exact ⟨cache, rfl, rfl⟩
  · simp only [if_neg closed]
    exact ⟨cache.clear, rfl, rfl⟩

theorem close_cache (database : Database) (disk : FileSystem) :
    (database.close disk).1.generation = database.generation ∧
      (database.close disk).1.cache.entries ⊆ database.cache.entries := by
  unfold Database.close
  split
  next => exact ⟨rfl, List.Subset.refl _⟩
  next => exact ⟨rfl, List.nil_subset _⟩

theorem comes_connect (twins : Twins scan commits engine plain) :
    Comes scan commits (engine.callAlone .connect) (plain.callAlone .connect) := by
  obtain ⟨⟨cache, disabled, rfl⟩, aged⟩ := twins
  have connects (engine : Engine τ) : engine.callAlone .connect =
      (some (.connected engine.database.connect.1),
        { engine with database := engine.database.connect.2 }) := rfl
  have same := connect_withCache engine.database cache
  obtain ⟨lock, nextSession, connected⟩ := connect_snd engine.database
  rw [connects, connects]
  refine ⟨?_, ⟨cache, disabled, ?_⟩, ?_⟩
  · exact congrArg (fun made => some (Answer.connected made.1)) same
  · exact congrArg (fun made => { engine with database := made.2 }) same
  · show Aged scan commits engine.database.connect.2.generation engine.tables
      engine.database.connect.2.cache
    rw [connected]
    exact aged

theorem comes_endSession (twins : Twins scan commits engine plain) (session : SessionId) :
    Comes scan commits (engine.callAlone (.endSession session))
      (plain.callAlone (.endSession session)) := by
  obtain ⟨⟨cache, disabled, rfl⟩, aged⟩ := twins
  have ends (engine : Engine τ) : engine.callAlone (.endSession session) =
      (some (.done (.ok ())), { engine with database := engine.database.endSession session }) := rfl
  have same := endSession_withCache engine.database cache session
  obtain ⟨lock, ended, left⟩ := endSession_eq engine.database session
  rw [ends, ends]
  refine ⟨rfl, ⟨cache, disabled, ?_⟩, ?_⟩
  · exact congrArg (fun database => { engine with database }) same
  · show Aged scan commits (engine.database.endSession session).generation engine.tables
      (engine.database.endSession session).cache
    rw [left]
    exact aged

theorem comes_close (twins : Twins scan commits engine plain) :
    Comes scan commits (engine.callAlone .close) (plain.callAlone .close) := by
  obtain ⟨⟨cache, disabled, rfl⟩, aged⟩ := twins
  have closes (engine : Engine τ) : engine.callAlone .close =
      (some (.done (.ok ())),
        { engine with
          database := (engine.database.close engine.disk).1
          disk := (engine.database.close engine.disk).2 }) := rfl
  obtain ⟨cache', switched, same⟩ := close_withCache engine.database cache engine.disk
  obtain ⟨generation, subset⟩ := close_cache engine.database engine.disk
  rw [closes, closes]
  refine ⟨rfl, ⟨cache', switched.trans disabled, ?_⟩, ?_⟩
  · exact congrArg (fun closed => { engine with database := closed.1, disk := closed.2 }) same
  · show Aged scan commits (engine.database.close engine.disk).1.generation engine.tables
      (engine.database.close engine.disk).1.cache
    rw [generation]
    exact aged.of_subset subset

/-- **A call** comes to the same answer without reuse. -/
theorem comes_callAlone (twins : Twins scan commits engine plain) (few : commits < UInt64.size)
    {call : Call τ} (scans : call.Scans scan) :
    Comes scan commits (engine.callAlone call) (plain.callAlone call.muted) := by
  cases call with
  | connect => exact comes_connect twins
  | disconnect session =>
    obtain ⟨⟨cache, disabled, rfl⟩, aged⟩ := twins
    exact ⟨rfl, ⟨cache, disabled, rfl⟩, aged⟩
  | endSession session => exact comes_endSession twins session
  | close => exact comes_close twins
  | clearCache =>
    obtain ⟨⟨cache, disabled, rfl⟩, aged⟩ := twins
    exact ⟨rfl, ⟨cache.clear, disabled, rfl⟩, aged.of_subset (List.nil_subset _)⟩
  | setExclusive session enable =>
    exact comes_enqueue twins few (.setHeld enable) trivial rfl rfl
  | set session name value => exact comes_set twins few session name value
  | query session statement during rows =>
    exact comes_enqueue twins few (.query statement during rows) scans rfl rfl
  | update session bytes during apply =>
    exact comes_enqueue twins few (.update bytes during apply) trivial rfl rfl
  | elsewhere site call => exact ⟨rfl, twins⟩

end Engine

/-! ## Runs -/

/-- What is done to an open database. -/
inductive Deed (τ : Type) where
  /-- A call is made.  If it would have to wait it is given up. -/
  | call (made : Call τ)
  /-- The storage serves a request. -/
  | serve (request : Request)

/-- The deed with reuse staying off. -/
def Deed.muted : Deed τ → Deed τ
  | .call made => .call made.muted
  | .serve request => .serve request

/-- The bodies of calls make no calls, and a query that may be reused yields what `scan` says for
its fingerprint. -/
def Deed.Scans (scan : Fingerprint → τ → Except Fault Rows) : Deed τ → Prop
  | .call made => made.IsFlat ∧ made.Scans scan
  | .serve _ => True

theorem Call.isFlat_muted {call : Call τ} (flat : call.IsFlat) : call.muted.IsFlat := by
  cases call with
  | set session name value =>
    have either : (Call.set session name value : Call τ).muted = .set session name "FALSE" ∨
        (Call.set session name value : Call τ).muted = .set session name value := by
      simp only [Call.muted]
      split
      next => exact .inl rfl
      next => exact .inr rfl
    rcases either with same | same
    · rw [same]
      exact trivial
    · rw [same]
      exact trivial
  | _ => exact flat

namespace Host

/-- Does a deed to the first database, and says what a call is answered. -/
def perform (host : Host τ) : Deed τ → Option (Answer τ) × Host τ
  | .call made =>
    let (outcome, host) := host.run { top := ⟨0, .entering made⟩ }
    (outcome.answer?, host)
  | .serve request => (none, host.serve request)

/-- Does one deed after another. -/
def performAll (host : Host τ) : List (Deed τ) → List (Option (Answer τ)) × Host τ
  | [] => ([], host)
  | deed :: rest =>
    let (answer, host) := host.perform deed
    let (answers, host) := host.performAll rest
    (answer :: answers, host)

/-- How many commits the answers acknowledge. -/
def committed : List (Option (Answer τ)) → Nat
  | [] => 0
  | answer :: rest => Answer.committed answer + committed rest

variable {scan : Fingerprint → τ → Except Fault Rows} {commits : Nat} {host other : Host τ}

/-- The first databases of two hosts are twins. -/
def Twins (scan : Fingerprint → τ → Except Fault Rows) (commits : Nat) (host other : Host τ) :
    Prop :=
  ∃ engine plain, host.engine? 0 = some engine ∧ other.engine? 0 = some plain ∧
    Engine.Twins scan commits engine plain

/-- **A deed** comes to the same answer without reuse, and leaves twins. -/
theorem Twins.perform (twins : Twins scan commits host other) (few : commits < UInt64.size)
    {deed : Deed τ} (scans : deed.Scans scan) :
    (other.perform deed.muted).1.map Answer.plain = (host.perform deed).1.map Answer.plain ∧
      Twins scan (commits + Answer.committed (host.perform deed).1) (host.perform deed).2
        (other.perform deed.muted).2 := by
  obtain ⟨engine, plain, there, there', twins⟩ := twins
  cases deed with
  | call made =>
    obtain ⟨flat, scans⟩ := scans
    obtain ⟨answered, moved⟩ := run_alone there flat
    obtain ⟨answered', moved'⟩ := run_alone there' (Call.isFlat_muted flat)
    have comes := Engine.comes_callAlone twins few scans
    simp only [Host.perform, Deed.muted, answered, answered', moved, moved']
    exact ⟨comes.answers, _, _, engine?_put_self there _, engine?_put_self there' _, comes.twins⟩
  | serve request =>
    refine ⟨rfl, ?_⟩
    obtain ⟨⟨cache, disabled, rfl⟩, aged⟩ := twins
    simp only [Host.perform, Deed.muted, Host.serve, there, there']
    exact ⟨_, _, engine?_put_self there _, engine?_put_self there' _, ⟨cache, disabled, rfl⟩, aged⟩

theorem Twins.performAll (twins : Twins scan commits host other) {deeds : List (Deed τ)}
    (scans : ∀ deed ∈ deeds, deed.Scans scan)
    (few : commits + committed (host.performAll deeds).1 < UInt64.size) :
    (other.performAll (deeds.map Deed.muted)).1.map (·.map Answer.plain) =
        (host.performAll deeds).1.map (·.map Answer.plain) ∧
      Twins scan (commits + committed (host.performAll deeds).1) (host.performAll deeds).2
        (other.performAll (deeds.map Deed.muted)).2 := by
  -- Deed by deed; the commits so far bound how far behind an entry can be.
  induction deeds generalizing host other commits with
  | nil => exact ⟨rfl, twins⟩
  | cons deed rest ih =>
    have later : ∀ deed ∈ rest, deed.Scans scan := by
      intro other member
      exact scans other (List.mem_cons_of_mem _ member)
    have total : committed (host.performAll (deed :: rest)).1 =
        Answer.committed (host.perform deed).1 +
          committed ((host.perform deed).2.performAll rest).1 := rfl
    rw [total, ← Nat.add_assoc] at few ⊢
    obtain ⟨answer, twins⟩ := twins.perform (by omega) (scans deed List.mem_cons_self)
    obtain ⟨answers, twins⟩ := ih twins later few
    exact ⟨congrArg₂ List.cons answer answers, twins⟩

/-- A host with one database that keeps up to `capacity` results if reuse is `enabled`. -/
def reusing (database : Database) (disk : FileSystem) (tables : τ) (capacity : Nat)
    (enabled : Bool) : Host τ :=
  ofDatabase { database with cache := .new capacity enabled } disk tables

theorem twins_reusing (scan : Fingerprint → τ → Except Fault Rows) (database : Database)
    (disk : FileSystem) (tables : τ) (capacity : Nat) (enabled : Bool) :
    Twins scan 0 (reusing database disk tables capacity enabled)
      (reusing database disk tables capacity false) := by
  have twins : Engine.Twins scan 0
      ⟨{ database with cache := .new capacity enabled }, disk, tables⟩
      ⟨{ database with cache := .new capacity false }, disk, tables⟩ :=
    ⟨⟨.new capacity false, rfl, rfl⟩, aged_new scan 0 _ tables capacity enabled⟩
  exact ⟨_, _, rfl, rfl, twins⟩

/-- **Reuse of results is transparent.**  Whatever is done to a database one thing after another,
whatever its capacity for results and whether reuse is on to begin with: if queries that may be
reused yield what `scan` says for their fingerprints, every call is answered as it would be without
reuse, apart from whether a query's body ran, and the generation is the same in the end. -/
theorem reuse_transparent (database : Database) (disk : FileSystem) (tables : τ) (capacity : Nat)
    (enabled : Bool) {deeds : List (Deed τ)} (scans : ∀ deed ∈ deeds, deed.Scans scan)
    (few : committed ((reusing database disk tables capacity enabled).performAll deeds).1 <
      UInt64.size) :
    ((reusing database disk tables capacity false).performAll
        (deeds.map Deed.muted)).1.map (·.map Answer.plain) =
      ((reusing database disk tables capacity enabled).performAll
        deeds).1.map (·.map Answer.plain) ∧
    ∃ engine plain,
      ((reusing database disk tables capacity enabled).performAll deeds).2.engine? 0 =
        some engine ∧
      ((reusing database disk tables capacity false).performAll
        (deeds.map Deed.muted)).2.engine? 0 = some plain ∧
      plain.database.cache.enabled = false ∧
      plain.database.generation = engine.database.generation := by
  have twins := twins_reusing scan database disk tables capacity enabled
  rw [← Nat.zero_add (committed _)] at few
  obtain ⟨answers, engine, plain, there, there', twins⟩ := twins.performAll scans few
  obtain ⟨⟨cache, disabled, rfl⟩, -⟩ := twins
  exact ⟨answers, engine, _, there, there', disabled, rfl⟩

/-- Whether the body of a query ran for its answer. -/
def ran : Option (Answer Nat) → Option Bool
  | some (.queried _ executed _) => some executed
  | _ => none

/-- A statement that yields the number in the tables. -/
def counting : Fingerprint → Nat → Except Fault Rows :=
  fun _ number => .ok [[.int (.ofNat number)]]

/-- Queries around an update, an update that fails and both ways to switch reuse. -/
def reuseDeeds : List (Deed Nat) :=
  let reusable := Statement.prepare "SELECT N FROM T"
  let query := Deed.call (.query ⟨1⟩ reusable [] (counting reusable.fingerprint))
  [.call .connect, query, query, .call (.update ⟨1⟩ [7] [] (· + 1)), query, .serve (.armPower 1),
    .call (.update ⟨1⟩ [8] [] (· + 1)), query,
    .call (.set ⟨1⟩ "optimize_reuse_results" "false"), query, query,
    .call (.set ⟨1⟩ "optimize_reuse_results" "true"), query, query,
    .call (.query ⟨1⟩ (.prepare "SELECT NOW()") [] fun _ => .error .databaseClosed)]

theorem reuse_transparent_switched : ∃ database disk,
    Database.openAt .empty ⟨["", "db"]⟩ .testing "a" = (.ok database, disk) ∧
      ((reusing database disk 0 2 true).performAll reuseDeeds).1.map ran =
        [none, some true, some false, none, some true, none, none, some false, none, some true,
          some true, none, some true, some false, some true] ∧
      ((reusing database disk 0 2 false).performAll (reuseDeeds.map Deed.muted)).1.map
          (·.map Answer.plain) =
        ((reusing database disk 0 2 true).performAll reuseDeeds).1.map (·.map Answer.plain) := by
  obtain ⟨database, opens⟩ := firstOpening_eq
  have computed : (firstOpening.1.toOption.map fun database =>
      (committed ((reusing database firstOpening.2 0 2 true).performAll reuseDeeds).1,
        ((reusing database firstOpening.2 0 2 true).performAll reuseDeeds).1.map ran)) =
      some (1, [none, some true, some false, none, some true, none, none, some false, none,
        some true, some true, none, some true, some false, some true]) := by
    decide +kernel
  have opened : firstOpening.1 = .ok database := congrArg Prod.fst opens
  rw [opened] at computed
  obtain ⟨one, flags⟩ : _ ∧ _ := by
    simpa only [Except.toOption, Option.map_some, Option.some.injEq, Prod.mk.injEq] using computed
  have scans : ∀ deed ∈ reuseDeeds, deed.Scans counting := by
    have fresh : (Statement.prepare "SELECT NOW()").isCacheable ≠ true := by decide +kernel
    simp [reuseDeeds, Deed.Scans, Call.Scans, Call.IsFlat, fresh]
  have few : committed ((reusing database firstOpening.2 0 2 true).performAll reuseDeeds).1 <
      UInt64.size := by
    rw [one]
    decide
  exact ⟨database, _, opens, flags, (reuse_transparent database _ 0 2 true scans few).1⟩

end Host

end DurableStore
