import DurableStore.Database.Call

/-!
Carrying out the calls of one database step by step.

`Engine.advance` takes a frame one step on: it becomes another frame, makes a call, is answered,
turns into a call of another database, or finds that it has to wait, and then nothing has changed.
The check that a session is open, its turn, the lookup or the two checks that writes are permitted
and the journal entry, each call of the body, the change of the tables and the move of the
generation are steps of their own, so calls may be interleaved at each of these points.  A frame
that does not wait leaves less to do
(`advance_become_weight`, `advance_call_weight`, `advance_redirect_weight`).
-/

namespace DurableStore

/-- An open database, the disk below it and the state of its tables. -/
structure Engine (τ : Type) where
  database : Database
  disk : FileSystem
  tables : τ

/-- What becomes of a frame in one step. -/
inductive Advance (τ : Type) where
  /-- It goes on as another frame. -/
  | become (engine : Engine τ) (frame : Frame τ)
  /-- It makes a call and goes on when that is answered. -/
  | call (engine : Engine τ) (frame : Frame τ) (callee : Call τ)
  /-- Its call is answered. -/
  | answer (engine : Engine τ) (answer : Answer τ)
  /-- It is a call of another database. -/
  | redirect (site : SiteId) (call : Call τ)
  /-- It has to wait; the frame may take note of what it saw. -/
  | wait (frame : Frame τ)

namespace Engine

variable {τ : Type}

/-- Puts a session's errand in the queue, unless the session takes itself to be closed. -/
def enqueue (engine : Engine τ) (session : SessionId) (errand : Errand τ) : Advance τ :=
  match engine.database.ensureConnected session with
  | .error fault => .answer engine (errand.refuse fault)
  | .ok () => .become engine (.queued session errand none)

/-- Begins a call. -/
def enter (engine : Engine τ) : Call τ → Advance τ
  | .connect =>
    let (result, database) := engine.database.connect
    .answer { engine with database } (.connected result)
  | .disconnect session =>
    .answer { engine with database := engine.database.disconnect session } (.done (.ok ()))
  | .endSession session =>
    .answer { engine with database := engine.database.endSession session } (.done (.ok ()))
  | .close =>
    let (database, disk) := engine.database.close engine.disk
    .answer { engine with database, disk } (.done (.ok ()))
  | .clearCache =>
    .answer { engine with database := engine.database.clearCache } (.done (.ok ()))
  | .setExclusive session enable => engine.enqueue session (.setHeld enable)
  | .set session name value =>
    match engine.database.ensureConnected session, Setting.parse name value with
    | .error fault, _ => .answer engine (.done (.error fault))
    | .ok (), .error fault => .answer engine (.done (.error fault))
    | .ok (), .ok (.exclusive enable) => .become engine (.queued session (.setHeld enable) none)
    | .ok (), .ok (.reuseResults enable) => .become engine (.queued session (.setReuse enable) none)
  | .query session statement during rows => engine.enqueue session (.query statement during rows)
  | .update session record during apply => engine.enqueue session (.update record during apply)
  | .elsewhere site call => .redirect site call

/-- Whether a call that saw `seen` signals at its last look has been told to look again. -/
def hasNews (engine : Engine τ) : Option Nat → Bool
  | none => true
  | some seen => seen < engine.database.lock.signals

/-- Looks whether it is a session's turn. -/
def look (engine : Engine τ) (session : SessionId) (errand : Errand τ) (seen : Option Nat) :
    Advance τ :=
  if engine.hasNews seen then
    match engine.database.lock.turn session with
    | .refused => .answer engine (errand.refuse (.connectionClosed session))
    | .wait => .wait (.queued session errand (some engine.database.lock.signals))
    | .granted =>
      match errand with
      | .setHeld enable =>
        let lock := engine.database.lock.setHeld session enable
        .answer { engine with database := { engine.database with lock } } (.done (.ok ()))
      | errand => .become engine (.admitted errand)
  else .wait (.queued session errand seen)

/-- Begins the body of an errand. -/
def begin (engine : Engine τ) : Errand τ → Advance τ
  | .setHeld _ => .answer engine (.done (.ok ()))
  | .setReuse enable =>
    .answer { engine with database := engine.database.setReuse enable } (.done (.ok ()))
  | .query statement during rows =>
    let key := statement.fingerprint
    let (found, cache) :=
      engine.database.cache.lookup key statement.isCacheable engine.database.generation
    let engine := { engine with database := { engine.database with cache } }
    match found with
    | .hit rows => .answer engine (.queried (.ok rows) false [])
    | .miss _ | .bypass => .become engine (.scanning key found during rows [])
  | .update record during apply =>
    match engine.database.storage.checkWriting with
    | .error fault => .answer engine (.updated (.error fault) false [])
    | .ok () => .become engine (.recording record during apply)

/-- Begins a commit, unless another one is under way. -/
def record (engine : Engine τ) (bytes : Bytes) (during : List (Call τ)) (apply : τ → τ) :
    Advance τ :=
  if engine.database.committing then .wait (.recording bytes during apply)
  else
    let (result, database) := engine.database.beginCommit
    let engine := { engine with database }
    match result with
    | .error fault => .answer engine (.updated (.error fault) false [])
    | .ok () => .become engine (.writing bytes during apply)

/-- Writes the record of a commit to the journal, the header and the payload.  A call that closes the
database between the two comes to the same as one that comes before them. -/
def write (engine : Engine τ) (bytes : Bytes) (during : List (Call τ)) (apply : τ → τ) :
    Advance τ :=
  let (result, database, disk) := engine.database.writeRecord bytes engine.disk
  let engine := { engine with database, disk }
  match result with
  | .error fault => .answer engine (.updated (.error fault) false [])
  | .ok () => .become engine (.applying during apply [])

/-- Yields the rows of a query whose body has made its calls, and keeps them for reuse. -/
def yieldRows (engine : Engine τ) (key : Fingerprint) (found : ReuseCache.Lookup)
    (rows : τ → Except Fault Rows) (answers : List (Answer τ)) : Advance τ :=
  let outcome := rows engine.tables
  match outcome with
  | .error _ => .answer engine (.queried outcome true answers)
  | .ok captured =>
    let cache := engine.database.cache.keep key found engine.database.generation captured
    .answer { engine with database := { engine.database with cache } }
      (.queried outcome true answers)

/-- Takes a frame one step on. -/
def advance (engine : Engine τ) : Frame τ → Advance τ
  | .entering call => engine.enter call
  | .queued session errand seen => engine.look session errand seen
  | .admitted errand => engine.begin errand
  | .recording bytes during apply => engine.record bytes during apply
  | .writing bytes during apply => engine.write bytes during apply
  | .scanning key found (callee :: pending) rows answers =>
    .call engine (.scanning key found pending rows answers) callee
  | .scanning key found [] rows answers => engine.yieldRows key found rows answers
  | .applying (callee :: pending) apply answers =>
    .call engine (.applying pending apply answers) callee
  | .applying [] apply answers =>
    let tables := apply engine.tables
    .become { engine with tables } (.applied tables answers)
  | .applied result answers =>
    .answer { engine with database := engine.database.finishCommit }
      (.updated (.ok result) true answers)

/-! ## Every step lowers the weight -/

theorem enter_become_weight {engine engine' : Engine τ} {call : Call τ} {frame : Frame τ}
    (h : engine.enter call = .become engine' frame) : frame.weight < call.weight := by
  cases call <;> simp only [enter, enqueue] at h <;> (try split at h) <;> cases h <;>
    simp only [Frame.weight, Errand.weight, Call.weight] <;> omega

theorem look_become_weight {engine engine' : Engine τ} {session : SessionId} {errand : Errand τ}
    {seen : Option Nat} {frame : Frame τ}
    (h : engine.look session errand seen = .become engine' frame) :
    frame.weight < 7 + errand.weight := by
  unfold look at h
  split at h
  · split at h
    · cases h
    · cases h
    · split at h
      · cases h
      · cases h
        simp only [Frame.weight]
        omega
  · cases h

theorem begin_become_weight {engine engine' : Engine τ} {errand : Errand τ} {frame : Frame τ}
    (h : engine.begin errand = .become engine' frame) : frame.weight < 6 + errand.weight := by
  cases errand <;> simp only [begin] at h
  case setHeld => cases h
  case setReuse => cases h
  case query =>
    split at h
    next => cases h
    all_goals
      cases h
      simp only [Frame.weight, Errand.weight]
      omega
  case update =>
    split at h <;> cases h
    simp only [Frame.weight, Errand.weight]
    omega

theorem record_become_weight {engine engine' : Engine τ} {bytes : Bytes} {during : List (Call τ)}
    {apply : τ → τ} {frame : Frame τ}
    (h : engine.record bytes during apply = .become engine' frame) :
    frame.weight < 5 + Call.weights during := by
  unfold record at h
  split at h
  · cases h
  · simp only at h
    split at h
    · cases h
    · cases h
      simp only [Frame.weight]
      omega

theorem write_become_weight {engine engine' : Engine τ} {bytes : Bytes} {during : List (Call τ)}
    {apply : τ → τ} {frame : Frame τ}
    (h : engine.write bytes during apply = .become engine' frame) :
    frame.weight < 4 + Call.weights during := by
  unfold write at h
  simp only at h
  split at h
  · cases h
  · cases h
    simp only [Frame.weight]
    omega

theorem advance_become_weight {engine engine' : Engine τ} {before after : Frame τ}
    (h : engine.advance before = .become engine' after) : after.weight < before.weight := by
  unfold advance at h
  split at h
  · exact enter_become_weight h
  · exact look_become_weight h
  · exact begin_become_weight h
  · exact record_become_weight h
  · exact write_become_weight h
  · cases h
  · unfold yieldRows at h
    simp only at h
    split at h <;> cases h
  · cases h
  · cases h
    simp only [Frame.weight]
    omega
  · cases h

theorem advance_call_weight {engine engine' : Engine τ} {before after : Frame τ} {callee : Call τ}
    (h : engine.advance before = .call engine' after callee) :
    callee.weight + after.weight < before.weight := by
  unfold advance at h
  split at h
  case h_1 call => cases call <;> simp only [enter, enqueue] at h <;> (try split at h) <;> cases h
  case h_2 =>
    unfold look at h
    repeat' (split at h)
    all_goals cases h
  case h_3 errand => cases errand <;> simp only [begin] at h <;> (try split at h) <;> cases h
  case h_4 =>
    unfold record at h
    simp only at h
    repeat' (split at h)
    all_goals cases h
  case h_5 =>
    unfold write at h
    simp only at h
    split at h <;> cases h
  case h_7 =>
    unfold yieldRows at h
    simp only at h
    split at h <;> cases h
  all_goals cases h
  all_goals simp only [Frame.weight, Call.weights]
  all_goals omega

theorem advance_redirect_weight {engine : Engine τ} {before : Frame τ} {site : SiteId}
    {call : Call τ} (h : engine.advance before = .redirect site call) :
    call.weight < before.weight := by
  unfold advance at h
  split at h
  case h_1 entered =>
    cases entered <;> simp only [enter, enqueue] at h <;> (try split at h) <;> cases h
    simp only [Frame.weight, Call.weight]
    omega
  case h_2 =>
    unfold look at h
    repeat' (split at h)
    all_goals cases h
  case h_3 errand => cases errand <;> simp only [begin] at h <;> (try split at h) <;> cases h
  case h_4 =>
    unfold record at h
    simp only at h
    repeat' (split at h)
    all_goals cases h
  case h_5 =>
    unfold write at h
    simp only at h
    split at h <;> cases h
  case h_7 =>
    unfold yieldRows at h
    simp only at h
    split at h <;> cases h
  all_goals cases h

/-! ## A frame that waits stays as it is -/

/-- Whether a frame may get further than it is. -/
def mayAdvance (engine : Engine τ) : Frame τ → Bool
  | .queued _ _ seen => engine.hasNews seen
  | .recording .. => !engine.database.committing
  | _ => true

theorem advance_wait {engine : Engine τ} {before after : Frame τ}
    (h : engine.advance before = .wait after) :
    after.weight = before.weight ∧ engine.mayAdvance after = false := by
  unfold advance at h
  split at h
  case h_1 call => cases call <;> simp only [enter, enqueue] at h <;> (try split at h) <;> cases h
  case h_2 =>
    unfold look at h
    split at h
    next =>
      split at h
      next => cases h
      next =>
        cases h
        exact ⟨rfl, by simp [mayAdvance, hasNews]⟩
      next => split at h <;> cases h
    next quiet =>
      cases h
      exact ⟨rfl, by simpa [mayAdvance] using quiet⟩
  case h_3 errand => cases errand <;> simp only [begin] at h <;> (try split at h) <;> cases h
  case h_4 =>
    unfold record at h
    simp only at h
    split at h
    next busy =>
      cases h
      exact ⟨rfl, by simp [mayAdvance, busy]⟩
    next => split at h <;> cases h
  case h_5 =>
    unfold write at h
    simp only at h
    split at h <;> cases h
  case h_7 =>
    unfold yieldRows at h
    simp only at h
    split at h <;> cases h
  all_goals cases h

end Engine

end DurableStore
