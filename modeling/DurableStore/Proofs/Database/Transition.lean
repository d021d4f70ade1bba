import DurableStore.Proofs.Database.ClosedSessions
import DurableStore.Proofs.Storage.Operations

/-!
The ways in which a frame can get one step further.

`Transition` lists them once, each with all that has to hold for it and all that it changes
(`transition_advance`), so that what a step keeps is read off its cases.
-/

namespace DurableStore

open FileSystem

variable {τ : Type}

/-- The call has done what it was to do. -/
def Answer.isOk : Answer τ → Bool
  | .done result => result.isOk
  | .connected result => result.isOk
  | .queried rows _ _ => rows.isOk
  | .updated result _ _ => result.isOk

theorem Errand.isOk_refuse (errand : Errand τ) (fault : Fault) :
    (errand.refuse fault).isOk = false := by
  cases errand <;> rfl

namespace Engine

/-- How a frame gets one step further. -/
inductive Transition (engine : Engine τ) : Frame τ → Advance τ → Prop where
  | connects :
    Transition engine (.entering .connect)
      (.answer { engine with database := engine.database.connect.2 }
        (.connected engine.database.connect.1))
  | disconnects (session : SessionId) :
    Transition engine (.entering (.disconnect session))
      (.answer { engine with database := engine.database.disconnect session } (.done (.ok ())))
  | ends (session : SessionId) :
    Transition engine (.entering (.endSession session))
      (.answer { engine with database := engine.database.endSession session } (.done (.ok ())))
  | closes :
    Transition engine (.entering .close)
      (.answer { engine with
          database := (engine.database.close engine.disk).1
          disk := (engine.database.close engine.disk).2 } (.done (.ok ())))
  | clears :
    Transition engine (.entering .clearCache)
      (.answer { engine with database := engine.database.clearCache } (.done (.ok ())))
  /-- A statement is not well-formed, or its session takes itself to be closed. -/
  | turnedAway {call : Call τ} {answer : Answer τ}
      (calm : (Frame.entering call).isPassage = false) (refused : answer.isOk = false) :
      Transition engine (.entering call) (.answer engine answer)
  /-- A statement waits for its session's turn. -/
  | joins {call : Call τ} {session : SessionId} {errand : Errand τ}
      (asks : call.errand? = some (session, errand))
      (connected : engine.database.ensureConnected session = .ok ()) :
      Transition engine (.entering call) (.become engine (.queued session errand none))
  | redirects (site : SiteId) (call : Call τ) :
      Transition engine (.entering (.elsewhere site call)) (.redirect site call)
  | waits {session : SessionId} (errand : Errand τ) (seen seen' : Option Nat) :
      Transition engine (.queued session errand seen) (.wait (.queued session errand seen'))
  | refuses {session : SessionId} (errand : Errand τ) (seen : Option Nat)
      (turn : engine.database.lock.turn session = .refused) :
      Transition engine (.queued session errand seen)
        (.answer engine (errand.refuse (.connectionClosed session)))
  | holds {session : SessionId} (enable : Bool) (seen : Option Nat)
      (turn : engine.database.lock.turn session = .granted) :
      Transition engine (.queued session (.setHeld enable) seen)
        (.answer { engine with
            database := { engine.database with
              lock := engine.database.lock.setHeld session enable } } (.done (.ok ())))
  /-- It is the session's turn. -/
  | admits {session : SessionId} (errand : Errand τ) (seen : Option Nat)
      (turn : engine.database.lock.turn session = .granted) :
      Transition engine (.queued session errand seen) (.become engine (.admitted errand))
  | idles (enable : Bool) :
      Transition engine (.admitted (.setHeld enable)) (.answer engine (.done (.ok ())))
  | switches (enable : Bool) :
      Transition engine (.admitted (.setReuse enable))
        (.answer { engine with database := engine.database.setReuse enable } (.done (.ok ())))
  /-- Rows that were kept are used again. -/
  | reuses {statement : Statement} {found : Rows} {cache : ReuseCache} (during : List (Call τ))
      (rows : τ → Except Fault Rows)
      (looks : engine.database.cache.lookup statement.fingerprint statement.isCacheable
        engine.database.generation = (.hit found, cache)) :
      Transition engine (.admitted (.query statement during rows))
        (.answer { engine with database := { engine.database with cache } }
          (.queried (.ok found) false []))
  | scans {statement : Statement} {found : ReuseCache.Lookup} {cache : ReuseCache}
      (during : List (Call τ)) (rows : τ → Except Fault Rows)
      (looks : engine.database.cache.lookup statement.fingerprint statement.isCacheable
        engine.database.generation = (found, cache)) :
      Transition engine (.admitted (.query statement during rows))
        (.become { engine with database := { engine.database with cache } }
          (.scanning statement.fingerprint found during rows []))
  | forbids {fault : Fault} (record : Bytes) (during : List (Call τ)) (apply : τ → τ)
      (refused : engine.database.storage.checkWriting = .error fault) :
      Transition engine (.admitted (.update record during apply))
        (.answer engine (.updated (.error fault) false []))
  | permits (record : Bytes) (during : List (Call τ)) (apply : τ → τ)
      (permitted : engine.database.storage.checkWriting = .ok ()) :
      Transition engine (.admitted (.update record during apply))
        (.become engine (.recording record during apply))
  /-- Another commit is under way. -/
  | yields (record : Bytes) (during : List (Call τ)) (apply : τ → τ) :
      Transition engine (.recording record during apply)
        (.wait (.recording record during apply))
  /-- Writes were permitted when this was asked first, and are not any more. -/
  | reconsiders {fault : Fault} (record : Bytes) (during : List (Call τ)) (apply : τ → τ)
      (refused : engine.database.storage.checkWriting = .error fault) :
      Transition engine (.recording record during apply)
        (.answer engine (.updated (.error fault) false []))
  | begins (record : Bytes) (during : List (Call τ)) (apply : τ → τ)
      (alone : engine.database.committing = false)
      (permitted : engine.database.storage.checkWriting = .ok ()) :
      Transition engine (.recording record during apply)
        (.become { engine with database := { engine.database with committing := true } }
          (.writing record during apply))
  | fails {record : Bytes} {fault : Fault} {database : Database} {disk : FileSystem}
      (during : List (Call τ)) (apply : τ → τ)
      (writes : engine.database.writeRecord record engine.disk = (.error fault, database, disk)) :
      Transition engine (.writing record during apply)
        (.answer { engine with database, disk } (.updated (.error fault) false []))
  | records {record : Bytes} {database : Database} {disk : FileSystem} (during : List (Call τ))
      (apply : τ → τ)
      (writes : engine.database.writeRecord record engine.disk = (.ok (), database, disk)) :
      Transition engine (.writing record during apply)
        (.become { engine with database, disk } (.applying during apply []))
  | queryCalls (key : Fingerprint) (found : ReuseCache.Lookup) (callee : Call τ)
      (pending : List (Call τ)) (rows : τ → Except Fault Rows) (answers : List (Answer τ)) :
      Transition engine (.scanning key found (callee :: pending) rows answers)
        (.call engine (.scanning key found pending rows answers) callee)
  | updateCalls (callee : Call τ) (pending : List (Call τ)) (apply : τ → τ)
      (answers : List (Answer τ)) :
      Transition engine (.applying (callee :: pending) apply answers)
        (.call engine (.applying pending apply answers) callee)
  /-- The body of a query fails. -/
  | breaks {rows : τ → Except Fault Rows} {fault : Fault} (key : Fingerprint)
      (found : ReuseCache.Lookup) (answers : List (Answer τ))
      (failed : rows engine.tables = .error fault) :
      Transition engine (.scanning key found [] rows answers)
        (.answer engine (.queried (.error fault) true answers))
  | keeps {rows : τ → Except Fault Rows} {captured : Rows} (key : Fingerprint)
      (found : ReuseCache.Lookup) (answers : List (Answer τ))
      (yielded : rows engine.tables = .ok captured) :
      Transition engine (.scanning key found [] rows answers)
        (.answer { engine with
            database := { engine.database with
              cache := engine.database.cache.keep key found engine.database.generation
                captured } } (.queried (.ok captured) true answers))
  | applies (apply : τ → τ) (answers : List (Answer τ)) :
      Transition engine (.applying [] apply answers)
        (.become { engine with tables := apply engine.tables }
          (.applied (apply engine.tables) answers))
  | commits (result : τ) (answers : List (Answer τ)) :
      Transition engine (.applied result answers)
        (.answer { engine with database := engine.database.finishCommit }
          (.updated (.ok result) true answers))

theorem transition_statement (engine : Engine τ) {call : Call τ} {session : SessionId}
    {errand : Errand τ} (asks : call.errand? = some (session, errand))
    (calm : (Frame.entering call).isPassage = false) :
    engine.Transition (.entering call) (engine.enter call) := by
  rw [engine.enter_of_errand? asks]
  unfold enqueue
  cases connected : engine.database.ensureConnected session with
  | error fault => exact .turnedAway calm (errand.isOk_refuse _)
  | ok => exact .joins asks connected

theorem transition_enter (engine : Engine τ) (call : Call τ) :
    engine.Transition (.entering call) (engine.enter call) := by
  cases call with
  | connect => exact .connects
  | disconnect session => exact .disconnects session
  | endSession session => exact .ends session
  | close => exact .closes
  | clearCache => exact .clears
  | setExclusive session enable => exact engine.transition_statement rfl rfl
  | query session statement during rows => exact engine.transition_statement rfl rfl
  | update session record during apply => exact engine.transition_statement rfl rfl
  | elsewhere site call => exact .redirects site call
  | set session name value =>
    cases parsed : Setting.parse name value with
    | ok setting =>
      have asks : (Call.set session name value : Call τ).errand? =
          some (session, setting.errand) := by
        simp only [Call.errand?, parsed]
        rfl
      exact engine.transition_statement asks rfl
    | error fault =>
      -- What is not well-formed is turned away, whoever asks.
      simp only [enter, parsed]
      cases engine.database.ensureConnected session with
      | error closed => exact .turnedAway rfl rfl
      | ok => exact .turnedAway rfl rfl

theorem transition_look (engine : Engine τ) (session : SessionId) (errand : Errand τ)
    (seen : Option Nat) :
    engine.Transition (.queued session errand seen) (engine.look session errand seen) := by
  unfold look
  split
  next =>
    split
    next turn => exact .refuses errand seen turn
    next => exact .waits errand seen _
    next turn =>
      split
      next enable => exact .holds enable seen turn
      next => exact .admits errand seen turn
  next => exact .waits errand seen seen

theorem transition_begin (engine : Engine τ) (errand : Errand τ) :
    engine.Transition (.admitted errand) (engine.begin errand) := by
  cases errand with
  | setHeld enable => exact .idles enable
  | setReuse enable => exact .switches enable
  | query statement during rows =>
    cases looks : engine.database.cache.lookup statement.fingerprint statement.isCacheable
      engine.database.generation with
    | mk found cache =>
      simp only [begin, looks]
      cases found with
      | hit found => exact .reuses during rows looks
      | miss generation => exact .scans during rows looks
      | bypass => exact .scans during rows looks
  | update record during apply =>
    simp only [begin]
    cases permitted : engine.database.storage.checkWriting with
    | error fault => exact .forbids record during apply permitted
    | ok => exact .permits record during apply permitted

theorem transition_record (engine : Engine τ) (record : Bytes) (during : List (Call τ))
    (apply : τ → τ) :
    engine.Transition (.recording record during apply) (engine.record record during apply) := by
  unfold Engine.record
  split
  next => exact .yields record during apply
  next alone =>
    cases permitted : engine.database.storage.checkWriting with
    | error fault =>
      rw [Database.beginCommit_of_error permitted]
      exact .reconsiders record during apply permitted
    | ok =>
      rw [Database.beginCommit_of_ok permitted]
      exact .begins record during apply (Bool.eq_false_iff.2 alone) permitted

theorem transition_write (engine : Engine τ) (record : Bytes) (during : List (Call τ))
    (apply : τ → τ) :
    engine.Transition (.writing record during apply) (engine.write record during apply) := by
  unfold Engine.write
  cases writes : engine.database.writeRecord record engine.disk with
  | mk result rest =>
    obtain ⟨database, disk⟩ := rest
    cases result with
    | error fault => exact .fails during apply writes
    | ok => exact .records during apply writes

/-- **Every step** is one of the transitions. -/
theorem transition_advance (engine : Engine τ) (frame : Frame τ) :
    engine.Transition frame (engine.advance frame) := by
  cases frame with
  | entering call => exact engine.transition_enter call
  | queued session errand seen => exact engine.transition_look session errand seen
  | admitted errand => exact engine.transition_begin errand
  | recording record during apply => exact engine.transition_record record during apply
  | writing record during apply => exact engine.transition_write record during apply
  | scanning key found pending rows answers =>
    cases pending with
    | cons callee pending => exact .queryCalls key found callee pending rows answers
    | nil =>
      simp only [advance, yieldRows]
      cases yielded : rows engine.tables with
      | error fault => exact .breaks key found answers yielded
      | ok captured => exact .keeps key found answers yielded
  | applying pending apply answers =>
    cases pending with
    | cons callee pending => exact .updateCalls callee pending apply answers
    | nil => exact .applies apply answers
  | applied result answers => exact .commits result answers

end Engine

/-- Closing a database closes its storage, once. -/
theorem Database.close_cases (database : Database) (disk : FileSystem) :
    database.close disk = (database, disk) ∨
      ∃ lock cache, database.close disk =
        ({ database with
            closed := true
            lock, cache
            storage := (database.storage.perform disk .close).1 },
          (database.storage.perform disk .close).2) := by
  unfold Database.close
  split
  next => exact .inl rfl
  next => exact .inr ⟨_, _, rfl⟩

/-- The storage of an open database carries an operation out. -/
def Host.operate (host : Host τ) (site : SiteId) (operation : Operation) : Host τ :=
  match host.engine? site with
  | none => host
  | some engine =>
    let (storage, disk) := engine.database.storage.perform engine.disk operation
    host.put site { engine with database := { engine.database with storage }, disk }

end DurableStore
