import Mathlib.Logic.Relation
import DurableStore.Proofs.Database.Reachable
import DurableStore.Proofs.ExclusiveLock.Waiting

/-!
The sessions of an open database.

A `Guestbook` follows one open database: which sessions it handed out, which of them were closed
since, and how often it was asked for one.  Steps of any tasks in any order take it on, so calls
may be under way at any stage.  A step lets a session in or out, or lets a connected session take
the lock or give it up, or leaves the sessions as they are (`Engine.moves_advance`).  Ids are not
used twice while there are fewer than 2⁶⁴ connections, so nobody who has left is connected again
(`Attended.left_gone`, `Guestbook.agrees_later`).
-/

namespace DurableStore

variable {τ : Type}

/-! ## Frames that let sessions in or out -/

namespace Frame

/-- The step asks for a session, ends one, or closes the database. -/
def isPassage : Frame τ → Bool
  | .entering .connect | .entering .close => true
  | .entering (.disconnect _) | .entering (.endSession _) => true
  | _ => false

/-- The step asks for a session. -/
def isConnect : Frame τ → Bool
  | .entering .connect => true
  | _ => false

/-- The step closes a session: its owner ends or drops it, it is disconnected by its id, or the
database is closed. -/
def closes : Frame τ → SessionId → Bool
  | .entering (.disconnect leaver), session | .entering (.endSession leaver), session =>
    leaver == session
  | .entering .close, _ => true
  | _, _ => false

end Frame

/-! ## What a database knows of its sessions -/

namespace ExclusiveLock

/-- Only closing the database shuts the lock down. -/
theorem isShutdown_disconnect (lock : ExclusiveLock) (session : SessionId) :
    (lock.disconnect session).isShutdown = lock.isShutdown := by
  rcases lock.disconnect_cases session with ⟨-, same⟩ | ⟨-, -, same⟩ | ⟨-, -, same⟩
  · rw [same]
    rfl
  · rw [same]
    rfl
  · rw [same]

theorem isShutdown_setHeld (lock : ExclusiveLock) (session : SessionId) (enable : Bool) :
    (lock.setHeld session enable).isShutdown = lock.isShutdown := by
  rcases lock.setHeld_cases session enable with ⟨-, -, same⟩ | ⟨-, -, same⟩ | ⟨-, same⟩
  · rw [same]
  · rw [same]
    rfl
  · rw [same]

end ExclusiveLock

namespace Database

/-- Two databases have the same sessions. -/
structure SameSessions (database other : Database) : Prop where
  lock : other.lock = database.lock
  nextSession : other.nextSession = database.nextSession
  ended : other.ended = database.ended
  closed : other.closed = database.closed

theorem SameSessions.refl (database : Database) : database.SameSessions database :=
  ⟨rfl, rfl, rfl, rfl⟩

/-- In a database that was just opened everything about its sessions is as it is at first. -/
theorem openAt_fresh {disk after : FileSystem} {path : Path} {config : Config} {owner : String}
    {database : Database}
    (opens : Database.openAt disk path config owner = (.ok database, after)) :
    ∃ storage cache journal recovered, database = { storage, cache, journal, recovered } := by
  unfold Database.openAt at opens
  split at opens
  next => cases opens
  next storage disk _ =>
    split at opens
    next => cases opens
    next journal disk _ =>
      simp only [Prod.mk.injEq] at opens
      obtain ⟨recovers, -⟩ := opens
      cases recovered : (storage.recoverBlocks journal disk).1.result with
      | error fault =>
        rw [recovered] at recovers
        cases recovers
      | ok recovery =>
        rw [recovered] at recovers
        cases recovers
        exact ⟨_, _, _, _, rfl⟩

/-- Asking for a session is in vain when the database is closed; else it uses an id up, and admits
it or not. -/
theorem connect_cases (database : Database) :
    (∃ fault, database.connect = (.error fault, database)) ∨
      (∃ fault, database.connect =
        (.error fault, { database with nextSession := database.nextSession + 1 })) ∨
      ∃ lock, database.lock.accept ⟨database.nextSession⟩ = (.ok (), lock) ∧
        lock = { database.lock with
          connected := database.lock.connected.insert ⟨database.nextSession⟩ } ∧
        database.connect = (.ok ⟨database.nextSession⟩,
          { database with lock, nextSession := database.nextSession + 1 }) := by
  unfold connect
  by_cases closed : database.closed = true
  · rw [if_pos closed]
    exact .inl ⟨_, rfl⟩
  · rw [if_neg closed]
    rcases database.lock.accept_cases ⟨database.nextSession⟩ with
      ⟨-, -, admits⟩ | ⟨-, refused⟩ | ⟨holder, -, -, -, refused⟩
    · simp only [admits]
      exact .inr (.inr ⟨_, rfl, rfl, rfl⟩)
    · simp only [refused]
      exact .inr (.inl ⟨_, rfl⟩)
    · simp only [refused]
      exact .inr (.inl ⟨_, rfl⟩)

/-- A database that handed out `guests`, with ids up to `used`, of whom `left` were closed. -/
structure Attended (database : Database) (guests left : List SessionId) (used : Nat) : Prop where
  orderly : database.lock.Orderly
  shut : database.closed = true → database.lock.isShutdown = true
  next : database.nextSession = UInt64.ofNat (used + 1)
  guests_le : ∀ session ∈ guests, session.number.toNat ≤ used
  left_guests : ∀ session ∈ left, session ∈ guests
  ended_left : ∀ session ∈ database.ended, session ∈ left
  /-- Nobody who has left is connected. -/
  left_gone : ∀ session ∈ left, session ∉ database.lock.connected

namespace Attended

variable {database other : Database} {guests left : List SessionId} {used : Nat}
  {session : SessionId}

/-- A database that was just opened has had no sessions. -/
theorem opened {disk after : FileSystem} {path : Path} {config : Config} {owner : String}
    (opens : Database.openAt disk path config owner = (.ok database, after)) :
    database.Attended [] [] 0 := by
  obtain ⟨storage, cache, journal, recovered, rfl⟩ := openAt_fresh opens
  exact ⟨.initial, nofun, rfl, nofun, nofun, nofun, nofun⟩

theorem congr (h : database.Attended guests left used) (same : database.SameSessions other) :
    other.Attended guests left used := by
  obtain ⟨lock, nextSession, ended, closed⟩ := same
  refine ⟨?_, ?_, ?_, h.guests_le, h.left_guests, ?_, ?_⟩
  · rw [lock]
    exact h.orderly
  · rw [lock, closed]
    exact h.shut
  · rw [nextSession]
    exact h.next
  · rw [ended]
    exact h.ended_left
  · rw [lock]
    exact h.left_gone

/-- The next id is nobody's. -/
theorem next_toNat (h : database.Attended guests left used) (few : used + 1 < UInt64.size) :
    database.nextSession.toNat = used + 1 := by
  rw [h.next]
  exact UInt64.toNat_ofNat_of_lt' few

theorem connect (h : database.Attended guests left used) (few : used + 1 < UInt64.size) :
    ∃ used' ≤ used + 1, database.connect.2.Attended
      (database.connect.1.toOption.toList ++ guests) left used' := by
  have next : database.nextSession + 1 = UInt64.ofNat (used + 1 + 1) := by
    rw [h.next]
    simp [UInt64.ofNat_add]
  have guests_le (guest : SessionId) (member : guest ∈ guests) :
      guest.number.toNat ≤ used + 1 :=
    Nat.le_succ_of_le (h.guests_le guest member)
  rcases database.connect_cases with
    ⟨fault, same⟩ | ⟨fault, same⟩ | ⟨lock, admits, lock_eq, same⟩
  · rw [same]
    exact ⟨used, Nat.le_succ used, h⟩
  · rw [same]
    exact ⟨used + 1, Nat.le_refl _, h.orderly, h.shut, next, guests_le, h.left_guests,
      h.ended_left, h.left_gone⟩
  · have orderly := h.orderly.accept ⟨database.nextSession⟩
    rw [admits] at orderly
    subst lock_eq
    rw [same]
    refine ⟨used + 1, Nat.le_refl _, orderly, h.shut, next, ?_, ?_, h.ended_left, ?_⟩
    · intro guest member
      rcases List.mem_cons.1 member with rfl | member
      · exact Nat.le_of_eq (h.next_toNat few)
      · exact guests_le guest member
    · intro leaver gone
      exact List.mem_cons_of_mem _ (h.left_guests leaver gone)
    · -- Whoever has left has an id that was used before.
      intro leaver gone member
      rcases List.mem_insert_iff.1 member with rfl | member
      · have old : database.nextSession.toNat ≤ used := h.guests_le _ (h.left_guests _ gone)
        rw [h.next_toNat few] at old
        omega
      · exact h.left_gone leaver gone member

/-- When sessions leave, whoever stays connected was connected, and is none of them. -/
theorem leave (h : database.Attended guests left used) {leaves : SessionId → Bool}
    {lock : ExclusiveLock} (orderly : lock.Orderly)
    (shut : database.closed = true → lock.isShutdown = true)
    (stays : ∀ session ∈ lock.connected,
      session ∈ database.lock.connected ∧ leaves session = false) :
    { database with lock }.Attended guests (guests.filter leaves ++ left) used := by
  refine ⟨orderly, shut, h.next, h.guests_le, ?_, ?_, ?_⟩
  · intro leaver gone
    rcases List.mem_append.1 gone with new | old
    · exact List.mem_of_mem_filter new
    · exact h.left_guests leaver old
  · intro leaver ended
    exact List.mem_append_right _ (h.ended_left leaver ended)
  · intro leaver gone member
    obtain ⟨was, stays⟩ := stays leaver member
    rcases List.mem_append.1 gone with new | old
    · rw [List.of_mem_filter new] at stays
      cases stays
    · exact h.left_gone leaver old was

theorem disconnect (h : database.Attended guests left used) (session : SessionId) :
    (database.disconnect session).Attended guests (guests.filter (session == ·) ++ left) used := by
  refine h.leave (h.orderly.disconnect session) ?_ ?_
  · intro closed
    rw [ExclusiveLock.isShutdown_disconnect]
    exact h.shut closed
  · intro other member
    obtain ⟨was, differs⟩ := (LockQueue.mem_connected_disconnect h.orderly session other).1 member
    exact ⟨was, beq_false_of_ne differs⟩

theorem endSession (h : database.Attended guests left used) (guest : session ∈ guests) :
    (database.endSession session).Attended guests (guests.filter (session == ·) ++ left) used := by
  unfold Database.endSession
  by_cases ended : session ∈ database.ended
  · -- The session has left before, so it is not connected.
    rw [if_pos ended]
    refine h.leave h.orderly h.shut ?_
    intro other member
    refine ⟨member, beq_false_of_ne ?_⟩
    rintro rfl
    exact h.left_gone session (h.ended_left session ended) member
  · rw [if_neg ended]
    have left := h.disconnect session
    refine ⟨left.orderly, left.shut, left.next, left.guests_le, left.left_guests, ?_,
      left.left_gone⟩
    intro other member
    rcases List.mem_cons.1 member with rfl | member
    · exact List.mem_append_left _ (List.mem_filter.2 ⟨guest, beq_self_eq_true other⟩)
    · exact left.ended_left other member

theorem close (h : database.Attended guests left used) (disk : FileSystem) :
    (database.close disk).1.Attended guests (guests.filter (fun _ => true) ++ left) used := by
  unfold Database.close
  by_cases closed : database.closed = true
  · rw [if_pos closed]
    refine h.leave h.orderly h.shut ?_
    intro other member
    rw [h.orderly.empty (h.shut closed)] at member
    cases member
  · rw [if_neg closed]
    have emptied : { database with lock := database.lock.shutdown }.Attended guests
        (guests.filter (fun _ => true) ++ left) used :=
      h.leave (.shutdown database.lock) (fun _ => rfl) nofun
    exact ⟨emptied.orderly, fun _ => rfl, emptied.next, emptied.guests_le, emptied.left_guests,
      emptied.ended_left, emptied.left_gone⟩

theorem setHeld (h : database.Attended guests left used)
    (member : session ∈ database.lock.connected) (enable : Bool) :
    { database with lock := database.lock.setHeld session enable }.Attended guests left used := by
  have connected : (database.lock.setHeld session enable).connected = database.lock.connected :=
    LockQueue.connected_granting database.lock session (.setHeld enable)
  refine ⟨h.orderly.setHeld member enable, ?_, h.next, h.guests_le, h.left_guests, h.ended_left,
    ?_⟩
  · intro closed
    rw [ExclusiveLock.isShutdown_setHeld]
    exact h.shut closed
  · intro leaver gone
    rw [connected]
    exact h.left_gone leaver gone

end Attended

end Database

namespace Engine

variable {engine after : Engine τ}

/-! ## What a step does to the sessions -/

/-- What a step may do to the sessions of a database. -/
inductive Moves (engine : Engine τ) (frame : Frame τ) (after : Engine τ) : Prop where
  /-- Somebody asks for a session. -/
  | connect (call : frame = .entering .connect)
      (database : after.database = engine.database.connect.2)
  /-- A session is disconnected by its id. -/
  | disconnect (session : SessionId) (call : frame = .entering (.disconnect session))
      (database : after.database = engine.database.disconnect session)
  /-- A session is ended by its owner. -/
  | endSession (session : SessionId) (call : frame = .entering (.endSession session))
      (database : after.database = engine.database.endSession session)
  /-- The database is closed. -/
  | close (call : frame = .entering .close)
      (database : after.database = (engine.database.close engine.disk).1)
  /-- A session takes the lock, or gives it up. -/
  | setHeld (calm : frame.isPassage = false) (session : SessionId) (enable : Bool)
      (member : session ∈ engine.database.lock.connected)
      (database : after.database =
        { engine.database with lock := engine.database.lock.setHeld session enable })
  /-- Nothing. -/
  | same (calm : frame.isPassage = false) (same : engine.database.SameSessions after.database)

theorem moves_enqueue {call : Call τ} (calm : (Frame.entering call).isPassage = false)
    {session : SessionId} {errand : Errand τ}
    (h : (engine.enqueue session errand).engine? = some after) :
    engine.Moves (.entering call) after := by
  unfold enqueue at h
  split at h
  next => cases h; exact .same calm (.refl _)
  next => cases h; exact .same calm (.refl _)

theorem moves_enter {call : Call τ} (h : (engine.enter call).engine? = some after) :
    engine.Moves (.entering call) after := by
  cases call with
  | connect => cases h; exact .connect rfl rfl
  | disconnect session => cases h; exact .disconnect session rfl rfl
  | endSession session => cases h; exact .endSession session rfl rfl
  | close => cases h; exact .close rfl rfl
  | clearCache => cases h; exact .same rfl ⟨rfl, rfl, rfl, rfl⟩
  | setExclusive session enable => exact moves_enqueue rfl h
  | set session name value =>
    simp only [enter] at h
    split at h
    all_goals
      cases h
      exact .same rfl (.refl _)
  | query session statement during rows => exact moves_enqueue rfl h
  | update session bytes during apply => exact moves_enqueue rfl h
  | elsewhere site call => cases h

theorem moves_look {session : SessionId} {errand : Errand τ} {seen : Option Nat}
    (h : (engine.look session errand seen).engine? = some after) :
    engine.Moves (.queued session errand seen) after := by
  unfold look at h
  split at h
  next =>
    split at h
    next => cases h; exact .same rfl (.refl _)
    next => cases h
    next granted =>
      have member : session ∈ engine.database.lock.connected := by
        rcases engine.database.lock.turn_cases session with
          ⟨turn, -⟩ | ⟨-, member, -⟩ | ⟨-, member, -⟩
        · rw [granted] at turn
          cases turn
        · exact member
        · exact member
      split at h
      next enable => cases h; exact .setHeld rfl session enable member rfl
      next => cases h; exact .same rfl (.refl _)
  next => cases h

theorem moves_begin {errand : Errand τ} (h : (engine.begin errand).engine? = some after) :
    engine.Moves (.admitted errand) after := by
  cases errand with
  | setHeld enable => cases h; exact .same rfl (.refl _)
  | setReuse enable => cases h; exact .same rfl ⟨rfl, rfl, rfl, rfl⟩
  | query statement during rows =>
    simp only [begin] at h
    split at h
    all_goals
      cases h
      exact .same rfl ⟨rfl, rfl, rfl, rfl⟩
  | update bytes during apply =>
    simp only [begin] at h
    split at h
    next => cases h; exact .same rfl (.refl _)
    next => cases h; exact .same rfl (.refl _)

theorem sameSessions_beginCommit (database : Database) :
    database.SameSessions database.beginCommit.2 := by
  unfold Database.beginCommit
  split
  next => exact .refl _
  next => exact ⟨rfl, rfl, rfl, rfl⟩

theorem sameSessions_writeRecord (database : Database) (bytes : Bytes) (disk : FileSystem) :
    database.SameSessions (database.writeRecord bytes disk).2.1 := by
  unfold Database.writeRecord
  simp only
  split
  next => exact ⟨rfl, rfl, rfl, rfl⟩
  next => exact ⟨rfl, rfl, rfl, rfl⟩

theorem moves_record {bytes : Bytes} {during : List (Call τ)} {apply : τ → τ}
    (h : (engine.record bytes during apply).engine? = some after) :
    engine.Moves (.recording bytes during apply) after := by
  have same := sameSessions_beginCommit engine.database
  unfold record at h
  split at h
  next => cases h
  next =>
    simp only at h
    split at h
    next => cases h; exact .same rfl same
    next => cases h; exact .same rfl same

theorem moves_write {bytes : Bytes} {during : List (Call τ)} {apply : τ → τ}
    (h : (engine.write bytes during apply).engine? = some after) :
    engine.Moves (.writing bytes during apply) after := by
  have same := sameSessions_writeRecord engine.database bytes engine.disk
  unfold write at h
  simp only at h
  split at h
  next => cases h; exact .same rfl same
  next => cases h; exact .same rfl same

/-- **A step** lets a session in or out, if it is one of the calls that do, or lets a connected
session take the lock or give it up, or leaves the sessions as they are. -/
theorem moves_advance {frame : Frame τ} (h : (engine.advance frame).engine? = some after) :
    engine.Moves frame after := by
  cases frame with
  | entering call => exact moves_enter h
  | queued session errand seen => exact moves_look h
  | admitted errand => exact moves_begin h
  | recording bytes during apply => exact moves_record h
  | writing bytes during apply => exact moves_write h
  | scanning key found pending rows answers =>
    cases pending with
    | cons callee pending => cases h; exact .same rfl (.refl _)
    | nil =>
      simp only [advance, yieldRows] at h
      split at h
      next => cases h; exact .same rfl (.refl _)
      next => cases h; exact .same rfl ⟨rfl, rfl, rfl, rfl⟩
  | applying pending apply answers =>
    cases pending with
    | cons callee pending => cases h; exact .same rfl (.refl _)
    | nil => cases h; exact .same rfl (.refl _)
  | applied result answers => cases h; exact .same rfl ⟨rfl, rfl, rfl, rfl⟩

theorem calm_of_redirect {frame : Frame τ} {site : SiteId} {call : Call τ}
    (h : engine.advance frame = .redirect site call) : frame.isPassage = false := by
  cases frame with
  | entering entered =>
    cases entered with
    | connect => cases h
    | disconnect session => cases h
    | endSession session => cases h
    | close => cases h
    | _ => rfl
  | _ => rfl

end Engine

/-- A step of a database that is there changes it, or is a call of another database. -/
theorem Host.step_of_there {host after : Host τ} {task : Task τ} {engine : Engine τ}
    (there : host.engine? task.top.site = some engine)
    (h : (host.step task).host? = some after) :
    (∃ changed, (engine.advance task.top.frame).engine? = some changed ∧
        after = host.put task.top.site changed) ∨
      task.top.frame.isPassage = false ∧ after = host := by
  unfold step at h
  simp only [there] at h
  split at h
  next changed frame becomes =>
    cases h
    exact .inl ⟨changed, by rw [becomes]; rfl, rfl⟩
  next changed frame callee calls =>
    cases h
    exact .inl ⟨changed, by rw [calls]; rfl, rfl⟩
  next other call redirects =>
    cases h
    exact .inr ⟨Engine.calm_of_redirect redirects, rfl⟩
  next => cases h
  next changed answer answers =>
    rw [host?_deliver] at h
    cases h
    exact .inl ⟨changed, by rw [answers]; rfl, rfl⟩

/-! ## The guests of a database -/

/-- An open database, and who was there. -/
structure Guestbook (τ : Type) where
  /-- The database and the disk. -/
  host : Host τ
  /-- The sessions that it handed out, the latest first. -/
  guests : List SessionId := []
  /-- Those of them that were closed since, each time they were. -/
  left : List SessionId := []
  /-- How often it was asked for a session. -/
  connects : Nat := 0

namespace Guestbook

/-- The session that a step of a frame hands out. -/
def newcomer? (book : Guestbook τ) : Frame τ → Option SessionId
  | .entering .connect => (book.host.engine? 0).bind (·.database.connect.1.toOption)
  | _ => none

/-- After a step of a frame that left the host `after`. -/
def record (book : Guestbook τ) (frame : Frame τ) (after : Host τ) : Guestbook τ :=
  { host := after
    guests := (book.newcomer? frame).toList ++ book.guests
    left := book.guests.filter frame.closes ++ book.left
    connects := book.connects + if frame.isConnect then 1 else 0 }

/-- What can happen to an open database. -/
inductive Step (book : Guestbook τ) : Guestbook τ → Prop where
  /-- The storage serves a request. -/
  | served (request : Request) : book.Step { book with host := book.host.serve request }
  /-- A call of the database, begun at any time, gets one step further.  An owner can only end a
  session that was handed out. -/
  | stepped (frame : Frame τ) (below : List (Activation τ)) {after : Host τ}
      (owned : ∀ session, frame = .entering (.endSession session) → session ∈ book.guests)
      (steps : (book.host.step { top := ⟨0, frame⟩, below }).host? = some after) :
      book.Step (book.record frame after)
  /-- A call of another database, which is not open, gets one step further. -/
  | elsewhere {task : Task τ} {after : Host τ} (away : task.top.site ≠ 0)
      (steps : (book.host.step task).host? = some after) : book.Step { book with host := after }

/-- Whatever comes after, one thing after the other. -/
abbrev Later : Guestbook τ → Guestbook τ → Prop :=
  Relation.ReflTransGen Step

variable {book next : Guestbook τ}

theorem record_of_calm {frame : Frame τ} (calm : frame.isPassage = false) (after : Host τ) :
    book.record frame after = { book with host := after } := by
  have kept (none : book.newcomer? frame = none) (nobody : frame.closes = fun _ => false)
      (quiet : frame.isConnect = false) :
      book.record frame after = { book with host := after } := by
    unfold record
    simp [none, nobody, quiet]
  cases frame with
  | entering call =>
    cases call with
    | connect => cases calm
    | disconnect session => cases calm
    | endSession session => cases calm
    | close => cases calm
    | _ => exact kept rfl (funext fun _ => rfl) rfl
  | _ => exact kept rfl (funext fun _ => rfl) rfl

/-- The database is open, and it agrees with the book. -/
structure Agrees (book : Guestbook τ) (engine : Engine τ) (used : Nat) : Prop where
  there : book.host.engine? 0 = some engine
  single : book.host.sites.size ≤ 1
  used_le : used ≤ book.connects
  attended : engine.database.Attended book.guests book.left used

/-- A book that has just been opened, for a database that has been. -/
def opened (database : Database) (disk : FileSystem) (tables : τ) : Guestbook τ :=
  { host := .ofDatabase database disk tables }

theorem agrees_opened {disk after : FileSystem} {path : Path} {config : Config} {owner : String}
    {database : Database} (opens : Database.openAt disk path config owner = (.ok database, after))
    (tables : τ) : (opened database after tables).Agrees ⟨database, after, tables⟩ 0 :=
  ⟨rfl, Nat.le_refl 1, Nat.le_refl 0, .opened opens⟩

theorem Agrees.put {engine changed : Engine τ} {used used' : Nat} (h : book.Agrees engine used)
    (host : next.host = book.host.put 0 changed) (used_le : used' ≤ next.connects)
    (attended : changed.database.Attended next.guests next.left used') :
    next.Agrees changed used' := by
  refine ⟨?_, ?_, used_le, attended⟩
  · rw [host]
    exact Host.engine?_put_self h.there changed
  · rw [host]
    unfold Host.put
    rw [Array.size_setIfInBounds]
    exact h.single

theorem Agrees.connect {engine changed : Engine τ} {used : Nat} (h : book.Agrees engine used)
    (database : changed.database = engine.database.connect.2)
    (few : book.connects + 1 < UInt64.size) :
    ∃ used', (book.record (.entering .connect) (book.host.put 0 changed)).Agrees changed used' := by
  obtain ⟨used', used'_le, attended⟩ :=
    h.attended.connect (Nat.lt_of_le_of_lt (Nat.succ_le_succ h.used_le) few)
  refine ⟨used', h.put rfl (Nat.le_trans used'_le (Nat.succ_le_succ h.used_le)) ?_⟩
  have newcomer : book.newcomer? (.entering .connect) = engine.database.connect.1.toOption := by
    unfold newcomer?
    rw [h.there]
    rfl
  have nobody : book.guests.filter (Frame.entering (.connect : Call τ)).closes = [] := by
    simp [Frame.closes]
  show changed.database.Attended ((book.newcomer? _).toList ++ book.guests)
    (book.guests.filter _ ++ book.left) used'
  rw [newcomer, nobody, database]
  exact attended

/-- A step of the open database leaves it in agreement with the book. -/
theorem Agrees.record {engine changed : Engine τ} {used : Nat} (h : book.Agrees engine used)
    {frame : Frame τ}
    (owned : ∀ session, frame = .entering (.endSession session) → session ∈ book.guests)
    (moves : engine.Moves frame changed)
    (few : (book.record frame (book.host.put 0 changed)).connects < UInt64.size) :
    ∃ used', (book.record frame (book.host.put 0 changed)).Agrees changed used' := by
  cases moves with
  | connect call database =>
    subst call
    exact h.connect database few
  | disconnect session call database =>
    subst call
    refine ⟨used, h.put rfl h.used_le ?_⟩
    rw [database]
    exact h.attended.disconnect session
  | endSession session call database =>
    subst call
    refine ⟨used, h.put rfl h.used_le ?_⟩
    rw [database]
    exact h.attended.endSession (owned session rfl)
  | close call database =>
    subst call
    refine ⟨used, h.put rfl h.used_le ?_⟩
    rw [database]
    exact h.attended.close engine.disk
  | setHeld calm session enable member database =>
    rw [record_of_calm calm]
    refine ⟨used, h.put rfl h.used_le ?_⟩
    rw [database]
    exact h.attended.setHeld member enable
  | same calm same =>
    rw [record_of_calm calm]
    exact ⟨used, h.put rfl h.used_le (h.attended.congr same)⟩

theorem Agrees.serve {engine : Engine τ} {used : Nat} (h : book.Agrees engine used)
    (request : Request) :
    ∃ engine', { book with host := book.host.serve request }.Agrees engine' used := by
  unfold Host.serve
  rw [h.there]
  exact ⟨_, h.put rfl h.used_le (h.attended.congr ⟨rfl, rfl, rfl, rfl⟩)⟩

theorem connects_le (step : book.Step next) : book.connects ≤ next.connects := by
  cases step with
  | served request => exact Nat.le_refl _
  | stepped frame below owned steps => exact Nat.le_add_right ..
  | elsewhere away steps => exact Nat.le_refl _

/-- **Whatever happens next**, the database stays in agreement with the book. -/
theorem Agrees.step {engine : Engine τ} {used : Nat} (h : book.Agrees engine used)
    (step : book.Step next) (few : next.connects < UInt64.size) :
    ∃ engine' used', next.Agrees engine' used' := by
  cases step with
  | served request =>
    obtain ⟨engine', agrees⟩ := h.serve request
    exact ⟨engine', used, agrees⟩
  | elsewhere away steps =>
    rcases Host.step_cases steps with rfl | ⟨other, changed, there, -, -⟩
    · exact ⟨engine, used, h⟩
    · -- There is no other database that could take the step.
      have bound := (Array.getElem?_eq_some_iff.1 (Host.engine?_eq_some there).1).1
      have away := Nat.pos_of_ne_zero away
      have single := h.single
      omega
  | stepped frame below owned steps =>
    rcases Host.step_of_there h.there steps with ⟨changed, advances, rfl⟩ | ⟨calm, rfl⟩
    · obtain ⟨used', agrees⟩ := h.record owned (Engine.moves_advance advances) few
      exact ⟨changed, used', agrees⟩
    · rw [record_of_calm calm]
      exact ⟨engine, used, h⟩

/-- **As long as no id is used twice**, the database stays in agreement with the book. -/
theorem agrees_later {engine : Engine τ} (h : book.Agrees engine 0) (later : book.Later next)
    (few : next.connects < UInt64.size) : ∃ engine' used, next.Agrees engine' used := by
  -- By induction on what happened, the last thing last.
  induction later with
  | refl => exact ⟨engine, 0, h⟩
  | tail later step ih =>
    obtain ⟨engine', used, agrees⟩ := ih (Nat.lt_of_le_of_lt (connects_le step) few)
    exact agrees.step step few

/-- Who has left is not forgotten. -/
theorem left_of_later {session : SessionId} (gone : session ∈ book.left)
    (later : book.Later next) : session ∈ next.left := by
  induction later with
  | refl => exact gone
  | tail later step ih =>
    cases step with
    | served request => exact ih
    | stepped frame below owned steps => exact List.mem_append_right _ ih
    | elsewhere away steps => exact ih

end Guestbook

end DurableStore
