import DurableStore.Proofs.Database.Guests

/-!
Closed sessions.

A statement of a session that has left is turned away at the door, if its session takes itself to
be closed, or else at the lock, where the session is not connected.  In between nothing is done on
its behalf, whatever other calls do meanwhile (`Host.Dismisses`, `Guestbook.dismissed_ever_after`).
-/

namespace DurableStore

variable {τ : Type}

/-! ## Statements -/

/-- What setting an option asks for. -/
def Setting.errand : Setting → Errand τ
  | .exclusive enable => .setHeld enable
  | .reuseResults enable => .setReuse enable

/-- What a statement of a session asks for, unless it sets an option that is not well-formed. -/
def Call.errand? : Call τ → Option (SessionId × Errand τ)
  | .setExclusive session enable => some (session, .setHeld enable)
  | .set session name value =>
    (Setting.parse name value).toOption.map fun setting => (session, setting.errand)
  | .query session statement during rows => some (session, .query statement during rows)
  | .update session record during apply => some (session, .update record during apply)
  | _ => none

namespace Engine

/-- A statement puts its errand in the queue, if its session takes itself to be open. -/
theorem enter_of_errand? (engine : Engine τ) {call : Call τ} {session : SessionId}
    {errand : Errand τ} (asks : call.errand? = some (session, errand)) :
    engine.enter call = engine.enqueue session errand := by
  cases call with
  | setExclusive session enable => cases asks; rfl
  | set session name value =>
    simp only [Call.errand?] at asks
    simp only [enter, enqueue]
    cases parsed : Setting.parse name value with
    | error fault =>
      rw [parsed] at asks
      cases asks
    | ok setting =>
      rw [parsed] at asks
      cases asks
      cases engine.database.ensureConnected session with
      | error fault => cases setting <;> rfl
      | ok => cases setting <;> rfl
  | query session statement during rows => cases asks; rfl
  | update session bytes during apply => cases asks; rfl
  | _ => cases asks

end Engine

/-! ## Sessions that have left -/

namespace Database.Attended

variable {database : Database} {guests left : List SessionId} {used : Nat} {session : SessionId}

theorem turn_of_left (h : database.Attended guests left used) (gone : session ∈ left) :
    database.lock.turn session = .refused :=
  if_neg (h.left_gone session gone)

/-- To disconnect a session that has left does not even wake a call that waits. -/
theorem disconnect_of_left (h : database.Attended guests left used) (gone : session ∈ left) :
    database.lock.disconnect session = database.lock := by
  have missing := h.left_gone session gone
  rcases database.lock.disconnect_cases session with ⟨held, -⟩ | ⟨-, member, -⟩ | ⟨-, -, same⟩
  · exact absurd (h.orderly.holder_mem session held) missing
  · exact absurd member missing
  · exact same

/-- To close a session that has left again changes nothing, except that its owner knows. -/
theorem enter_again {engine : Engine τ} (h : engine.database.Attended guests left used)
    (gone : session ∈ left) {call : Call τ}
    (closes : call = .endSession session ∨ call = .disconnect session) :
    ∃ ended, (∀ other, other ≠ session → (other ∈ ended ↔ other ∈ engine.database.ended)) ∧
      engine.enter call =
        .answer { engine with database := { engine.database with ended } } (.done (.ok ())) := by
  have same := h.disconnect_of_left gone
  rcases closes with rfl | rfl
  · by_cases ended : session ∈ engine.database.ended
    · refine ⟨engine.database.ended, fun other _ => Iff.rfl, ?_⟩
      simp only [Engine.enter, Database.endSession, if_pos ended]
    · refine ⟨session :: engine.database.ended, ?_, ?_⟩
      · intro other differs
        rw [List.mem_cons, or_iff_right differs]
      · simp only [Engine.enter, Database.endSession, if_neg ended, Database.disconnect, same]
  · refine ⟨engine.database.ended, fun other _ => Iff.rfl, ?_⟩
    simp only [Engine.enter, Database.disconnect, same]

end Database.Attended

namespace Host

variable {host : Host τ} {engine after : Engine τ} {task : Task τ}

theorem step_of_answer (there : host.engine? task.top.site = some engine) {answer : Answer τ}
    (h : engine.advance task.top.frame = .answer after answer) :
    host.step task = (host.put task.top.site after).deliver answer task.below := by
  unfold step
  simp only [there, h]

theorem step_of_become (there : host.engine? task.top.site = some engine) {frame : Frame τ}
    (h : engine.advance task.top.frame = .become after frame) :
    host.step task =
      .moved (host.put task.top.site after) { task with top := ⟨task.top.site, frame⟩ } := by
  unfold step
  simp only [there, h]

/-- What becomes of the calls of a session that may not act any more. -/
structure Dismisses (host : Host τ) (engine : Engine τ) (session : SessionId) : Prop where
  there : host.engine? 0 = some engine
  /-- A statement is refused at once, or it joins the queue; nothing has changed so far. -/
  begun : ∀ call errand below, call.errand? = some (session, errand) →
    host.step { top := ⟨0, .entering call⟩, below } =
        host.deliver (errand.refuse (.connectionClosed session)) below ∨
      host.step { top := ⟨0, .entering call⟩, below } =
        .moved host { top := ⟨0, .queued session errand none⟩, below }
  /-- When a statement in the queue looks whether it is its turn, it is refused, and nothing has
  changed. -/
  queued : ∀ errand seen below, engine.hasNews seen = true →
    host.step { top := ⟨0, .queued session errand seen⟩, below } =
      host.deliver (errand.refuse (.connectionClosed session)) below
  /-- So a statement that nothing comes in between is refused, and nothing has changed. -/
  alone : ∀ call errand, call.errand? = some (session, errand) →
    host.run { top := ⟨0, .entering call⟩ } =
      (.answered (errand.refuse (.connectionClosed session)), host)
  /-- To close the session again changes nothing, except that its owner knows. -/
  again : ∀ call below, call = .endSession session ∨ call = .disconnect session →
    ∃ ended, (∀ other, other ≠ session → (other ∈ ended ↔ other ∈ engine.database.ended)) ∧
      host.step { top := ⟨0, .entering call⟩, below } =
        (host.put 0 { engine with database := { engine.database with ended } }).deliver
          (.done (.ok ())) below

/-- A statement is refused at once, or joins the queue. -/
theorem step_statement (there : host.engine? 0 = some engine) {call : Call τ}
    {session : SessionId} {errand : Errand τ} (asks : call.errand? = some (session, errand))
    (below : List (Activation τ)) :
    host.step { top := ⟨0, .entering call⟩, below } =
        host.deliver (errand.refuse (.connectionClosed session)) below ∨
      host.step { top := ⟨0, .entering call⟩, below } =
        .moved host { top := ⟨0, .queued session errand none⟩, below } := by
  have enters : engine.advance (.entering call) = engine.enqueue session errand :=
    engine.enter_of_errand? asks
  unfold Engine.enqueue Database.ensureConnected at enters
  by_cases ended : engine.database.isEnded session = true
  · rw [if_pos ended] at enters
    left
    rw [step_of_answer there enters, put_self there]
  · rw [if_neg ended] at enters
    right
    rw [step_of_become there enters, put_self there]

theorem step_refused (there : host.engine? 0 = some engine) {session : SessionId}
    (turn : engine.database.lock.turn session = .refused) (errand : Errand τ) {seen : Option Nat}
    (news : engine.hasNews seen = true) (below : List (Activation τ)) :
    host.step { top := ⟨0, .queued session errand seen⟩, below } =
      host.deliver (errand.refuse (.connectionClosed session)) below := by
  have looks : engine.advance (.queued session errand seen) =
      .answer engine (errand.refuse (.connectionClosed session)) := by
    simp only [Engine.advance, Engine.look, news, if_true, turn]
  rw [step_of_answer there looks, put_self there]

end Host

namespace Guestbook

variable {book : Guestbook τ} {engine : Engine τ} {used : Nat} {session : SessionId}

/-- Every session that has left is dismissed. -/
theorem Agrees.dismisses (h : book.Agrees engine used) (gone : session ∈ book.left) :
    book.host.Dismisses engine session := by
  have turn := h.attended.turn_of_left gone
  have fresh : engine.hasNews none = true := rfl
  refine ⟨h.there, ?_, ?_, ?_, ?_⟩
  · intro call errand below asks
    exact Host.step_statement h.there asks below
  · intro errand seen below news
    exact Host.step_refused h.there turn errand news below
  · intro call errand asks
    rw [Host.run_eq]
    rcases Host.step_statement h.there asks [] with refused | joins
    · rw [refused]
      rfl
    · rw [joins]
      show book.host.run _ = _
      rw [Host.run_eq, Host.step_refused h.there turn errand fresh []]
      rfl
  · intro call below closes
    obtain ⟨ended, others, enters⟩ := h.attended.enter_again gone closes
    exact ⟨ended, others, Host.step_of_answer h.there enters⟩

/-- **A closed session never acts again.**  Once a session of an open database was ended or dropped
by its owner, disconnected by its id, or closed with the database, each of its statements is
refused as its connection is closed: no body runs, and the host is left as it was.  To close it
again leaves every other session, and the lock, as they were. -/
theorem dismissed_ever_after {disk after : FileSystem} {path : Path} {config : Config}
    {owner : String} {database : Database}
    (opens : Database.openAt disk path config owner = (.ok database, after)) (tables : τ)
    {book next : Guestbook τ} (before : (opened database after tables).Later book)
    (gone : session ∈ book.left) (later : book.Later next) (few : next.connects < UInt64.size) :
    ∃ engine, next.host.Dismisses engine session := by
  obtain ⟨engine, used, agrees⟩ :=
    agrees_later (agrees_opened opens tables) (before.trans later) few
  exact ⟨engine, agrees.dismisses (left_of_later gone later)⟩

/-- The first of two sessions is disconnected by its id, and then the second one takes the lock. -/
theorem dismissed_ever_after_locked : ∃ (book : Guestbook Unit) (engine : Engine Unit),
    engine.database.lock.holder = some ⟨2⟩ ∧ book.host.Dismisses engine ⟨1⟩ := by
  obtain ⟨database, opens⟩ := Host.firstOpening_eq
  obtain ⟨storage, cache, journal, recovered, rfl⟩ := Database.openAt_fresh opens
  let host (lock : ExclusiveLock) (nextSession : UInt64) : Host Unit :=
    .ofDatabase { storage, cache, journal, recovered, lock, nextSession } Host.firstOpening.2 ()
  let start : Guestbook Unit := { host := host {} 1 }
  let one := start.record (.entering .connect) (host ⟨none, [⟨1⟩], false, 0⟩ 2)
  let two := one.record (.entering .connect) (host ⟨none, [⟨2⟩, ⟨1⟩], false, 0⟩ 3)
  let left := two.record (.entering (.disconnect ⟨1⟩)) (host ⟨none, [⟨2⟩], false, 1⟩ 3)
  let asked := left.record (.entering (.setExclusive ⟨2⟩ true)) left.host
  let locked := asked.record (.queued ⟨2⟩ (.setHeld true) none)
    (host ⟨some ⟨2⟩, [⟨2⟩], false, 1⟩ 3)
  have first : start.Step one := .stepped _ [] nofun rfl
  have second : one.Step two := .stepped _ [] nofun rfl
  have leaves : two.Step left := .stepped _ [] nofun rfl
  have asks : left.Step asked := .stepped _ [] nofun rfl
  have locks : asked.Step locked := .stepped _ [] nofun rfl
  have gone : ⟨1⟩ ∈ left.left := List.mem_cons_self
  have few : locked.connects < UInt64.size := show 2 < UInt64.size by decide
  have before : start.Later left := ((Relation.ReflTransGen.single first).tail second).tail leaves
  have later : left.Later locked := (Relation.ReflTransGen.single asks).tail locks
  obtain ⟨engine, dismisses⟩ := dismissed_ever_after opens () before gone later few
  have held : (locked.host.engine? 0).bind (·.database.lock.holder) = some ⟨2⟩ := rfl
  rw [dismisses.there] at held
  exact ⟨locked, engine, held, dismisses⟩

end Guestbook

end DurableStore
