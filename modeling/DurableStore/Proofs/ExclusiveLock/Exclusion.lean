import DurableStore.ExclusiveLock.Queue
import Mathlib.Data.List.Nodup

/-!
At most one session holds the lock.

An `Event` is an admission, a call, the end of a session, the shutdown, or a parked call that looks
at the lock again, told to or not.  A lock is orderly if its holder is connected, no session is
connected twice, and nobody is connected after the shutdown.

* `attempt_cases` says what a look at the lock finds and what it changes, `step_cases` what an event
  does to the lock.
* Every event leaves an orderly lock (`orderly_step`), so the lock is orderly whatever happened
  (`orderly_after`).
* `holder_step` says which events change the holder, and `exclusive_after` adds what all other
  sessions are answered while one holds the lock.
-/

namespace DurableStore

namespace ExclusiveLock

variable {lock : ExclusiveLock} {session : SessionId} {intent : Intent}

/-! ## Looks at the lock -/

/-- What a call finds when it looks whether it may go on. -/
theorem turn_cases (lock : ExclusiveLock) (session : SessionId) :
    lock.turn session = .refused ∧ session ∉ lock.connected ∨
      lock.turn session = .granted ∧ session ∈ lock.connected ∧
        (lock.holder = none ∨ lock.holder = some session) ∨
      lock.turn session = .wait ∧ session ∈ lock.connected ∧
        ∃ holder, lock.holder = some holder ∧ holder ≠ session := by
  unfold turn
  by_cases member : session ∈ lock.connected
  · rw [if_pos member]
    cases held : lock.holder with
    | none => exact .inr (.inl ⟨rfl, member, .inl rfl⟩)
    | some holder =>
      by_cases same : holder = session
      · subst same
        exact .inr (.inl ⟨if_pos rfl, member, .inr rfl⟩)
      · exact .inr (.inr ⟨if_neg same, member, holder, rfl, same⟩)
  · rw [if_neg member]
    exact .inl ⟨rfl, member⟩

theorem turn_eq_wait :
    lock.turn session = .wait ↔
      session ∈ lock.connected ∧ ∃ holder, lock.holder = some holder ∧ holder ≠ session := by
  constructor
  · intro waits
    rcases lock.turn_cases session with ⟨turn, -⟩ | ⟨turn, -⟩ | ⟨-, found⟩
    · rw [waits] at turn
      cases turn
    · rw [waits] at turn
      cases turn
    · exact found
  · rintro ⟨member, holder, held, differs⟩
    rcases lock.turn_cases session with ⟨-, missing⟩ | ⟨-, -, free | own⟩ | ⟨turn, -⟩
    · exact absurd member missing
    · rw [held] at free
      cases free
    · rw [held] at own
      cases own
      exact absurd rfl differs
    · exact turn

/-- The lock after a call that may go on. -/
def granting (lock : ExclusiveLock) (session : SessionId) : Intent → ExclusiveLock
  | .pass => lock
  | .setHeld enable => lock.setHeld session enable

/-- **One look at the lock** answers that the session is not connected, lets the call go on, or
lets it wait. -/
theorem attempt_cases (lock : ExclusiveLock) (session : SessionId) (intent : Intent) :
    session ∉ lock.connected ∧
        lock.attempt session intent = some (.error (.connectionClosed session), lock) ∨
      session ∈ lock.connected ∧ (lock.holder = none ∨ lock.holder = some session) ∧
        lock.attempt session intent = some (.ok (), lock.granting session intent) ∨
      lock.turn session = .wait ∧ lock.attempt session intent = none := by
  unfold attempt
  rcases lock.turn_cases session with ⟨turn, missing⟩ | ⟨turn, member, free⟩ | ⟨turn, -⟩
  · rw [turn]
    exact .inl ⟨missing, rfl⟩
  · rw [turn]
    refine .inr (.inl ⟨member, free, ?_⟩)
    cases intent <;> rfl
  · rw [turn]
    exact .inr (.inr ⟨rfl, rfl⟩)

/-! ## Transitions -/

theorem setHeld_cases (lock : ExclusiveLock) (session : SessionId) (enable : Bool) :
    enable = true ∧ lock.holder = none ∧
        lock.setHeld session enable = { lock with holder := some session } ∨
      enable = false ∧ lock.holder = some session ∧
        lock.setHeld session enable = { lock with holder := none }.signal ∨
      (enable = true ∧ lock.holder ≠ none ∨ enable = false ∧ lock.holder ≠ some session) ∧
        lock.setHeld session enable = lock := by
  unfold setHeld isHeldBy
  cases enable with
  | true =>
    cases held : lock.holder with
    | none => exact .inl ⟨rfl, rfl, rfl⟩
    | some holder => exact .inr (.inr ⟨.inl ⟨rfl, nofun⟩, rfl⟩)
  | false =>
    by_cases own : lock.holder = some session
    · refine .inr (.inl ⟨rfl, own, ?_⟩)
      simp [own]
    · refine .inr (.inr ⟨.inr ⟨rfl, own⟩, ?_⟩)
      simp [own]

theorem disconnect_cases (lock : ExclusiveLock) (session : SessionId) :
    lock.holder = some session ∧
        lock.disconnect session =
          { lock with connected := lock.connected.erase session, holder := none }.signal ∨
      lock.holder ≠ some session ∧ session ∈ lock.connected ∧
        lock.disconnect session =
          { lock with connected := lock.connected.erase session }.signal ∨
      lock.holder ≠ some session ∧ session ∉ lock.connected ∧ lock.disconnect session = lock := by
  unfold disconnect isHeldBy
  by_cases own : lock.holder = some session
  · refine .inl ⟨own, ?_⟩
    simp [own]
  · by_cases member : session ∈ lock.connected
    · refine .inr (.inl ⟨own, member, ?_⟩)
      simp [own, member]
    · refine .inr (.inr ⟨own, member, ?_⟩)
      simp [own, member, List.erase_of_not_mem]

theorem accept_cases (lock : ExclusiveLock) (session : SessionId) :
    lock.isShutdown = false ∧ (lock.holder = none ∨ lock.holder = some session) ∧
        lock.accept session =
          (.ok (), { lock with connected := lock.connected.insert session }) ∨
      lock.isShutdown = true ∧ lock.accept session = (.error .databaseClosed, lock) ∨
      ∃ holder, lock.isShutdown = false ∧ lock.holder = some holder ∧ holder ≠ session ∧
        lock.accept session = (.error (.exclusiveModeActive holder), lock) := by
  unfold accept
  cases shut : lock.isShutdown with
  | true => exact .inr (.inl ⟨rfl, rfl⟩)
  | false =>
    cases held : lock.holder with
    | none => exact .inl ⟨rfl, .inl rfl, rfl⟩
    | some holder =>
      by_cases same : holder = session
      · subst same
        refine .inl ⟨rfl, .inr rfl, ?_⟩
        simp
      · refine .inr (.inr ⟨holder, rfl, rfl, same, ?_⟩)
        simp [same]

/-! ## Orderly locks -/

/-- A lock as its transitions leave it. -/
structure Orderly (lock : ExclusiveLock) : Prop where
  holder_mem : ∀ session, lock.holder = some session → session ∈ lock.connected
  nodup : lock.connected.Nodup
  /-- After the shutdown nobody is connected. -/
  empty : lock.isShutdown = true → lock.connected = []

namespace Orderly

theorem initial : Orderly {} where
  holder_mem := nofun
  nodup := List.nodup_nil
  empty := nofun

theorem accept (h : lock.Orderly) (session : SessionId) : (lock.accept session).2.Orderly := by
  rcases lock.accept_cases session with ⟨opened, -, same⟩ | ⟨-, same⟩ | ⟨_, -, -, -, same⟩
  · rw [same]
    refine ⟨?_, h.nodup.insert, ?_⟩
    · intro holder held
      exact List.mem_insert_of_mem (h.holder_mem holder held)
    · intro shut
      rw [show lock.isShutdown = true from shut] at opened
      cases opened
  · rw [same]
    exact h
  · rw [same]
    exact h

theorem setHeld (h : lock.Orderly) (member : session ∈ lock.connected) (enable : Bool) :
    (lock.setHeld session enable).Orderly := by
  rcases lock.setHeld_cases session enable with ⟨-, -, same⟩ | ⟨-, -, same⟩ | ⟨-, same⟩
  · rw [same]
    refine ⟨?_, h.nodup, h.empty⟩
    rintro _ ⟨⟩
    exact member
  · rw [same]
    exact ⟨nofun, h.nodup, h.empty⟩
  · rw [same]
    exact h

theorem granting (h : lock.Orderly) (member : session ∈ lock.connected) (intent : Intent) :
    (lock.granting session intent).Orderly := by
  cases intent with
  | pass => exact h
  | setHeld enable => exact h.setHeld member enable

theorem disconnect (h : lock.Orderly) (session : SessionId) :
    (lock.disconnect session).Orderly := by
  have empty : lock.isShutdown = true → lock.connected.erase session = [] := by
    intro shut
    rw [h.empty shut]
    rfl
  rcases lock.disconnect_cases session with ⟨-, same⟩ | ⟨other, -, same⟩ | ⟨-, -, same⟩
  · rw [same]
    exact ⟨nofun, h.nodup.erase session, empty⟩
  · rw [same]
    refine ⟨?_, h.nodup.erase session, empty⟩
    intro holder held
    have differs : holder ≠ session := by
      rintro rfl
      exact other held
    exact (List.mem_erase_of_ne differs).2 (h.holder_mem holder held)
  · rw [same]
    exact h

theorem shutdown (lock : ExclusiveLock) : lock.shutdown.Orderly where
  holder_mem := nofun
  nodup := List.nodup_nil
  empty := fun _ => rfl

/-- Nobody holds the lock after the shutdown. -/
theorem not_shutdown (h : lock.Orderly) (held : lock.holder = some session) :
    lock.isShutdown = false := by
  cases shut : lock.isShutdown with
  | false => rfl
  | true =>
    have member := h.holder_mem session held
    rw [h.empty shut] at member
    cases member

/-- Nobody else is admitted while a session holds the lock. -/
theorem accept_of_held (h : lock.Orderly) (held : lock.holder = some session) {other : SessionId}
    (differs : other ≠ session) :
    lock.accept other = (.error (.exclusiveModeActive session), lock) := by
  rcases lock.accept_cases other with ⟨-, free | own, -⟩ | ⟨shut, -⟩ | ⟨holder, -, held', -, same⟩
  · rw [held] at free
    cases free
  · rw [held] at own
    cases own
    exact absurd rfl differs
  · rw [h.not_shutdown held] at shut
    cases shut
  · rw [held] at held'
    cases held'
    exact same

end Orderly

end ExclusiveLock

namespace LockQueue

variable {queue : LockQueue} {tag : String} {session : SessionId}
  {intent : ExclusiveLock.Intent} {index : Nat}

/-! ## Calls -/

theorem submit_cases (queue : LockQueue) (tag : String) (session : SessionId)
    (intent : ExclusiveLock.Intent) :
    (∃ answer lock, queue.lock.attempt session intent = some (answer, lock) ∧
        queue.submit tag session intent = (some answer, { queue with lock })) ∨
      queue.lock.attempt session intent = none ∧
        queue.submit tag session intent = (none, { queue with
          parked := queue.parked ++ [⟨tag, session, intent, queue.lock.signals⟩] }) := by
  unfold submit
  cases queue.lock.attempt session intent with
  | some found => exact .inl ⟨found.1, found.2, rfl, rfl⟩
  | none => exact .inr ⟨rfl, rfl⟩

theorem resume_cases {call : ParkedCall} (there : queue.parked[index]? = some call) :
    (∃ answer lock, queue.lock.attempt call.session call.intent = some (answer, lock) ∧
        queue.resume index = (some ⟨call.tag, answer⟩, ⟨lock, queue.parked.eraseIdx index⟩)) ∨
      queue.lock.attempt call.session call.intent = none ∧
        queue.resume index = (none, { queue with
          parked := queue.parked.set index { call with seen := queue.lock.signals } }) := by
  simp only [resume, there]
  cases queue.lock.attempt call.session call.intent with
  | some found => exact .inl ⟨found.1, found.2, rfl, rfl⟩
  | none => exact .inr ⟨rfl, rfl⟩

theorem resume_of_none (missing : queue.parked[index]? = none) :
    queue.resume index = (none, queue) := by
  simp only [resume, missing]

/-! ## Events -/

/-- What happens to a lock and to the calls that wait for it. -/
inductive Event where
  /-- A new connection asks to be admitted. -/
  | accept (session : SessionId)
  /-- A call is made. -/
  | submit (tag : String) (session : SessionId) (intent : ExclusiveLock.Intent)
  /-- A parked call looks at the lock again. -/
  | resume (index : Nat)
  /-- A session ends. -/
  | disconnect (session : SessionId)
  /-- The database is closed. -/
  | shutdown
  deriving DecidableEq

/-- What an event does. -/
def step (queue : LockQueue) : Event → LockQueue
  | .accept session => { queue with lock := (queue.lock.accept session).2 }
  | .submit tag session intent => (queue.submit tag session intent).2
  | .resume index => (queue.resume index).2
  | .disconnect session => { queue with lock := queue.lock.disconnect session }
  | .shutdown => { queue with lock := queue.lock.shutdown }

/-- What a new connection or a call is answered, if it is. -/
def answer? (queue : LockQueue) : Event → Option (Except Fault Unit)
  | .accept session => some (queue.lock.accept session).1
  | .submit tag session intent => (queue.submit tag session intent).1
  | .resume index => (queue.resume index).1.map (·.answer)
  | .disconnect _ | .shutdown => none

/-- The call that looks at the lock: its session and what it wants. -/
def call? (queue : LockQueue) : Event → Option (SessionId × ExclusiveLock.Intent)
  | .submit _ session intent => some (session, intent)
  | .resume index => queue.parked[index]?.map fun call => (call.session, call.intent)
  | .accept _ | .disconnect _ | .shutdown => none

/-- What a series of events does. -/
def run (queue : LockQueue) (events : List Event) : LockQueue :=
  events.foldl step queue

/-- A lock without sessions after a series of events. -/
def after (events : List Event) : LockQueue :=
  run {} events

variable {event : Event}

/-- A call that looks at the lock gets its answer from one attempt. -/
theorem look_eq (looks : queue.call? event = some (session, intent)) :
    queue.answer? event = (queue.lock.attempt session intent).map Prod.fst ∧
      (queue.step event).lock =
        ((queue.lock.attempt session intent).map Prod.snd).getD queue.lock := by
  cases event with
  | submit tag session' intent' =>
    cases looks
    rcases queue.submit_cases tag session intent with ⟨answer, lock, found, same⟩ | ⟨waits, same⟩
    · rw [found]
      exact ⟨congrArg Prod.fst same, congrArg (·.2.lock) same⟩
    · rw [waits]
      exact ⟨congrArg Prod.fst same, congrArg (·.2.lock) same⟩
  | resume index =>
    obtain ⟨call, there, same⟩ := Option.map_eq_some_iff.1 looks
    cases same
    rcases resume_cases there with ⟨answer, lock, found, same⟩ | ⟨waits, same⟩
    · rw [found]
      exact ⟨congrArg (·.1.map (·.answer)) same, congrArg (·.2.lock) same⟩
    · rw [waits]
      exact ⟨congrArg (·.1.map (·.answer)) same, congrArg (·.2.lock) same⟩
  | accept _ => cases looks
  | disconnect _ => cases looks
  | shutdown => cases looks

/-- **A call that looks at the lock** is refused, goes on with what it wants, or waits. -/
theorem step_of_call (looks : queue.call? event = some (session, intent)) :
    session ∉ queue.lock.connected ∧
        queue.answer? event = some (.error (.connectionClosed session)) ∧
        (queue.step event).lock = queue.lock ∨
      session ∈ queue.lock.connected ∧
        (queue.lock.holder = none ∨ queue.lock.holder = some session) ∧
        queue.answer? event = some (.ok ()) ∧
        (queue.step event).lock = queue.lock.granting session intent ∨
      queue.lock.turn session = .wait ∧ queue.answer? event = none ∧
        (queue.step event).lock = queue.lock := by
  obtain ⟨answered, left⟩ := look_eq looks
  rcases queue.lock.attempt_cases session intent with
    ⟨missing, found⟩ | ⟨member, free, found⟩ | ⟨waits, found⟩
  · rw [found] at answered left
    exact .inl ⟨missing, answered, left⟩
  · rw [found] at answered left
    exact .inr (.inl ⟨member, free, answered, left⟩)
  · rw [found] at answered left
    exact .inr (.inr ⟨waits, answered, left⟩)

/-- A call that looks at the lock leaves it as it is unless it goes on. -/
theorem lock_of_call (looks : queue.call? event = some (session, intent)) :
    (∃ session intent, queue.call? event = some (session, intent) ∧
        session ∈ queue.lock.connected ∧
        (queue.step event).lock = queue.lock.granting session intent) ∨
      (queue.step event).lock = queue.lock := by
  rcases step_of_call looks with ⟨-, -, same⟩ | ⟨member, -, -, same⟩ | ⟨-, -, same⟩
  · exact .inr same
  · exact .inl ⟨session, intent, looks, member, same⟩
  · exact .inr same

/-- **What an event does to the lock**: it admits or ends a session, shuts the lock down, grants a
call what it wants, or leaves the lock as it is. -/
theorem step_cases (queue : LockQueue) (event : Event) :
    (∃ session, event = .accept session ∧
        (queue.step event).lock = (queue.lock.accept session).2) ∨
      (∃ session, event = .disconnect session ∧
        (queue.step event).lock = queue.lock.disconnect session) ∨
      event = .shutdown ∧ (queue.step event).lock = queue.lock.shutdown ∨
      (∃ session intent, queue.call? event = some (session, intent) ∧
        session ∈ queue.lock.connected ∧
        (queue.step event).lock = queue.lock.granting session intent) ∨
      (queue.step event).lock = queue.lock := by
  cases event with
  | accept session => exact .inl ⟨session, rfl, rfl⟩
  | disconnect session => exact .inr (.inl ⟨session, rfl, rfl⟩)
  | shutdown => exact .inr (.inr (.inl ⟨rfl, rfl⟩))
  | submit tag session intent => exact .inr (.inr (.inr (lock_of_call rfl)))
  | resume index =>
    cases there : queue.parked[index]? with
    | some call => exact .inr (.inr (.inr (lock_of_call (congrArg (Option.map _) there))))
    | none => exact .inr (.inr (.inr (.inr (congrArg (·.2.lock) (resume_of_none there)))))

/-! ## Exclusion -/

theorem orderly_step (h : queue.lock.Orderly) (event : Event) :
    (queue.step event).lock.Orderly := by
  rcases queue.step_cases event with ⟨session, -, same⟩ | ⟨session, -, same⟩ | ⟨-, same⟩ |
      ⟨session, intent, -, member, same⟩ | same
  · rw [same]
    exact h.accept session
  · rw [same]
    exact h.disconnect session
  · rw [same]
    exact .shutdown queue.lock
  · rw [same]
    exact h.granting member intent
  · rw [same]
    exact h

theorem orderly_run (h : queue.lock.Orderly) (events : List Event) :
    (queue.run events).lock.Orderly := by
  induction events generalizing queue with
  | nil => exact h
  | cons event rest ih => exact ih (orderly_step h event)

/-- The lock is orderly whatever happened. -/
theorem orderly_after (events : List Event) : (after events).lock.Orderly :=
  orderly_run .initial events

/-- **The holder changes** only by a call of the session that takes the lock, or by a call of the
session that gives it up, its end or the shutdown. -/
theorem holder_step (queue : LockQueue) (event : Event) :
    (queue.step event).lock.holder = queue.lock.holder ∨
      (∃ session, queue.lock.holder = none ∧ (queue.step event).lock.holder = some session ∧
        queue.call? event = some (session, .setHeld true)) ∨
      ∃ session, queue.lock.holder = some session ∧ (queue.step event).lock.holder = none ∧
        (queue.call? event = some (session, .setHeld false) ∨ event = .disconnect session ∨
          event = .shutdown) := by
  rcases queue.step_cases event with ⟨session, -, same⟩ | ⟨session, ends, same⟩ | ⟨shut, same⟩ |
      ⟨session, intent, looks, -, same⟩ | same
  · left
    rw [same]
    rcases queue.lock.accept_cases session with ⟨-, -, same⟩ | ⟨-, same⟩ | ⟨_, -, -, -, same⟩ <;>
      rw [same]
  · rcases queue.lock.disconnect_cases session with ⟨held, left⟩ | ⟨-, -, left⟩ | ⟨-, -, left⟩
    · refine .inr (.inr ⟨session, held, ?_, .inr (.inl ends)⟩)
      rw [same, left]
      rfl
    · left
      rw [same, left]
      rfl
    · left
      rw [same, left]
  · cases held : queue.lock.holder with
    | none =>
      left
      rw [same]
      rfl
    | some holder =>
      refine .inr (.inr ⟨holder, rfl, ?_, .inr (.inr shut)⟩)
      rw [same]
      rfl
  · cases intent with
    | pass =>
      left
      rw [same]
      rfl
    | setHeld enable =>
      have granted : (queue.step event).lock = queue.lock.setHeld session enable := same
      rcases queue.lock.setHeld_cases session enable with
        ⟨rfl, free, taken⟩ | ⟨rfl, held, given⟩ | ⟨-, kept⟩
      · refine .inr (.inl ⟨session, free, ?_, looks⟩)
        rw [granted, taken]
      · refine .inr (.inr ⟨session, held, ?_, .inl looks⟩)
        rw [granted, given]
        rfl
      · left
        rw [granted, kept]
  · left
    rw [same]

/-- No call of another session goes on while a session holds the lock. -/
theorem answer_ne_ok (held : queue.lock.holder = some session) {other : SessionId}
    (differs : other ≠ session) (looks : queue.call? event = some (other, intent)) :
    queue.answer? event ≠ some (.ok ()) := by
  intro passed
  rcases step_of_call looks with ⟨-, answered, -⟩ | ⟨-, free | own, -⟩ | ⟨-, answered, -⟩
  · rw [answered] at passed
    cases passed
  · rw [held] at free
    cases free
  · rw [held] at own
    cases own
    exact differs rfl
  · rw [answered] at passed
    cases passed

/-- **The lock excludes.**  Whatever happened, and whatever happens next: the holder is connected
and the lock is not shut down; the holder changes only by its own taking and giving up, its end
and the shutdown, and never to another session at once; and while a session holds the lock, every
other one is refused admission, which changes nothing, and none of its calls goes on. -/
theorem exclusive_after (events : List Event) (event : Event) :
    (∀ session, (after events).lock.holder = some session →
      session ∈ (after events).lock.connected ∧ (after events).lock.isShutdown = false) ∧
    (((after events).step event).lock.holder = (after events).lock.holder ∨
      (∃ session, (after events).lock.holder = none ∧
        ((after events).step event).lock.holder = some session ∧
        (after events).call? event = some (session, .setHeld true)) ∨
      ∃ session, (after events).lock.holder = some session ∧
        ((after events).step event).lock.holder = none ∧
        ((after events).call? event = some (session, .setHeld false) ∨
          event = .disconnect session ∨ event = .shutdown)) ∧
    ∀ session, (after events).lock.holder = some session → ∀ other, other ≠ session →
      (event = .accept other →
        (after events).answer? event = some (.error (.exclusiveModeActive session)) ∧
          (after events).step event = after events) ∧
      ∀ intent, (after events).call? event = some (other, intent) →
        (after events).answer? event ≠ some (.ok ()) := by
  have orderly := orderly_after events
  refine ⟨?_, holder_step _ event, ?_⟩
  · intro session held
    exact ⟨orderly.holder_mem session held, orderly.not_shutdown held⟩
  · intro session held other differs
    constructor
    · rintro rfl
      have refused := orderly.accept_of_held held differs
      constructor
      · show some ((after events).lock.accept other).1 = _
        rw [refused]
      · show { after events with lock := ((after events).lock.accept other).2 } = after events
        rw [refused]
    · intro intent looks
      exact answer_ne_ok held differs looks

/-- Of two sessions that want the lock, the second gets it when the first has given it up and the
parked call looks again. -/
example : (after [.accept ⟨1⟩, .accept ⟨2⟩, .submit "a" ⟨1⟩ (.setHeld true),
    .submit "b" ⟨2⟩ (.setHeld true), .submit "c" ⟨1⟩ (.setHeld false), .resume 0]).lock.holder =
    some ⟨2⟩ := by
  decide

end LockQueue

end DurableStore
