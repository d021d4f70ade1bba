import DurableStore.Proofs.ExclusiveLock.Exclusion
import Mathlib.Tactic.Tauto

/-!
No call is left waiting, and none goes on too early.

* A transition of the lock that could let a waiting call go on tells all parked calls to look again:
  `Heeds` is this relation between a lock and what comes of it, and `heeds_step` says that every
  event keeps to it.  So a parked call that has not been told to look again would have to wait
  (`Attentive`), whatever happened (`attentive_after`), and letting the told ones look ends with
  all calls like that (`settle_quiet`).
* `LockQueue.follow` follows one parked call through later events.  While it is parked its session
  is connected just if it was not ended since, or was admitted again after that
  (`mem_connected_run`), which decides what the call is answered when it stops waiting.

`waiters_served` puts both together.
-/

namespace DurableStore

namespace ExclusiveLock

variable {lock later : ExclusiveLock} {session : SessionId}

/-- Calls that had to wait at the first lock have to wait at the second, or were told to look
again in between. -/
def Heeds (lock later : ExclusiveLock) : Prop :=
  lock.signals < later.signals ∨
    later.signals = lock.signals ∧
      ∀ session, lock.turn session = .wait → later.turn session = .wait

theorem Heeds.refl (lock : ExclusiveLock) : lock.Heeds lock :=
  .inr ⟨rfl, fun _ waits => waits⟩

theorem heeds_signal (lock : ExclusiveLock) {signals : Nat} (same : signals = lock.signals + 1)
    (holder : Option SessionId) (connected : List SessionId) (isShutdown : Bool) :
    lock.Heeds ⟨holder, connected, isShutdown, signals⟩ :=
  .inl (same ▸ Nat.lt_succ_self _)

/-- An admission lets nobody else go on. -/
theorem heeds_accept (lock : ExclusiveLock) (session : SessionId) :
    lock.Heeds (lock.accept session).2 := by
  rcases lock.accept_cases session with ⟨-, -, same⟩ | ⟨-, same⟩ | ⟨_, -, -, -, same⟩
  · rw [same]
    refine .inr ⟨rfl, ?_⟩
    intro other waits
    obtain ⟨member, held⟩ := turn_eq_wait.1 waits
    exact turn_eq_wait.2 ⟨List.mem_insert_of_mem member, held⟩
  · rw [same]
    exact .refl lock
  · rw [same]
    exact .refl lock

/-- **Taking the lock** makes nobody wait who could be parked, and giving it up is signalled. -/
theorem heeds_setHeld (lock : ExclusiveLock) (session : SessionId) (enable : Bool) :
    lock.Heeds (lock.setHeld session enable) := by
  rcases lock.setHeld_cases session enable with ⟨-, free, same⟩ | ⟨-, -, same⟩ | ⟨-, same⟩
  · rw [same]
    refine .inr ⟨rfl, ?_⟩
    -- Nobody had to wait at a free lock.
    intro other waits
    obtain ⟨-, holder, held, -⟩ := turn_eq_wait.1 waits
    rw [free] at held
    cases held
  · rw [same]
    exact heeds_signal lock rfl _ _ _
  · rw [same]
    exact .refl lock

theorem heeds_disconnect (lock : ExclusiveLock) (session : SessionId) :
    lock.Heeds (lock.disconnect session) := by
  rcases lock.disconnect_cases session with ⟨-, same⟩ | ⟨-, -, same⟩ | ⟨-, -, same⟩
  · rw [same]
    exact heeds_signal lock rfl _ _ _
  · rw [same]
    exact heeds_signal lock rfl _ _ _
  · rw [same]
    exact .refl lock

/-- Who holds a lock that was free or the session's own after the session took it or gave it up. -/
theorem holder_setHeld (free : lock.holder = none ∨ lock.holder = some session) (enable : Bool) :
    (lock.setHeld session enable).holder = if enable then some session else none := by
  rcases lock.setHeld_cases session enable with
    ⟨rfl, -, same⟩ | ⟨rfl, -, same⟩ | ⟨⟨rfl, held⟩ | ⟨rfl, other⟩, same⟩
  · rw [same]
    rfl
  · rw [same]
    rfl
  · rw [same]
    exact free.resolve_left held
  · rw [same]
    exact free.resolve_right other

/-- A call that gets no answer has to wait. -/
theorem turn_of_attempt {intent : Intent} (unanswered : lock.attempt session intent = none) :
    lock.turn session = .wait := by
  rcases lock.attempt_cases session intent with ⟨-, found⟩ | ⟨-, -, found⟩ | ⟨waits, -⟩
  · rw [unanswered] at found
    cases found
  · rw [unanswered] at found
    cases found
  · exact waits

end ExclusiveLock

namespace LockQueue

variable {queue : LockQueue} {event : Event} {session : SessionId}
  {intent : ExclusiveLock.Intent} {index : Nat} {call : ParkedCall}

/-! ## No missed notification -/

theorem heeds_step (queue : LockQueue) (event : Event) :
    queue.lock.Heeds (queue.step event).lock := by
  rcases queue.step_cases event with ⟨session, -, same⟩ | ⟨session, -, same⟩ | ⟨-, same⟩ |
      ⟨session, intent, -, -, same⟩ | same
  · rw [same]
    exact queue.lock.heeds_accept session
  · rw [same]
    exact queue.lock.heeds_disconnect session
  · rw [same]
    exact queue.lock.heeds_signal rfl _ _ _
  · rw [same]
    cases intent with
    | pass => exact .refl _
    | setHeld enable => exact queue.lock.heeds_setHeld session enable
  · rw [same]
    exact .refl _

/-- A parked call has been told to look again, or would have to wait. -/
def Attends (lock : ExclusiveLock) (call : ParkedCall) : Prop :=
  call.seen < lock.signals ∨ call.seen = lock.signals ∧ lock.turn call.session = .wait

theorem Attends.heeds {later lock : ExclusiveLock} (attends : Attends lock call)
    (heeds : lock.Heeds later) : Attends later call := by
  rcases heeds with raised | ⟨same, waiting⟩
  · rcases attends with told | ⟨seen, -⟩
    · exact .inl (by omega)
    · exact .inl (by omega)
  · rcases attends with told | ⟨seen, waits⟩
    · exact .inl (by omega)
    · exact .inr ⟨by omega, waiting call.session waits⟩

/-- Every parked call has been told to look again, or would have to wait. -/
def Attentive (queue : LockQueue) : Prop :=
  ∀ call ∈ queue.parked, Attends queue.lock call

/-- An event parks only calls that have to wait. -/
theorem mem_parked_step (member : call ∈ (queue.step event).parked) :
    call ∈ queue.parked ∨ call.seen = (queue.step event).lock.signals ∧
      (queue.step event).lock.turn call.session = .wait := by
  cases event with
  | accept _ => exact .inl member
  | disconnect _ => exact .inl member
  | shutdown => exact .inl member
  | submit tag session intent =>
    show _ ∨ call.seen = (queue.submit tag session intent).2.lock.signals ∧
      (queue.submit tag session intent).2.lock.turn call.session = .wait
    replace member : call ∈ (queue.submit tag session intent).2.parked := member
    rcases queue.submit_cases tag session intent with ⟨_, _, _, same⟩ | ⟨waits, same⟩
    · rw [same] at member
      exact .inl member
    · rw [same] at member ⊢
      rcases List.mem_append.1 member with old | new
      · exact .inl old
      · rw [List.mem_singleton] at new
        subst new
        exact .inr ⟨rfl, ExclusiveLock.turn_of_attempt waits⟩
  | resume index =>
    show _ ∨ call.seen = (queue.resume index).2.lock.signals ∧
      (queue.resume index).2.lock.turn call.session = .wait
    replace member : call ∈ (queue.resume index).2.parked := member
    cases there : queue.parked[index]? with
    | none =>
      rw [resume_of_none there] at member
      exact .inl member
    | some looking =>
      rcases resume_cases there with ⟨_, _, _, same⟩ | ⟨waits, same⟩
      · rw [same] at member
        exact .inl (List.mem_of_mem_eraseIdx member)
      · rw [same] at member ⊢
        rcases List.mem_or_eq_of_mem_set member with old | rfl
        · exact .inl old
        · exact .inr ⟨rfl, ExclusiveLock.turn_of_attempt waits⟩

/-- **Every event** leaves parked calls that have been told to look again or would have to wait. -/
theorem attentive_step (h : queue.Attentive) (event : Event) : (queue.step event).Attentive := by
  intro call member
  rcases mem_parked_step member with old | new
  · exact (h call old).heeds (queue.heeds_step event)
  · exact .inr new

theorem attentive_run (h : queue.Attentive) (events : List Event) :
    (queue.run events).Attentive := by
  induction events generalizing queue with
  | nil => exact h
  | cons event rest ih => exact ih (attentive_step h event)

theorem attentive_after (events : List Event) : (after events).Attentive :=
  attentive_run (fun _ member => by cases member) events

/-- Once all told calls have looked, every parked call has to wait. -/
theorem Attentive.waits (h : queue.Attentive) (quiet : queue.notified = 0)
    (member : call ∈ queue.parked) : queue.lock.turn call.session = .wait := by
  have untold := List.countP_eq_zero.1 quiet call member
  rcases h call member with told | ⟨-, waits⟩
  · exact absurd (decide_eq_true told) untold
  · exact waits

/-- **Letting told calls look** comes to an end, and then none is left that was told. -/
theorem settle_quiet (queue : LockQueue) :
    queue.settle.2.notified = 0 ∧ ∃ events, queue.settle.2 = queue.run events := by
  fun_induction settle queue with
  | case1 queue none =>
    refine ⟨?_, [], rfl⟩
    rw [notified, List.countP_eq_zero]
    intro call member
    have untold := List.findIdx?_eq_none_iff.1 none call member
    rw [untold]
    exact Bool.false_ne_true
  | case2 queue index told _ woken settled same ih =>
    rw [same] at ih
    obtain ⟨quiet, events, run⟩ := ih
    exact ⟨quiet, .resume index :: events, run⟩

/-! ## Following a parked call -/

/-- Where a parked call is after an event: nowhere if it was answered. -/
def Event.follow (queue : LockQueue) (index : Nat) : Event → Option Nat
  | .resume other =>
    if (queue.resume other).1.isNone then some index
    else if other = index then none
    else some (if other < index then index - 1 else index)
  | .accept _ | .submit _ _ _ | .disconnect _ | .shutdown => some index

/-- Where a parked call is after a series of events. -/
def follow (queue : LockQueue) (index : Nat) : List Event → Option Nat
  | [] => some index
  | event :: rest =>
    (event.follow queue index).bind fun index => (queue.step event).follow index rest

/-- The name of the call parked at an index, its session and what it wants. -/
def parkedAt? (queue : LockQueue) (index : Nat) :
    Option (String × SessionId × ExclusiveLock.Intent) :=
  queue.parked[index]?.map fun call => (call.tag, call.session, call.intent)

variable {what : String × SessionId × ExclusiveLock.Intent} {moved : Nat}

theorem parkedAt?_step (there : queue.parkedAt? index = some what)
    (followed : event.follow queue index = some moved) :
    (queue.step event).parkedAt? moved = some what := by
  obtain ⟨call, found, rfl⟩ := Option.map_eq_some_iff.1 there
  cases event with
  | accept _ => cases followed; exact there
  | disconnect _ => cases followed; exact there
  | shutdown => cases followed; exact there
  | submit tag session intent =>
    cases followed
    show (queue.submit tag session intent).2.parkedAt? index = _
    rcases queue.submit_cases tag session intent with ⟨_, _, _, same⟩ | ⟨-, same⟩
    · rw [same]
      exact there
    · rw [same, parkedAt?, List.getElem?_append_left (List.getElem?_eq_some_iff.1 found).1]
      exact there
  | resume other =>
    show (queue.resume other).2.parkedAt? moved = _
    simp only [Event.follow] at followed
    cases looking : queue.parked[other]? with
    | none =>
      rw [resume_of_none looking] at followed ⊢
      cases followed
      exact there
    | some looker =>
      rcases resume_cases looking with ⟨answer, lock, -, same⟩ | ⟨-, same⟩
      · -- The call that looked is gone; those behind it move up.
        rw [same] at followed ⊢
        simp only [Option.isNone_some, Bool.false_eq_true, if_false] at followed
        by_cases gone : other = index
        · rw [if_pos gone] at followed
          cases followed
        · rw [if_neg gone] at followed
          cases followed
          unfold parkedAt?
          rw [List.getElem?_eraseIdx]
          by_cases before : other < index
          · rw [if_pos before, if_neg (by omega), Nat.sub_add_cancel (by omega)]
            exact there
          · rw [if_neg before, if_pos (by omega)]
            exact there
      · -- The call that looked is parked again, at the same index.
        rw [same] at followed ⊢
        cases followed
        unfold parkedAt?
        by_cases self : other = index
        · subst self
          rw [found] at looking
          cases looking
          rw [List.getElem?_set_self (List.getElem?_eq_some_iff.1 found).1]
          rfl
        · rw [List.getElem?_set_ne self]
          exact there

theorem parkedAt?_run {events : List Event} (there : queue.parkedAt? index = some what)
    (followed : queue.follow index events = some moved) :
    (queue.run events).parkedAt? moved = some what := by
  induction events generalizing queue index with
  | nil =>
    cases followed
    exact there
  | cons event rest ih =>
    obtain ⟨between, first, later⟩ := Option.bind_eq_some_iff.1 followed
    exact ih (parkedAt?_step there first) later

/-! ## The end of a session -/

/-- The event ends a session. -/
def Event.Ends (session : SessionId) : Event → Prop
  | .disconnect other => other = session
  | .shutdown => True
  | .accept _ | .submit _ _ _ | .resume _ => False

/-- The event admits a session. -/
def Admits (queue : LockQueue) (session : SessionId) (event : Event) : Prop :=
  event = .accept session ∧ queue.answer? event = some (.ok ())

/-- A session is admitted in a series of events. -/
def AdmittedIn (session : SessionId) (queue : LockQueue) : List Event → Prop
  | [] => False
  | event :: rest => queue.Admits session event ∨ AdmittedIn session (queue.step event) rest

/-- A session is ended in a series of events, and not admitted after that. -/
def EndedIn (session : SessionId) (queue : LockQueue) : List Event → Prop
  | [] => False
  | event :: rest => event.Ends session ∧ ¬ AdmittedIn session (queue.step event) rest ∨
      EndedIn session (queue.step event) rest

theorem connected_granting (lock : ExclusiveLock) (session : SessionId)
    (intent : ExclusiveLock.Intent) :
    (lock.granting session intent).connected = lock.connected := by
  cases intent with
  | pass => rfl
  | setHeld enable =>
    show (lock.setHeld session enable).connected = lock.connected
    rcases lock.setHeld_cases session enable with ⟨-, -, same⟩ | ⟨-, -, same⟩ | ⟨-, same⟩ <;>
      rw [same]
    rfl

theorem mem_connected_disconnect {lock : ExclusiveLock} (h : lock.Orderly)
    (ended session : SessionId) :
    session ∈ (lock.disconnect ended).connected ↔ session ∈ lock.connected ∧ ended ≠ session := by
  have erased : session ∈ lock.connected.erase ended ↔
      session ∈ lock.connected ∧ ended ≠ session := by
    rw [h.nodup.mem_erase_iff, and_comm, ne_comm]
  rcases lock.disconnect_cases ended with ⟨-, same⟩ | ⟨-, -, same⟩ | ⟨-, missing, same⟩
  · rw [same]
    exact erased
  · rw [same]
    exact erased
  · rw [same]
    refine ⟨fun member => ⟨member, ?_⟩, And.left⟩
    rintro rfl
    exact missing member

theorem mem_connected_accept (lock : ExclusiveLock) (admitted session : SessionId) :
    session ∈ (lock.accept admitted).2.connected ↔
      session ∈ lock.connected ∨ admitted = session ∧ (lock.accept admitted).1 = .ok () := by
  rcases lock.accept_cases admitted with ⟨-, -, same⟩ | ⟨-, same⟩ | ⟨_, -, -, -, same⟩
  · rw [same, List.mem_insert_iff]
    simp [or_comm, eq_comm]
  · simp [same]
  · simp [same]

/-- Calls connect nobody and end nobody. -/
theorem connected_of_call (looks : queue.call? event = some (session, intent)) :
    (queue.step event).lock.connected = queue.lock.connected := by
  rcases lock_of_call looks with ⟨session, intent, -, -, same⟩ | same
  · rw [same, connected_granting]
  · rw [same]

/-- **Who is connected** after an event: who was or is admitted by it, and is not ended by it. -/
theorem mem_connected_step (h : queue.lock.Orderly) (event : Event) (session : SessionId) :
    session ∈ (queue.step event).lock.connected ↔
      (session ∈ queue.lock.connected ∨ queue.Admits session event) ∧ ¬ event.Ends session := by
  cases event with
  | accept other =>
    show session ∈ (queue.lock.accept other).2.connected ↔ _
    rw [mem_connected_accept]
    simp [Admits, Event.Ends, answer?]
  | disconnect other =>
    show session ∈ (queue.lock.disconnect other).connected ↔ _
    rw [mem_connected_disconnect h]
    simp [Admits, Event.Ends]
  | shutdown =>
    show session ∈ ([] : List SessionId) ↔ _
    simp [Event.Ends]
  | submit tag caller intent =>
    rw [connected_of_call rfl]
    simp [Admits, Event.Ends]
  | resume index =>
    have same : (queue.step (.resume index)).lock.connected = queue.lock.connected := by
      cases there : queue.parked[index]? with
      | some call => exact connected_of_call (congrArg (Option.map _) there)
      | none => exact congrArg (·.2.lock.connected) (resume_of_none there)
    rw [same]
    simp [Admits, Event.Ends]

/-- **Who is connected** after a series of events: who was or was admitted, and was not ended
since. -/
theorem mem_connected_run (h : queue.lock.Orderly) (events : List Event) (session : SessionId) :
    session ∈ (queue.run events).lock.connected ↔
      (session ∈ queue.lock.connected ∨ AdmittedIn session queue events) ∧
        ¬ EndedIn session queue events := by
  induction events generalizing queue with
  | nil => simp [run, AdmittedIn, EndedIn]
  | cons event rest ih =>
    show session ∈ ((queue.step event).run rest).lock.connected ↔ _
    rw [ih (orderly_step h event), mem_connected_step h event session]
    simp only [AdmittedIn, EndedIn]
    tauto

/-! ## Waiters are served -/

/-- A call without an answer is one of a connected session, and it is parked behind the others. -/
theorem submit_parks {tag : String}
    (unanswered : (queue.submit tag session intent).1 = none) :
    session ∈ queue.lock.connected ∧
      (queue.submit tag session intent).2.lock = queue.lock ∧
      (queue.submit tag session intent).2.parkedAt? queue.parked.length =
        some (tag, session, intent) := by
  rcases queue.submit_cases tag session intent with ⟨answer, _, _, same⟩ | ⟨waits, same⟩
  · rw [same] at unanswered
    cases unanswered
  · rw [same]
    have member := (ExclusiveLock.turn_eq_wait.1 (ExclusiveLock.turn_of_attempt waits)).1
    refine ⟨member, rfl, ?_⟩
    unfold parkedAt?
    rw [List.getElem?_concat_length]
    rfl

/-- What a call that stops waiting is answered, and what it makes of the lock. -/
theorem resume_answer {tag : String}
    (there : queue.parkedAt? index = some (tag, session, intent)) {woken : Woken}
    (leaves : (queue.resume index).1 = some woken) :
    woken.tag = tag ∧
      (session ∉ queue.lock.connected →
        woken.answer = .error (.connectionClosed session) ∧
          (queue.resume index).2.lock = queue.lock) ∧
      (session ∈ queue.lock.connected →
        woken.answer = .ok () ∧
          (queue.lock.holder = none ∨ queue.lock.holder = some session) ∧
          (queue.resume index).2.lock = queue.lock.granting session intent) := by
  obtain ⟨call, found, same⟩ := Option.map_eq_some_iff.1 there
  cases same
  rcases queue.lock.attempt_cases call.session call.intent with
    ⟨missing, answered⟩ | ⟨member, free, answered⟩ | ⟨-, answered⟩ <;>
    rcases resume_cases found with ⟨answer, lock, tried, same⟩ | ⟨tried, same⟩ <;>
    rw [answered] at tried <;> cases tried <;> rw [same] at leaves ⊢ <;> cases leaves
  · exact ⟨rfl, fun _ => ⟨rfl, rfl⟩, fun member => absurd member missing⟩
  · exact ⟨rfl, fun missing => absurd member missing, fun _ => ⟨rfl, free, rfl⟩⟩

/-- **No call is left waiting, and none goes on too early.**  Whatever happened: once all told calls
have looked again, each parked call is one of a connected session while another session holds the
lock.  And a call that had to be parked, whatever happened while it was, is answered that its
session is not connected if that was ended and not admitted again meanwhile; otherwise it goes on
while nobody or its own session holds the lock, and then the lock is held or free as it wanted. -/
theorem waiters_served (events : List Event) :
    ((after events).notified = 0 → ∀ call ∈ (after events).parked,
      call.session ∈ (after events).lock.connected ∧
        ∃ holder, (after events).lock.holder = some holder ∧ holder ≠ call.session) ∧
    ∀ tag session intent, (after events).answer? (.submit tag session intent) = none →
      ∀ (during : List Event) (index : Nat) (woken : Woken),
        let parked := (after events).step (.submit tag session intent)
        let waiting := parked.run during
        parked.follow (after events).parked.length during = some index →
        (waiting.resume index).1 = some woken →
        woken.tag = tag ∧
        (EndedIn session parked during →
          woken.answer = .error (.connectionClosed session) ∧
            (waiting.resume index).2.lock = waiting.lock) ∧
        (¬ EndedIn session parked during →
          woken.answer = .ok () ∧
            (waiting.lock.holder = none ∨ waiting.lock.holder = some session) ∧
            match intent with
            | .pass => (waiting.resume index).2.lock = waiting.lock
            | .setHeld enable =>
              (waiting.resume index).2.lock.holder = if enable then some session else none) := by
  constructor
  · intro quiet call member
    exact ExclusiveLock.turn_eq_wait.1 ((attentive_after events).waits quiet member)
  intro tag session intent unanswered during index woken parked waiting followed leaves
  obtain ⟨member, same, there⟩ := submit_parks unanswered
  replace member : session ∈ parked.lock.connected := same ▸ member
  have orderly : parked.lock.Orderly := orderly_step (orderly_after events) _
  -- The call is still the same, and its session is connected unless it was ended meanwhile.
  have connected : session ∈ waiting.lock.connected ↔ ¬ EndedIn session parked during := by
    show session ∈ (parked.run during).lock.connected ↔ _
    rw [mem_connected_run orderly, and_iff_right (.inl member)]
  have stays : waiting.parkedAt? index = some (tag, session, intent) := parkedAt?_run there followed
  obtain ⟨named, refused, granted⟩ := resume_answer stays leaves
  refine ⟨named, ?_, ?_⟩
  · intro ended
    exact refused fun member => connected.1 member ended
  · intro kept
    obtain ⟨answered, free, effect⟩ := granted (connected.2 kept)
    refine ⟨answered, free, ?_⟩
    cases intent with
    | pass => exact effect
    | setHeld enable =>
      show (waiting.resume index).2.lock.holder = _
      rw [effect]
      exact ExclusiveLock.holder_setHeld free enable

/-- Two sessions, and the first one takes the lock. -/
def lockedOut : List Event :=
  [.accept ⟨1⟩, .accept ⟨2⟩, .submit "lock" ⟨1⟩ (.setHeld true)]

/-- The second session wants the lock and has to wait; it is ended and admitted again, and the first
one gives the lock up in between.  The call that waits goes on and takes the lock. -/
theorem waiters_served_handover :
    let waits : Event := .submit "wait" ⟨2⟩ (.setHeld true)
    let during : List Event :=
      [.disconnect ⟨2⟩, .submit "unlock" ⟨1⟩ (.setHeld false), .accept ⟨2⟩]
    let parked := (after lockedOut).step waits
    let waiting := parked.run during
    (∀ call ∈ parked.parked, call.session ∈ parked.lock.connected ∧
      ∃ holder, parked.lock.holder = some holder ∧ holder ≠ call.session) ∧
    parked.parked.map (·.tag) = ["wait"] ∧
    ∃ woken, (waiting.resume 0).1 = some woken ∧ woken.tag = "wait" ∧ woken.answer = .ok () ∧
      (waiting.resume 0).2.lock.holder = some ⟨2⟩ := by
  intro waits during parked waiting
  obtain ⟨stuck, -⟩ := waiters_served (lockedOut ++ [waits])
  obtain ⟨-, served⟩ := waiters_served lockedOut
  obtain ⟨named, -, goes⟩ := served "wait" ⟨2⟩ (.setHeld true) rfl during 0 _ rfl rfl
  have kept : ¬EndedIn ⟨2⟩ parked during := by
    rintro (⟨-, never⟩ | ⟨⟨⟩, -⟩ | ⟨⟨⟩, -⟩ | none)
    · exact never (Or.inr (Or.inl ⟨rfl, rfl⟩))
    · exact none
  obtain ⟨answered, -, taken⟩ := goes kept
  exact ⟨stuck rfl, rfl, _, rfl, named, answered, taken⟩

end LockQueue

end DurableStore
