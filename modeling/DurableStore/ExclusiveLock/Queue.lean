import DurableStore.ExclusiveLock

/-!
Calls that wait for the lock.

A call that has to wait is parked with the number of signals sent so far, and it looks at the
lock again only after another signal.  `settle` lets notified calls look until none is left to
look; it ends because each look either answers a call or uses up its notification.
-/

namespace DurableStore

/-- A call that waits for its turn. -/
structure ParkedCall where
  /-- What the caller names the call. -/
  tag : String
  /-- The session that made the call. -/
  session : SessionId
  /-- What the call wants. -/
  intent : ExclusiveLock.Intent
  /-- How many signals had been sent when the call last looked at the lock. -/
  seen : Nat
  deriving DecidableEq, Inhabited, Repr

/-- A lock and the calls that wait for it, first come first. -/
structure LockQueue where
  lock : ExclusiveLock := {}
  parked : List ParkedCall := []
  deriving DecidableEq, Inhabited, Repr

namespace LockQueue

/-- The answer to a call that was parked. -/
structure Woken where
  tag : String
  answer : Except Fault Unit

/-- Whether a call has been told to look again. -/
def isNotified (lock : ExclusiveLock) (call : ParkedCall) : Bool :=
  call.seen < lock.signals

/-- Makes a call; without an answer it is parked. -/
def submit (queue : LockQueue) (tag : String) (session : SessionId)
    (intent : ExclusiveLock.Intent) : Option (Except Fault Unit) × LockQueue :=
  match queue.lock.attempt session intent with
  | some (answer, lock) => (some answer, { queue with lock })
  | none =>
    (none, { queue with parked := queue.parked ++ [⟨tag, session, intent, queue.lock.signals⟩] })

/-- Lets the parked call at `index` look at the lock again. -/
def resume (queue : LockQueue) (index : Nat) : Option Woken × LockQueue :=
  match queue.parked[index]? with
  | none => (none, queue)
  | some call =>
    match queue.lock.attempt call.session call.intent with
    | some (answer, lock) => (some ⟨call.tag, answer⟩, ⟨lock, queue.parked.eraseIdx index⟩)
    | none =>
      (none, { queue with
        parked := queue.parked.set index { call with seen := queue.lock.signals } })

/-- How many parked calls have been told to look again. -/
def notified (queue : LockQueue) : Nat :=
  queue.parked.countP (isNotified queue.lock)

/-- Which parked call looks next: the first that has been told to. -/
def nextNotified? (queue : LockQueue) : Option Nat :=
  queue.parked.findIdx? (isNotified queue.lock)

theorem resume_decreases {queue : LockQueue} {index : Nat}
    (h : queue.nextNotified? = some index) :
    (queue.resume index).2.parked.length < queue.parked.length ∨
      (queue.resume index).2.parked.length = queue.parked.length ∧
        (queue.resume index).2.notified < queue.notified := by
  obtain ⟨bound, told, -⟩ := List.findIdx?_eq_some_iff_getElem.1 h
  have at_index : queue.parked[index]? = some queue.parked[index] := List.getElem?_eq_getElem bound
  simp only [resume, at_index]
  split
  · left
    simp only [List.length_eraseIdx]
    split <;> omega
  · right
    refine ⟨List.length_set, ?_⟩
    simp only [notified]
    rw [List.countP_set bound]
    have : 0 < queue.parked.countP (isNotified queue.lock) :=
      List.countP_pos_iff.2 ⟨_, List.getElem_mem bound, told⟩
    have used : isNotified queue.lock { queue.parked[index] with seen := queue.lock.signals }
        = false := by simp [isNotified]
    simp only [told, used, Bool.false_eq_true, if_true, if_false]
    omega

/-- Lets the calls that have been told to look again do so, until all have looked. -/
def settle (queue : LockQueue) : List Woken × LockQueue :=
  match h : queue.nextNotified? with
  | none => ([], queue)
  | some index =>
    have := resume_decreases h
    let (woken, settled) := (queue.resume index).2.settle
    ((queue.resume index).1.toList ++ woken, settled)
  termination_by (queue.parked.length, queue.notified)
  decreasing_by
    rcases this with shorter | ⟨same, fewer⟩
    · exact Prod.Lex.left _ _ shorter
    · rw [same]
      exact Prod.Lex.right _ fewer

end LockQueue

end DurableStore
