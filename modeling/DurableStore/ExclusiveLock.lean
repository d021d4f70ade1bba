import DurableStore.Fault

/-!
Exclusive mode: one session may lock every other session out.

While a session holds the lock, new connections are refused at once, and calls of the sessions
that are connected already wait for their turn.  Every transition that may let a waiting call go
on raises `signals`, the number of wake-up calls sent so far; a call that looked at the lock when
the number was lower has to look again.
-/

namespace DurableStore

/-- Who is connected to a database and who, if anyone, holds it exclusively. -/
structure ExclusiveLock where
  /-- The session that locks all others out. -/
  holder : Option SessionId := none
  /-- The sessions admitted and not yet disconnected. -/
  connected : List SessionId := []
  /-- No session is admitted any more. -/
  isShutdown : Bool := false
  /-- How often the waiting calls were told to look again. -/
  signals : Nat := 0
  deriving DecidableEq, Inhabited, Repr

/-- What a call finds when it looks whether it may go on. -/
inductive Turn where
  /-- It may go on. -/
  | granted
  /-- Another session holds the lock. -/
  | wait
  /-- Its session is not connected. -/
  | refused
  deriving DecidableEq, Repr

namespace ExclusiveLock

/-- Whether a session holds the lock. -/
def isHeldBy (lock : ExclusiveLock) (session : SessionId) : Bool :=
  lock.holder == some session

/-- Admits a new session, unless another one holds the lock or the lock is shut down. -/
def accept (lock : ExclusiveLock) (session : SessionId) : Except Fault Unit × ExclusiveLock :=
  if lock.isShutdown then (.error .databaseClosed, lock)
  else
    let admitted := { lock with connected := lock.connected.insert session }
    match lock.holder with
    | some holder =>
      if holder = session then (.ok (), admitted) else (.error (.exclusiveModeActive holder), lock)
    | none => (.ok (), admitted)

/-- Whether a call of a session may go on. -/
def turn (lock : ExclusiveLock) (session : SessionId) : Turn :=
  if session ∈ lock.connected then
    match lock.holder with
    | some holder => if holder = session then .granted else .wait
    | none => .granted
  else .refused

/-- The same state, and all waiting calls are told to look again. -/
def signal (lock : ExclusiveLock) : ExclusiveLock :=
  { lock with signals := lock.signals + 1 }

/-- Takes the lock for a session whose turn it is, or gives it up if the session holds it. -/
def setHeld (lock : ExclusiveLock) (session : SessionId) (enable : Bool) : ExclusiveLock :=
  if enable then
    match lock.holder with
    | none => { lock with holder := some session }
    | some _ => lock
  else if lock.isHeldBy session then { lock with holder := none }.signal
  else lock

/-- Ends a session: it gives up the lock and the turns it waits for. -/
def disconnect (lock : ExclusiveLock) (session : SessionId) : ExclusiveLock :=
  let left : ExclusiveLock :=
    { lock with
      connected := lock.connected.erase session
      holder := if lock.isHeldBy session then none else lock.holder }
  if session ∈ lock.connected ∨ lock.isHeldBy session then left.signal else left

/-- Ends every session and admits no more. -/
def shutdown (lock : ExclusiveLock) : ExclusiveLock :=
  { lock with holder := none, connected := [], isShutdown := true }.signal

/-- What a call wants once it is its turn. -/
inductive Intent where
  /-- To go on. -/
  | pass
  /-- To take the lock, or to give it up. -/
  | setHeld (enable : Bool)
  deriving DecidableEq, Inhabited, Repr

/-- One look of a call at the lock: its answer and the lock afterwards, or `none` if it waits. -/
def attempt (lock : ExclusiveLock) (session : SessionId) (intent : Intent) :
    Option (Except Fault Unit × ExclusiveLock) :=
  match lock.turn session with
  | .refused => some (.error (.connectionClosed session), lock)
  | .wait => none
  | .granted =>
    match intent with
    | .pass => some (.ok (), lock)
    | .setHeld enable => some (.ok (), lock.setHeld session enable)

end ExclusiveLock

end DurableStore
