import DurableStore.Database

/-!
Calls made of an open database, and how far a call under way has got.

`τ` is the state of the tables, which the library does not look into: a query's rows are a
function of it, and an update replaces it.  While the body of a query or an update runs it may
itself make calls, one after another (`during`), to any depth, also of other databases that are
open (`elsewhere`).

A call under way is a stack of frames, the innermost first.  `Task.weight` counts the steps a
task can still take.
-/

namespace DurableStore

/-- Which of the open databases. -/
abbrev SiteId := Nat

/-- A call made of an open database. -/
inductive Call (τ : Type) where
  /-- Connects a new session. -/
  | connect
  /-- Ends the session with an id, from outside. -/
  | disconnect (session : SessionId)
  /-- Ends a session on behalf of its owner. -/
  | endSession (session : SessionId)
  /-- Closes the database. -/
  | close
  /-- Drops every entry of the cache. -/
  | clearCache
  /-- Takes exclusive use, or gives it up. -/
  | setExclusive (session : SessionId) (enable : Bool)
  /-- Sets an option by its name. -/
  | set (session : SessionId) (name value : String)
  /-- Runs a query; when its body runs it makes the calls `during`, then yields `rows`. -/
  | query (session : SessionId) (statement : Statement) (during : List (Call τ))
      (rows : τ → Except Fault Rows)
  /-- Commits a record; then the body makes the calls `during` and changes the tables. -/
  | update (session : SessionId) (record : Bytes) (during : List (Call τ)) (apply : τ → τ)
  /-- Makes a call of another database. -/
  | elsewhere (site : SiteId) (call : Call τ)

/-- The answer to a call. -/
inductive Answer (τ : Type) where
  /-- It was done, or why not. -/
  | done (result : Except Fault Unit)
  /-- The id of the new session. -/
  | connected (result : Except Fault SessionId)
  /-- The rows, whether the body ran, and the answers to the calls it made. -/
  | queried (rows : Except Fault Rows) (executed : Bool) (during : List (Answer τ))
  /-- The tables after the update, whether the body ran, and the answers to the calls it made. -/
  | updated (result : Except Fault τ) (applied : Bool) (during : List (Answer τ))

/-- What a call goes on with when it is its session's turn. -/
inductive Errand (τ : Type) where
  /-- To take the lock, or to give it up. -/
  | setHeld (enable : Bool)
  /-- To switch reuse of results. -/
  | setReuse (enable : Bool)
  /-- To run a query. -/
  | query (statement : Statement) (during : List (Call τ)) (rows : τ → Except Fault Rows)
  /-- To run an update. -/
  | update (record : Bytes) (during : List (Call τ)) (apply : τ → τ)

/-- How far one call has got. -/
inductive Frame (τ : Type) where
  /-- Nothing was done yet. -/
  | entering (call : Call τ)
  /-- It waits for its session's turn; `seen` is how many signals had been sent at its last look
  at the lock, if it looked. -/
  | queued (session : SessionId) (errand : Errand τ) (seen : Option Nat)
  /-- It was its session's turn, and the body has not begun. -/
  | admitted (errand : Errand τ)
  /-- Writes were permitted, and the commit has not begun. -/
  | recording (record : Bytes) (during : List (Call τ)) (apply : τ → τ)
  /-- The commit has begun: writes were permitted once more, and the record is not in the journal
  yet. -/
  | writing (record : Bytes) (during : List (Call τ)) (apply : τ → τ)
  /-- The body of a query runs and has some calls left to make. -/
  | scanning (key : Fingerprint) (found : ReuseCache.Lookup) (pending : List (Call τ))
      (rows : τ → Except Fault Rows) (answers : List (Answer τ))
  /-- The body of an update runs and has some calls left to make. -/
  | applying (pending : List (Call τ)) (apply : τ → τ) (answers : List (Answer τ))
  /-- The tables were changed to `result`, and the generation has not moved yet. -/
  | applied (result : τ) (answers : List (Answer τ))

/-- A frame and the database whose call it is. -/
structure Activation (τ : Type) where
  site : SiteId
  frame : Frame τ

/-- A call under way: the innermost frame and those it was called from. -/
structure Task (τ : Type) where
  top : Activation τ
  below : List (Activation τ) := []

variable {τ : Type}

/-- The answer to a call that fails before its body runs. -/
def Errand.refuse (errand : Errand τ) (fault : Fault) : Answer τ :=
  match errand with
  | .setHeld _ | .setReuse _ => .done (.error fault)
  | .query .. => .queried (.error fault) false []
  | .update .. => .updated (.error fault) false []

mutual

/-- A bound on the steps that a call takes. -/
def Call.weight : Call τ → Nat
  | .query _ _ during _ | .update _ _ during _ => 8 + Call.weights during
  | .connect | .disconnect _ | .endSession _ | .close | .clearCache => 8
  | .setExclusive .. | .set .. => 8
  | .elsewhere _ call => 1 + Call.weight call

/-- A bound on the steps that calls take one after another. -/
def Call.weights : List (Call τ) → Nat
  | [] => 0
  | call :: rest => Call.weight call + 1 + Call.weights rest

end

/-- A bound on the steps of an errand's body. -/
def Errand.weight : Errand τ → Nat
  | .setHeld _ | .setReuse _ => 0
  | .query _ during _ | .update _ during _ => Call.weights during

/-- A bound on the steps that a frame takes. -/
def Frame.weight : Frame τ → Nat
  | .entering call => call.weight
  | .queued _ errand _ => 7 + errand.weight
  | .admitted errand => 6 + errand.weight
  | .recording _ during _ => 5 + Call.weights during
  | .writing _ during _ => 4 + Call.weights during
  | .scanning _ _ pending _ _ | .applying pending _ _ => 3 + Call.weights pending
  | .applied .. => 1

/-- A bound on the steps that a stack of frames takes. -/
def Activation.weights : List (Activation τ) → Nat
  | [] => 0
  | activation :: below => activation.frame.weight + Activation.weights below

/-- A bound on the steps that a task takes. -/
def Task.weight (task : Task τ) : Nat :=
  task.top.frame.weight + Activation.weights task.below

/-- Takes note of the answer to a call that the frame's body made. -/
def Frame.receive (frame : Frame τ) (answer : Answer τ) : Frame τ :=
  match frame with
  | .scanning key found pending rows answers =>
    .scanning key found pending rows (answers ++ [answer])
  | .applying pending apply answers => .applying pending apply (answers ++ [answer])
  | other => other

@[simp] theorem Frame.weight_receive (frame : Frame τ) (answer : Answer τ) :
    (frame.receive answer).weight = frame.weight := by
  cases frame <;> rfl

@[simp] theorem Frame.weight_entering (call : Call τ) :
    (Frame.entering call).weight = call.weight := rfl

theorem Frame.weight_pos (frame : Frame τ) : 0 < frame.weight := by
  cases frame with
  | entering call => cases call <;> simp only [Frame.weight, Call.weight] <;> omega
  | _ => simp only [Frame.weight]; omega

end DurableStore
