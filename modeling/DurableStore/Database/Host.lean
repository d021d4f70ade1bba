import DurableStore.Database.Engine

/-!
Several open databases over one disk.

`Host.step` takes a task one step on at the database that its innermost frame belongs to: the step
moves the task, answers its call, or finds that it has to wait, and then nothing has changed.
Nothing but the disk is shared by the databases, so a step at one leaves every other as it is
(`engine?_put_of_ne`).  `run` takes a task as far as it can go; every step that moves a task lowers
its weight (`step_moved_weight`), so it gets somewhere.
-/

namespace DurableStore

/-- An open database and the state of its tables. -/
structure Site (τ : Type) where
  database : Database
  tables : τ

/-- The open databases and the disk below them. -/
structure Host (τ : Type) where
  disk : FileSystem
  sites : Array (Site τ) := #[]

/-- What becomes of a task in one step. -/
inductive Progress (τ : Type) where
  | moved (host : Host τ) (task : Task τ)
  | answered (host : Host τ) (answer : Answer τ)
  | waiting (task : Task τ)

/-- Where a task stands when it can go no further for now. -/
inductive Outcome (τ : Type) where
  /-- Its call is answered. -/
  | answered (answer : Answer τ)
  /-- It waits for others. -/
  | waiting (task : Task τ)

namespace Host

variable {τ : Type}

/-! ## One database among several -/

/-- A database together with the disk. -/
def engine? (host : Host τ) (site : SiteId) : Option (Engine τ) :=
  host.sites[site]?.map fun there => ⟨there.database, host.disk, there.tables⟩

/-- With a database, and the disk, in another state. -/
def put (host : Host τ) (site : SiteId) (engine : Engine τ) : Host τ :=
  { disk := engine.disk
    sites := host.sites.setIfInBounds site ⟨engine.database, engine.tables⟩ }

/-- With one more open database. -/
def add (host : Host τ) (database : Database) (tables : τ) : SiteId × Host τ :=
  (host.sites.size, { host with sites := host.sites.push ⟨database, tables⟩ })

theorem engine?_put {host : Host τ} {site : SiteId} (h : site < host.sites.size)
    (engine : Engine τ) : (host.put site engine).engine? site = some engine := by
  simp [engine?, put, h]

theorem engine?_put_of_ne {host : Host τ} {site other : SiteId} (h : other ≠ site)
    (engine : Engine τ) :
    (host.put site engine).engine? other =
      (host.engine? other).map fun there => { there with disk := engine.disk } := by
  simp [engine?, put, h.symm, Function.comp_def]

/-! ## Steps -/

/-- Hands an answer to the frame that waits for it. -/
def deliver (host : Host τ) (answer : Answer τ) : (below : List (Activation τ)) → Progress τ
  | [] => .answered host answer
  | caller :: below => .moved host ⟨{ caller with frame := caller.frame.receive answer }, below⟩

/-- Takes a task one step on.  A database that is not there takes no calls. -/
def step (host : Host τ) (task : Task τ) : Progress τ :=
  let site := task.top.site
  match host.engine? site with
  | none => host.deliver (.done (.error .databaseClosed)) task.below
  | some engine =>
    match engine.advance task.top.frame with
    | .become engine frame => .moved (host.put site engine) { task with top := ⟨site, frame⟩ }
    | .call engine frame callee =>
      .moved (host.put site engine) ⟨⟨site, .entering callee⟩, ⟨site, frame⟩ :: task.below⟩
    | .redirect other call => .moved host { task with top := ⟨other, .entering call⟩ }
    | .wait frame => .waiting { task with top := ⟨site, frame⟩ }
    | .answer engine answer => (host.put site engine).deliver answer task.below

theorem deliver_moved_weight {host host' : Host τ} {answer : Answer τ}
    {below : List (Activation τ)} {task : Task τ}
    (h : host.deliver answer below = .moved host' task) :
    task.weight = Activation.weights below := by
  cases below with
  | nil => cases h
  | cons caller below =>
    cases h
    simp only [Task.weight, Activation.weights, Frame.weight_receive]

theorem step_moved_weight {host host' : Host τ} {task task' : Task τ}
    (h : host.step task = .moved host' task') : task'.weight < task.weight := by
  have positive := Frame.weight_pos task.top.frame
  unfold step at h
  simp only at h
  split at h
  next =>
    have := deliver_moved_weight h
    simp only [Task.weight] at *
    omega
  next =>
    split at h
    next become =>
      cases h
      have := Engine.advance_become_weight become
      simp only [Task.weight]
      omega
    next call =>
      cases h
      have := Engine.advance_call_weight call
      simp only [Task.weight, Activation.weights, Frame.weight_entering]
      omega
    next redirect =>
      cases h
      have := Engine.advance_redirect_weight redirect
      simp only [Task.weight, Frame.weight_entering]
      omega
    next => cases h
    next =>
      have := deliver_moved_weight h
      simp only [Task.weight] at *
      omega

/-- Takes a task as far as it can go. -/
def run (host : Host τ) (task : Task τ) : Outcome τ × Host τ :=
  match h : host.step task with
  | .moved host task' =>
    have := step_moved_weight h
    host.run task'
  | .answered host answer => (.answered answer, host)
  | .waiting task => (.waiting task, host)
  termination_by task.weight

/-! ## A task that waits stays as it is -/

/-- Whether a task may get further than it is. -/
def isReady (host : Host τ) (task : Task τ) : Bool :=
  match host.engine? task.top.site with
  | none => true
  | some engine => engine.mayAdvance task.top.frame

theorem deliver_ne_waiting {host : Host τ} {answer : Answer τ} {below : List (Activation τ)}
    {task : Task τ} : host.deliver answer below ≠ .waiting task := by
  cases below <;> simp [deliver]

theorem step_waiting {host : Host τ} {task task' : Task τ}
    (h : host.step task = .waiting task') :
    task'.weight = task.weight ∧ host.isReady task' = false := by
  unfold step at h
  simp only at h
  split at h
  next => exact absurd h deliver_ne_waiting
  next there =>
    split at h
    next => cases h
    next => cases h
    next => cases h
    next wait =>
      cases h
      obtain ⟨same, quiet⟩ := Engine.advance_wait wait
      exact ⟨by simp only [Task.weight, same], by simp only [isReady, there, quiet]⟩
    next => exact absurd h deliver_ne_waiting

theorem run_waiting {host host' : Host τ} {task task' : Task τ}
    (h : host.run task = (.waiting task', host')) :
    task'.weight < task.weight ∨
      task'.weight = task.weight ∧ host' = host ∧ host.isReady task' = false := by
  unfold run at h
  split at h
  next moved =>
    left
    have lower := step_moved_weight moved
    rcases run_waiting h with lower' | ⟨same, -⟩ <;> omega
  next => cases h
  next waiting =>
    cases h
    obtain ⟨same, quiet⟩ := step_waiting waiting
    exact .inr ⟨same, rfl, quiet⟩
  termination_by task.weight

end Host

end DurableStore
