import DurableStore.Proofs.Database.Transition
import DurableStore.Proofs.Storage.Unfinished

/-!
Several open databases and all the calls under way.

A `Scene` holds the calls that have been begun and are not answered yet, each a stack of frames,
and counts the steps they take.  Calls are begun at any time, by anybody or from the body of
another statement, and any of them may get a step further next; storages do what they are asked
to, at once or with anything else in between, other databases are opened, and the disk changes for
reasons of its own.  A frame whose session's turn has come keeps the moment at which it came
(`Pass`); apart from these marks a call takes the steps of its task (`Stack.step_erases`).

What a step may do to a database is `Step.affects`, and what holds of every frame under way is kept
by `Step.forall_frames`.
-/

namespace DurableStore

open FileSystem

variable {τ : Type}

/-! ## Frames -/

namespace Frame

/-- Its session's turn has come, so it is a body that begins or runs. -/
def isAdmitted : Frame τ → Bool
  | .entering _ | .queued .. => false
  | .admitted _ | .recording .. | .writing .. | .scanning .. | .applying .. | .applied .. => true

/-- Its commit has begun, and the generation has not moved yet. -/
def isCommit : Frame τ → Bool
  | .writing .. | .applying .. | .applied .. => true
  | _ => false

@[simp] theorem isAdmitted_receive (frame : Frame τ) (answer : Answer τ) :
    (frame.receive answer).isAdmitted = frame.isAdmitted := by
  cases frame <;> rfl

@[simp] theorem isCommit_receive (frame : Frame τ) (answer : Answer τ) :
    (frame.receive answer).isCommit = frame.isCommit := by
  cases frame <;> rfl

end Frame

/-! ## Calls under way -/

/-- Whose turn came, and at which moment. -/
structure Pass where
  session : SessionId
  moment : Nat
  deriving DecidableEq, Repr

/-- A frame of a call under way, and the turn that it was admitted at. -/
structure Marked (τ : Type) extends Activation τ where
  pass? : Option Pass := none

/-- What is left of a frame after a step at some moment; if it waited for its turn, that may have
come. -/
def Marked.goOn (marked : Marked τ) (moment : Nat) (frame : Frame τ) : Marked τ :=
  { site := marked.site
    frame
    pass? :=
      match marked.frame, frame with
      | .queued session _ _, .admitted _ => some ⟨session, moment⟩
      | _, _ => marked.pass? }

namespace Advance

/-- What is left of the frame that took the step. -/
@[simp]
def frame? : Advance τ → Option (Frame τ)
  | .become _ frame | .call _ frame _ | .wait frame => some frame
  | .redirect .. | .answer .. => none

/-- The frame that is left of the one that took the step commits. -/
@[simp]
def isCommit (advance : Advance τ) : Bool :=
  advance.frame?.any Frame.isCommit

end Advance

/-- A call under way, the innermost frame first. -/
abbrev Stack (τ : Type) := List (Marked τ)

namespace Stack

/-- Hands an answer to the frame that waits for it. -/
def deliver (answer : Answer τ) : Stack τ → Stack τ
  | [] => []
  | caller :: below => { caller with frame := caller.frame.receive answer } :: below

/-- Takes a call with the innermost frame `top` one step on. -/
def step (host : Host τ) (moment : Nat) (top : Marked τ) (below : Stack τ) : Host τ × Stack τ :=
  match host.engine? top.site with
  | none => (host, deliver (.done (.error .databaseClosed)) below)
  | some engine =>
    match engine.advance top.frame with
    | .become engine frame => (host.put top.site engine, top.goOn moment frame :: below)
    | .call engine frame callee =>
      (host.put top.site engine,
        { site := top.site, frame := .entering callee } :: top.goOn moment frame :: below)
    | .redirect other call => (host, { site := other, frame := .entering call } :: below)
    | .wait frame => (host, top.goOn moment frame :: below)
    | .answer engine answer => (host.put top.site engine, deliver answer below)

/-- The frames without their marks. -/
def erase (stack : Stack τ) : List (Activation τ) :=
  stack.map Marked.toActivation

/-- **Apart from the marks** a call takes the steps of its task. -/
theorem step_erases (host : Host τ) (moment : Nat) (top : Marked τ) (below : Stack τ) :
    match host.step { top := top.toActivation, below := erase below } with
    | .moved after task =>
      (step host moment top below).1 = after ∧
        erase (step host moment top below).2 = task.top :: task.below
    | .answered after _ => step host moment top below = (after, [])
    | .waiting task =>
      (step host moment top below).1 = host ∧
        erase (step host moment top below).2 = task.top :: task.below := by
  unfold step Host.step
  simp only
  cases host.engine? top.site with
  | none =>
    cases below with
    | nil => rfl
    | cons caller below => exact ⟨rfl, rfl⟩
  | some engine =>
    simp only
    cases engine.advance top.frame with
    | become changed frame => exact ⟨rfl, rfl⟩
    | call changed frame callee => exact ⟨rfl, rfl⟩
    | redirect other call => exact ⟨rfl, rfl⟩
    | wait frame => exact ⟨rfl, rfl⟩
    | answer changed answer =>
      cases below with
      | nil => rfl
      | cons caller below => exact ⟨rfl, rfl⟩

variable {host : Host τ} {moment : Nat} {top : Marked τ} {below : Stack τ}

/-- What a call's step leaves of the databases is what its innermost frame does to its own. -/
theorem host_step {engine : Engine τ} (there : host.engine? top.site = some engine) :
    (step host moment top below).1 =
      match (engine.advance top.frame).engine? with
      | some changed => host.put top.site changed
      | none => host := by
  unfold step
  rw [there]
  simp only
  cases engine.advance top.frame <;> rfl

theorem step_host (host : Host τ) (moment : Nat) (top : Marked τ) (below : Stack τ) :
    (step host moment top below).1 = host ∨
      ∃ engine changed, host.engine? top.site = some engine ∧
        (engine.advance top.frame).engine? = some changed ∧
          (step host moment top below).1 = host.put top.site changed := by
  cases there : host.engine? top.site with
  | none =>
    left
    unfold step
    rw [there]
  | some engine =>
    rw [host_step there]
    cases advances : (engine.advance top.frame).engine? with
    | none => exact .inl rfl
    | some changed => exact .inr ⟨engine, changed, rfl, advances, rfl⟩

/-- What holds of every frame still does after a step, if it does not depend on the answers that a
frame receives, holds of a call that begins, and holds of what is left of the innermost frame. -/
theorem forall_step {motive : Marked τ → Prop} (under : ∀ marked ∈ below, motive marked)
    (receives : ∀ marked answer, motive marked →
      motive { marked with frame := marked.frame.receive answer })
    (enters : ∀ site call, motive { site, frame := .entering call })
    (remains : ∀ engine frame, host.engine? top.site = some engine →
      (engine.advance top.frame).frame? = some frame → motive (top.goOn moment frame)) :
    ∀ marked ∈ (step host moment top below).2, motive marked := by
  have delivered (answer : Answer τ) : ∀ marked ∈ deliver answer below, motive marked := by
    cases below with
    | nil => exact under
    | cons caller below =>
      rw [deliver, List.forall_mem_cons]
      exact ⟨receives caller answer (under caller List.mem_cons_self),
        fun marked member => under marked (List.mem_cons_of_mem _ member)⟩
  unfold step
  cases there : host.engine? top.site with
  | none => exact delivered _
  | some engine =>
    simp only
    cases advances : engine.advance top.frame with
    | become changed frame =>
      have left := remains engine frame there (by rw [advances]; rfl)
      exact List.forall_mem_cons.2 ⟨left, under⟩
    | call changed frame callee =>
      have left := remains engine frame there (by rw [advances]; rfl)
      exact List.forall_mem_cons.2 ⟨enters top.site callee, List.forall_mem_cons.2 ⟨left, under⟩⟩
    | redirect other call => exact List.forall_mem_cons.2 ⟨enters other call, under⟩
    | wait frame =>
      have left := remains engine frame there (by rw [advances]; rfl)
      exact List.forall_mem_cons.2 ⟨left, under⟩
    | answer changed answer => exact delivered answer

end Stack

/-! ## Scenes -/

/-- What is left of an operation of a storage, and the database that the storage is of. -/
structure Interrupted where
  site : SiteId
  rest : Unfinished

/-- What is left of an operation of a storage goes one step on. -/
def Host.proceed (host : Host τ) (interrupted : Interrupted) : Option Interrupted × Host τ :=
  match host.engine? interrupted.site with
  | none => (none, host)
  | some engine =>
    let (next, storage, disk) := engine.database.storage.proceed engine.disk interrupted.rest
    (next.map (⟨interrupted.site, ·⟩),
      host.put interrupted.site
        { engine with database := { engine.database with storage }, disk })

theorem Host.proceed_of_engine? {host : Host τ} {interrupted : Interrupted} {engine : Engine τ}
    (there : host.engine? interrupted.site = some engine) :
    host.proceed interrupted =
      ((engine.database.storage.proceed engine.disk interrupted.rest).1.map
          (⟨interrupted.site, ·⟩),
        host.put interrupted.site
          { engine with
            database := { engine.database with
              storage := (engine.database.storage.proceed engine.disk interrupted.rest).2.1 }
            disk := (engine.database.storage.proceed engine.disk interrupted.rest).2.2 }) := by
  unfold proceed
  rw [there]

/-- The open databases, all the calls under way, and the operations that are interrupted. -/
structure Scene (τ : Type) where
  host : Host τ
  /-- The calls under way; one that was answered has no frames left. -/
  tasks : List (Stack τ) := []
  /-- How many steps calls have taken. -/
  clock : Nat := 0
  /-- The operations of storages that were permitted and are not done yet.  Nothing keeps them
  apart, so more of them may meet here than a lock around each kind would let meet. -/
  interrupted : List Interrupted := []

namespace Scene

/-- The frames of all calls. -/
def frames (scene : Scene τ) : List (Marked τ) :=
  scene.tasks.flatten

/-- What can happen next, and the frame that takes a step if one does. -/
inductive Step (scene : Scene τ) : Option (Activation τ) → Scene τ → Prop where
  /-- A call is begun. -/
  | begun (site : SiteId) (call : Call τ) :
    Step scene none
      { scene with tasks := [{ site, frame := .entering call }] :: scene.tasks }
  /-- A call gets one step further, or looks and has to wait. -/
  | moved {front back : List (Stack τ)} {top : Marked τ} {below : Stack τ}
      (among : scene.tasks = front ++ (top :: below) :: back) :
      Step scene (some top.toActivation)
        { scene with
          host := (Stack.step scene.host scene.clock top below).1
          tasks := front ++ (Stack.step scene.host scene.clock top below).2 :: back
          clock := scene.clock + 1 }
  /-- A storage does something at once. -/
  | operated (site : SiteId) (operation : Operation) :
    Step scene none { scene with host := scene.host.operate site operation }
  /-- An operation of a storage is permitted, and does not act yet. -/
  | interrupted {site : SiteId} {engine : Engine τ} {operation : Operation}
      (there : scene.host.engine? site = some engine) (asks : operation.asksFirst = true)
      (permitted : engine.database.storage.permission operation = .ok ()) :
      Step scene none
        { scene with interrupted := ⟨site, .permitted operation⟩ :: scene.interrupted }
  /-- An operation that was interrupted goes one step on. -/
  | proceeded {front back : List Interrupted} {interrupted : Interrupted}
      (among : scene.interrupted = front ++ interrupted :: back) :
      Step scene none
        { scene with
          host := (scene.host.proceed interrupted).2
          interrupted := front ++ (scene.host.proceed interrupted).1.toList ++ back }
  /-- Another database is opened. -/
  | opened {path : Path} {config : Config} {owner : String} {database : Database}
      {disk : FileSystem}
      (opens : Database.openAt scene.host.disk path config owner = (.ok database, disk))
      (tables : τ) :
      Step scene none
        { scene with host := (({ scene.host with disk } : Host τ).add database tables).2 }
  /-- The disk changes for other reasons. -/
  | disturbed (disk : FileSystem) : Step scene none { scene with host := { scene.host with disk } }

/-- Whatever comes after, as long as no frame of which `ends` holds takes a step. -/
abbrev LaterWithout (ends : Activation τ → Prop) : Scene τ → Scene τ → Prop :=
  Relation.ReflTransGen fun scene next =>
    ∃ acted, scene.Step acted next ∧ ∀ activation ∈ acted, ¬ends activation

/-- Whatever comes after. -/
abbrev Later : Scene τ → Scene τ → Prop :=
  LaterWithout fun _ => False

/-- The scene comes after one in which nothing was open. -/
def Reachable (scene : Scene τ) : Prop :=
  ∃ disk, Later { host := { disk } } scene

variable {scene next : Scene τ}

theorem Reachable.step (h : scene.Reachable) {acted : Option (Activation τ)}
    (step : scene.Step acted next) : next.Reachable := by
  obtain ⟨disk, later⟩ := h
  exact ⟨disk, later.tail ⟨acted, step, fun _ _ => not_false⟩⟩

/-! ## What a step keeps -/

/-- What holds of every frame still does whatever happens, if it does not depend on the answers that
a frame receives, holds of a call that begins, and goes over to what is left of a frame that takes
a step. -/
theorem Step.forall_frames {acted : Option (Activation τ)} {motive : Marked τ → Prop}
    (step : scene.Step acted next) (all : ∀ marked ∈ scene.frames, motive marked)
    (receives : ∀ marked answer, motive marked →
      motive { marked with frame := marked.frame.receive answer })
    (enters : ∀ site call, motive { site, frame := .entering call })
    (remains : ∀ (top : Marked τ) engine frame, acted = some top.toActivation →
      scene.host.engine? top.site = some engine →
        (engine.advance top.frame).frame? = some frame → motive top →
          motive (top.goOn scene.clock frame)) :
    ∀ marked ∈ next.frames, motive marked := by
  cases step with
  | begun site call => exact List.forall_mem_cons.2 ⟨enters site call, all⟩
  | operated | interrupted | proceeded | opened | disturbed => exact all
  | @moved front back top below among =>
    unfold frames at all ⊢
    rw [among] at all
    simp only [List.flatten_append, List.flatten_cons, List.forall_mem_append,
      List.forall_mem_cons] at all ⊢
    obtain ⟨first, ⟨innermost, under⟩, last⟩ := all
    refine ⟨first, Stack.forall_step under receives enters ?_, last⟩
    exact fun engine frame there left => remains top engine frame rfl there left innermost

/-- Only frames of calls under way take steps. -/
theorem Step.mem_frames {activation : Activation τ} {acted : Option (Activation τ)}
    (step : scene.Step acted next) (moves : acted = some activation) :
    ∃ marked ∈ scene.frames, marked.toActivation = activation := by
  cases step with
  | @moved front back top below among =>
    refine ⟨top, ?_, Option.some.inj moves⟩
    unfold frames
    rw [among]
    simp
  | begun | operated | interrupted | proceeded | opened | disturbed => cases moves

/-- What has become of a database after something has happened. -/
inductive Affects (scene : Scene τ) (acted : Option (Activation τ)) (next : Scene τ)
    (site : SiteId) : Prop where
  /-- It is as it was, and so are its tables. -/
  | same (sites : next.host.sites[site]? = scene.host.sites[site]?)
  /-- It was just opened. -/
  | opened {path : Path} {config : Config} {owner : String} {disk after : FileSystem}
      {database : Database}
      (opens : Database.openAt disk path config owner = (.ok database, after)) (tables : τ)
      (vacant : scene.host.engine? site = none)
      (sites : next.host.sites[site]? = some ⟨database, tables⟩)
  /-- Its storage has done something. -/
  | operated {engine : Engine τ} {storage : Storage}
      (there : scene.host.engine? site = some engine)
      (endures : engine.database.storage.Endures storage)
      (sites : next.host.sites[site]? = some
        ⟨{ engine.database with storage }, engine.tables⟩)
  /-- One of its frames has taken a step. -/
  | stepped {engine changed : Engine τ} {frame : Frame τ}
      (there : scene.host.engine? site = some engine) (by_frame : acted = some ⟨site, frame⟩)
      (advances : (engine.advance frame).engine? = some changed)
      (sites : next.host.sites[site]? = some ⟨changed.database, changed.tables⟩)

theorem sites_put_of_ne {host : Host τ} {site other : SiteId} (differs : other ≠ site)
    (engine : Engine τ) : (host.put site engine).sites[other]? = host.sites[other]? := by
  unfold Host.put
  rw [Array.getElem?_setIfInBounds_ne differs.symm]

theorem sites_put {host : Host τ} {site : SiteId} {engine : Engine τ}
    (there : host.engine? site = some engine) (changed : Engine τ) :
    (host.put site changed).sites[site]? = some ⟨changed.database, changed.tables⟩ := by
  obtain ⟨found, -⟩ := Host.engine?_eq_some there
  obtain ⟨bound, -⟩ := Array.getElem?_eq_some_iff.1 found
  unfold Host.put
  rw [Array.getElem?_setIfInBounds_self_of_lt bound]

/-- **Whatever happens** does one of a few things to a database. -/
theorem Step.affects {acted : Option (Activation τ)} (step : scene.Step acted next)
    (site : SiteId) : scene.Affects acted next site := by
  cases step with
  | begun | interrupted | disturbed => exact .same rfl
  | opened opens tables =>
    by_cases last : site = scene.host.sites.size
    · subst last
      refine .opened opens tables ?_ ?_
      · simp [Host.engine?]
      · simp [Host.add]
    · refine .same ?_
      show (scene.host.sites.push _)[site]? = _
      rw [Array.getElem?_push, if_neg last]
  | operated other operation =>
    unfold Host.operate
    cases there : scene.host.engine? other with
    | none => exact .same rfl
    | some engine =>
      by_cases here : site = other
      · subst here
        exact .operated there (Storage.endures_perform _ _ operation) (sites_put there _)
      · exact .same (sites_put_of_ne here _)
  | @proceeded front back interrupted among =>
    cases there : scene.host.engine? interrupted.site with
    | none =>
      refine .same ?_
      unfold Host.proceed
      rw [there]
    | some engine =>
      rw [Host.proceed_of_engine? there]
      by_cases here : site = interrupted.site
      · subst here
        exact .operated there (Storage.endures_proceed _ _ interrupted.rest) (sites_put there _)
      · exact .same (sites_put_of_ne here _)
  | @moved front back top below among =>
    rcases Stack.step_host scene.host scene.clock top below with
      same | ⟨engine, changed, there, advances, left⟩
    · exact .same (by rw [same])
    · by_cases here : site = top.site
      · subst here
        exact .stepped there rfl advances (by rw [left]; exact sites_put there changed)
      · exact .same (by rw [left]; exact sites_put_of_ne here changed)

/-- A step of a frame changes nothing but what it does to its own database. -/
theorem Step.host_of_moved {frame : Frame τ} {site : SiteId} {engine : Engine τ}
    {acted : Option (Activation τ)} (step : scene.Step acted next)
    (moves : acted = some ⟨site, frame⟩) (there : scene.host.engine? site = some engine) :
    next.host =
      match (engine.advance frame).engine? with
      | some changed => scene.host.put site changed
      | none => scene.host := by
  cases step with
  | @moved front back top below among =>
    obtain rfl : top.site = site := congrArg Activation.site (Option.some.inj moves)
    obtain rfl : top.frame = frame := congrArg Activation.frame (Option.some.inj moves)
    exact Stack.host_step there
  | begun | operated | interrupted | proceeded | opened | disturbed => cases moves

end Scene

end DurableStore
