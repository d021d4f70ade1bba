import DurableStore.Proofs.Database.Scene

/-!
What reachable scenes have in common.

Every frame that was admitted has the mark of its turn, which came earlier; a database knows
whether one of the calls under way commits, and there is no second one; and a storage hands out
nothing but scratch files (`Scene.Sound`, `Scene.Reachable.sound`).
-/

namespace DurableStore

open FileSystem

variable {τ : Type}

/-! ## Commits under way -/

namespace Engine

variable {engine : Engine τ} {frame : Frame τ}

theorem committing_close (database : Database) (disk : FileSystem) :
    (database.close disk).1.committing = database.committing := by
  unfold Database.close
  split
  next => rfl
  next => rfl

theorem committing_writeRecord {database after : Database} {record : Bytes}
    {disk left : FileSystem} {result : Except Fault Unit}
    (writes : database.writeRecord record disk = (result, after, left)) :
    after.committing = (result.isOk && database.committing) := by
  unfold Database.writeRecord at writes
  simp only at writes
  split at writes
  next => cases writes; rfl
  next => cases writes; rfl

/-- A frame begins to commit exactly when the database takes note of a commit, and is done exactly
when that is over. -/
theorem advance_commits (busy : frame.isCommit = true → engine.database.committing = true) :
    (engine.advance frame).isCommit.toNat + engine.database.committing.toNat =
      frame.isCommit.toNat +
        (((engine.advance frame).engine?.getD engine).database.committing).toNat := by
  have transition := transition_advance engine frame
  generalize engine.advance frame = advance at transition
  cases transition with
  | connects =>
    obtain ⟨lock, nextSession, connected⟩ := connect_snd engine.database
    simp [Advance.engine?, Frame.isCommit, connected]
  | ends session =>
    obtain ⟨lock, ended, same⟩ := endSession_eq engine.database session
    simp [Advance.engine?, Frame.isCommit, same]
  | closes => simp [Advance.engine?, Frame.isCommit, committing_close]
  | begins record during apply alone permitted =>
    simp [Advance.engine?, Frame.isCommit, alone]
  | fails during apply writes =>
    have same := committing_writeRecord writes
    simp [Advance.engine?, Frame.isCommit, same, busy rfl, Except.isOk, Except.toBool]
  | records during apply writes =>
    have same := committing_writeRecord writes
    simp [Advance.engine?, Frame.isCommit, same, Except.isOk, Except.toBool]
  | commits result answers =>
    simp [Advance.engine?, Frame.isCommit, Database.finishCommit, busy rfl]
  | _ =>
    simp [Advance.engine?, Frame.isCommit, Database.disconnect,
      Database.clearCache, Database.setReuse]

/-- A step of a frame leaves the storage the same handle. -/
theorem endures_advance {changed : Engine τ}
    (advances : (engine.advance frame).engine? = some changed) :
    engine.database.storage.Endures changed.database.storage := by
  cases leaves_advance advances with
  | same storage => exact .of_same (by rw [storage]) (by rw [storage]) (by rw [storage])
  | closed database =>
    rw [database]
    rcases engine.database.close_cases engine.disk with same | ⟨lock, cache, closes⟩
    · rw [same]
      exact .of_same rfl rfl rfl
    · rw [closes]
      exact Storage.endures_perform _ _ .close
  | appended bytes storage =>
    exact .of_same (by rw [storage]) (by rw [storage]) (by rw [storage])

end Engine

/-- The frame is that of a commit at a database. -/
def Marked.commitsAt (site : SiteId) (marked : Marked τ) : Bool :=
  marked.site == site && marked.frame.isCommit

@[simp] theorem Marked.commitsAt_goOn (site : SiteId) (marked : Marked τ) (moment : Nat)
    (frame : Frame τ) :
    (marked.goOn moment frame).commitsAt site = (marked.site == site && frame.isCommit) := rfl

@[simp] theorem Marked.commitsAt_entering (site here : SiteId) (call : Call τ)
    (pass? : Option Pass) :
    Marked.commitsAt site ⟨⟨here, .entering call⟩, pass?⟩ = false :=
  Bool.and_false _

/-- How many commits a database takes itself to be in. -/
def Host.commitment (host : Host τ) (site : SiteId) : Nat :=
  match host.sites[site]? with
  | none => 0
  | some there => there.database.committing.toNat

theorem Host.commitment_of_engine? {host : Host τ} {site : SiteId} {engine : Engine τ}
    (there : host.engine? site = some engine) :
    host.commitment site = engine.database.committing.toNat := by
  unfold Host.commitment
  rw [(Host.engine?_eq_some there).1]

theorem Host.commitment_le_one (host : Host τ) (site : SiteId) : host.commitment site ≤ 1 := by
  unfold commitment
  split
  next => exact Nat.zero_le 1
  next => exact Bool.toNat_le _

theorem Host.committing_of_commitment {host : Host τ} {site : SiteId} {engine : Engine τ}
    (there : host.engine? site = some engine) (one : host.commitment site = 1) :
    engine.database.committing = true := by
  rw [Host.commitment_of_engine? there] at one
  cases committing : engine.database.committing with
  | true => rfl
  | false =>
    rw [committing] at one
    cases one

namespace Stack

variable {host : Host τ} {moment : Nat} {top : Marked τ} {below : Stack τ}

theorem countP_cons_toNat (counts : Marked τ → Bool) (top : Marked τ) (below : Stack τ) :
    (top :: below).countP counts = below.countP counts + (counts top).toNat := by
  rw [List.countP_cons]
  cases counts top <;> rfl

theorem countP_deliver (site : SiteId) (answer : Answer τ) (below : Stack τ) :
    (deliver answer below).countP (Marked.commitsAt site) =
      below.countP (Marked.commitsAt site) := by
  cases below with
  | nil => rfl
  | cons caller below => simp [deliver, List.countP_cons, Marked.commitsAt]

/-- A step that leaves a frame on the stack leaves the others as they are, but for one that may be
called. -/
theorem countP_step (site : SiteId) {engine : Engine τ}
    (there : host.engine? top.site = some engine) :
    (step host moment top below).2.countP (Marked.commitsAt site) =
      below.countP (Marked.commitsAt site) +
        (top.site == site && (engine.advance top.frame).isCommit).toNat := by
  unfold step
  rw [there]
  simp only
  cases engine.advance top.frame with
  | become changed frame => simp [countP_cons_toNat]
  | call changed frame callee => simp [countP_cons_toNat]
  | redirect other call => simp
  | wait frame => simp [countP_cons_toNat]
  | answer changed answer => simp [countP_deliver]

theorem commitment_step (site : SiteId) {engine : Engine τ}
    (there : host.engine? top.site = some engine) :
    (step host moment top below).1.commitment site =
      if site = top.site then
        (((engine.advance top.frame).engine?.getD engine).database.committing).toNat
      else host.commitment site := by
  have put (changed : Engine τ) : (host.put top.site changed).commitment site =
      if site = top.site then changed.database.committing.toNat else host.commitment site := by
    unfold Host.commitment
    by_cases here : site = top.site
    · rw [if_pos here, here, Scene.sites_put there]
    · rw [if_neg here, Scene.sites_put_of_ne here]
  rw [host_step there]
  cases (engine.advance top.frame).engine? with
  | some changed => exact put changed
  | none =>
    show host.commitment site = if site = top.site then _ else _
    split
    next here =>
      rw [here, Host.commitment_of_engine? there]
      rfl
    next => rfl

/-- The commits under way and the database's note of them change together. -/
theorem step_commits (moment : Nat) (below : Stack τ)
    (busy : top.frame.isCommit = true → host.commitment top.site = 1) (site : SiteId) :
    (step host moment top below).2.countP (Marked.commitsAt site) + host.commitment site =
      (top :: below).countP (Marked.commitsAt site) +
        (step host moment top below).1.commitment site := by
  cases there : host.engine? top.site with
  | none =>
    have idle : top.frame.isCommit = false := by
      by_contra commits
      have none := busy (by simpa using commits)
      unfold Host.engine? at there
      unfold Host.commitment at none
      rw [Option.map_eq_none_iff.1 there] at none
      cases none
    unfold step
    simp [there, countP_deliver, Marked.commitsAt, idle]
  | some engine =>
    have noted := Host.commitment_of_engine? there
    have balance := engine.advance_commits fun commits =>
      Host.committing_of_commitment there (busy commits)
    rw [countP_step site there, commitment_step site there, countP_cons_toNat]
    by_cases here : site = top.site
    · subst here
      simp only [if_true, Marked.commitsAt, beq_self_eq_true, Bool.true_and, noted]
      omega
    · have away : (top.site == site) = false := beq_eq_false_iff_ne.2 fun same => here same.symm
      simp [if_neg here, Marked.commitsAt, away]

end Stack

/-! ## Reachable scenes -/

/-- A database that was just opened is as it is at first: its storage has handed out no scratch
files, and its cache is empty. -/
theorem Database.openAt_first {disk after : FileSystem} {path : Path} {config : Config}
    {owner : String} {database : Database}
    (opens : Database.openAt disk path config owner = (.ok database, after)) :
    ∃ storage journal recovered, storage.scratch = [] ∧ database =
      { storage, cache := .new config.reuseCapacity config.reuseResults, journal, recovered } := by
  unfold Database.openAt at opens
  split at opens
  next => cases opens
  next opened between storageOpens =>
    have blank : opened.scratch = [] := by
      unfold Storage.openAt at storageOpens
      repeat' split at storageOpens
      all_goals cases storageOpens
      all_goals rfl
    split at opens
    next => cases opens
    next blocks later _ =>
      have lasting : (Operation.recoverBlocks blocks).managesScratch = false := rfl
      have kept := (Storage.persists_perform opened later lasting).scratch.trans blank
      simp only [Prod.mk.injEq] at opens
      obtain ⟨recovers, -⟩ := opens
      cases result : (opened.recoverBlocks blocks later).1.result with
      | error fault =>
        rw [result] at recovers
        cases recovers
      | ok recovery =>
        rw [result] at recovers
        cases recovers
        exact ⟨_, _, _, kept, rfl⟩

/-- A frame that was admitted has the mark of its turn, and that is one of the turns at its
database that `good` holds of. -/
def Marked.Passed (good : SiteId → Pass → Prop) (marked : Marked τ) : Prop :=
  marked.frame.isAdmitted = true → ∃ pass, marked.pass? = some pass ∧ good marked.site pass

namespace Marked.Passed

variable {good good' : SiteId → Pass → Prop} {moment : Nat} {top : Marked τ}

theorem mono (h : Passed good top) (implies : ∀ site pass, good site pass → good' site pass) :
    Passed good' top := by
  intro admitted
  obtain ⟨pass, mark, fine⟩ := h admitted
  exact ⟨pass, mark, implies _ _ fine⟩

/-- What is left of a frame was admitted just now, or before like the frame itself. -/
theorem goOn (h : Passed good top) {engine : Engine τ} {frame : Frame τ}
    (admits : ∀ session errand seen, top.frame = .queued session errand seen →
      engine.database.lock.turn session = .granted → good top.site ⟨session, moment⟩)
    (left : (engine.advance top.frame).frame? = some frame) :
    Passed good (top.goOn moment frame) := by
  have transition := engine.transition_advance top.frame
  unfold Marked.goOn
  unfold Passed at h ⊢
  generalize top.frame = before at transition h admits left
  generalize engine.advance before = advance at transition left
  cases transition with
  | joins | waits => cases left; exact nofun
  | admits errand seen turn =>
    cases left
    exact fun _ => ⟨_, rfl, admits _ errand seen rfl turn⟩
  | scans | permits | begins | records | applies | queryCalls | updateCalls | yields =>
    cases left
    exact fun _ => h rfl
  | _ => cases left

end Marked.Passed

namespace Scene

variable {scene next : Scene τ} {acted : Option (Activation τ)}

/-- A frame comes to its turn once, and keeps the mark of that. -/
theorem passed_step {good : SiteId → Pass → Prop}
    (all : ∀ marked ∈ scene.frames, marked.Passed good)
    (admits : ∀ site engine session errand seen, scene.host.engine? site = some engine →
      acted = some ⟨site, .queued session errand seen⟩ →
        engine.database.lock.turn session = .granted → good site ⟨session, scene.clock⟩)
    (step : scene.Step acted next) : ∀ marked ∈ next.frames, marked.Passed good := by
  refine step.forall_frames all ?_ (fun _ _ => nofun) ?_
  · exact fun marked answer passed admitted => passed (by simpa using admitted)
  · intro top engine frame moves there left passed
    refine passed.goOn (fun session errand seen queued turn => ?_) left
    refine admits top.site engine session errand seen there ?_ turn
    rw [moves, ← queued]

/-- What holds in every reachable scene. -/
structure Sound (scene : Scene τ) : Prop where
  /-- Every frame that was admitted came to its turn at an earlier moment. -/
  passed : ∀ marked ∈ scene.frames, marked.Passed fun _ pass => pass.moment < scene.clock
  /-- A database knows whether one of the calls commits, and there is no second one. -/
  commits : ∀ site,
    scene.frames.countP (Marked.commitsAt site) = scene.host.commitment site
  /-- A storage hands out nothing but scratch files. -/
  tidy : ∀ (site : SiteId) (there : Site τ), scene.host.sites[site]? = some there →
    there.database.storage.Tidy

theorem sound_initial (disk : FileSystem) : Sound { host := { disk } : Scene τ } :=
  ⟨nofun, fun _ => rfl, fun _ _ there => nomatch there⟩

/-- Only calls that move take time. -/
theorem Step.clock (step : scene.Step acted next) :
    next.clock = scene.clock + acted.toList.length := by
  cases step <;> rfl

theorem Sound.passed_step (h : scene.Sound) (step : scene.Step acted next) :
    ∀ marked ∈ next.frames, marked.Passed fun _ pass => pass.moment < next.clock := by
  refine Scene.passed_step (fun marked member => (h.passed marked member).mono ?_) ?_ step
  · intro site pass earlier
    rw [step.clock]
    omega
  · intro site engine session errand seen _ moves _
    rw [step.clock, moves]
    exact Nat.lt_succ_self _

theorem Sound.busy (h : scene.Sound) {marked : Marked τ} (member : marked ∈ scene.frames)
    (commits : marked.frame.isCommit = true) : scene.host.commitment marked.site = 1 := by
  have one : 0 < scene.frames.countP (Marked.commitsAt marked.site) :=
    List.countP_pos_iff.2 ⟨marked, member, by simp [Marked.commitsAt, commits]⟩
  rw [h.commits marked.site] at one
  have bound := scene.host.commitment_le_one marked.site
  omega

/-- Only a step of a call tells a database that a commit begins or ends. -/
theorem Step.commitment_still (step : scene.Step none next) (site : SiteId) :
    next.host.commitment site = scene.host.commitment site := by
  unfold Host.commitment
  cases step.affects site with
  | same sites => rw [sites]
  | opened opens tables vacant sites =>
    unfold Host.engine? at vacant
    obtain ⟨storage, journal, recovered, -, rfl⟩ := Database.openAt_first opens
    rw [sites, Option.map_eq_none_iff.1 vacant]
    rfl
  | operated there endures sites => rw [sites, (Host.engine?_eq_some there).1]
  | stepped there by_frame => cases by_frame

theorem Sound.commits_step (h : scene.Sound) (step : scene.Step acted next) (site : SiteId) :
    next.frames.countP (Marked.commitsAt site) = next.host.commitment site := by
  have before := h.commits site
  cases step with
  | begun other call =>
    rw [(Step.begun other call).commitment_still, ← before]
    exact List.countP_cons_of_neg (by simp [Marked.commitsAt, Frame.isCommit])
  | operated other operation => rwa [(Step.operated other operation).commitment_still]
  | interrupted there asks permitted =>
    rwa [(Step.interrupted there asks permitted).commitment_still]
  | proceeded among => rwa [(Step.proceeded among).commitment_still]
  | opened opens tables => rwa [(Step.opened opens tables).commitment_still]
  | disturbed disk => rwa [(Step.disturbed disk).commitment_still]
  | @moved front back top below among =>
    have busy : top.frame.isCommit = true → scene.host.commitment top.site = 1 := by
      obtain ⟨marked, member, same⟩ := (Step.moved among).mem_frames rfl
      rw [← same]
      exact h.busy member
    have balance := Stack.step_commits scene.clock below busy site
    unfold frames at before ⊢
    rw [among] at before
    simp only [List.flatten_append, List.flatten_cons, List.countP_append] at before ⊢
    omega

/-- A storage hands out nothing but scratch files, whatever happens. -/
theorem Sound.tidy_step (h : scene.Sound) (step : scene.Step acted next) (site : SiteId)
    (there : Site τ) (found : next.host.sites[site]? = some there) :
    there.database.storage.Tidy := by
  cases step.affects site with
  | same sites => exact h.tidy site there (sites.symm.trans found)
  | opened opens tables vacant sites =>
    cases sites.symm.trans found
    obtain ⟨storage, journal, recovered, blank, rfl⟩ := Database.openAt_first opens
    unfold Storage.Tidy
    rw [blank]
    exact nofun
  | operated before endures sites =>
    cases sites.symm.trans found
    exact endures.tidy (h.tidy site _ (Host.engine?_eq_some before).1)
  | @stepped engine changed frame before by_frame advances sites =>
    cases sites.symm.trans found
    exact (Engine.endures_advance advances).tidy (h.tidy site _ (Host.engine?_eq_some before).1)

theorem Sound.step (h : scene.Sound) (step : scene.Step acted next) : next.Sound :=
  ⟨h.passed_step step, h.commits_step step, h.tidy_step step⟩

/-- **Every reachable scene** is sound. -/
theorem Reachable.sound (h : scene.Reachable) : scene.Sound := by
  obtain ⟨disk, later⟩ := h
  induction later with
  | refl => exact sound_initial disk
  | tail _ step ih =>
    obtain ⟨acted, step, -⟩ := step
    exact ih.step step

/-- A step of one call among others. -/
theorem step_among (host : Host τ) (front back : List (Stack τ)) (top : Marked τ)
    (below : Stack τ) (clock : Nat) (interrupted : List Interrupted) :
    Step ⟨host, front ++ (top :: below) :: back, clock, interrupted⟩ (some top.toActivation)
      ⟨(Stack.step host clock top below).1,
        front ++ (Stack.step host clock top below).2 :: back, clock + 1, interrupted⟩ :=
  .moved rfl

/-- Two sessions are connected to a database that was just opened. -/
def visited (database : Database) (disk : FileSystem) (tables : τ) : Scene τ :=
  { host := .ofDatabase
      { database with lock := { connected := [⟨2⟩, ⟨1⟩] }, nextSession := 3 } disk tables
    tasks := [[], []]
    clock := 2 }

theorem reachable_visited {disk after : FileSystem} {path : Path} {config : Config}
    {owner : String} {database : Database}
    (opens : Database.openAt disk path config owner = (.ok database, after)) (tables : τ) :
    (visited database after tables).Reachable := by
  obtain ⟨storage, cache, journal, recovered, rfl⟩ := Database.openAt_fresh opens
  let scene (lock : ExclusiveLock) (nextSession : UInt64) (tasks : List (Stack τ))
      (clock : Nat) : Scene τ :=
    ⟨.ofDatabase { storage, cache, journal, recovered, lock, nextSession } after tables, tasks,
      clock, []⟩
  have nothing : Reachable { host := { disk } : Scene τ } := ⟨disk, .refl⟩
  have opened : (scene {} 1 [] 0).Reachable := nothing.step (.opened opens tables)
  have one : (scene { connected := [⟨1⟩] } 2 [[]] 1).Reachable :=
    (opened.step (.begun 0 .connect)).step (step_among _ [] ..)
  exact (one.step (.begun 0 .connect)).step (step_among _ [] ..)

end Scene

end DurableStore
