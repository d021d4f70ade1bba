import DurableStore.Database.Host

/-!
The calls under way on open databases.

A call that cannot go on is parked.  It is ready again when the lock has been signalled since it
last looked, or when the commit that it waits for is finished.  Whoever makes a call of a database
sees to the calls that are parked there: `settle` resumes those of one database until none of them
is ready; each time either the parked tasks have fewer steps left, or nothing happened and one task
fewer is ready.
-/

namespace DurableStore

/-- A call that waits. -/
structure ParkedTask (τ : Type) where
  /-- The database that the call was made of. -/
  site : SiteId
  /-- What the caller names the call. -/
  tag : String
  task : Task τ

/-- An answer that was waited for. -/
structure WokenTask (τ : Type) where
  tag : String
  answer : Answer τ

/-- The open databases and the calls that wait, first come first. -/
structure Workload (τ : Type) where
  host : Host τ
  parked : List (ParkedTask τ) := []

namespace Workload

variable {τ : Type}

/-- Makes a call of a database; without an answer it is parked. -/
def submit (load : Workload τ) (site : SiteId) (tag : String) (call : Call τ) :
    Option (Answer τ) × Workload τ :=
  match load.host.run { top := ⟨site, .entering call⟩ } with
  | (.answered answer, host) => (some answer, { load with host })
  | (.waiting task, host) => (none, { host, parked := load.parked ++ [⟨site, tag, task⟩] })

/-- Takes the parked task at `index` as far as it can go. -/
def resume (load : Workload τ) (index : Nat) : Option (WokenTask τ) × Workload τ :=
  match load.parked[index]? with
  | none => (none, load)
  | some ⟨site, tag, task⟩ =>
    match load.host.run task with
    | (.answered answer, host) => (some ⟨tag, answer⟩, ⟨host, load.parked.eraseIdx index⟩)
    | (.waiting task, host) => (none, ⟨host, load.parked.set index ⟨site, tag, task⟩⟩)

/-- A bound on the steps that parked tasks take. -/
def weights : List (ParkedTask τ) → Nat
  | [] => 0
  | parked :: rest => parked.task.weight + weights rest

/-- A bound on the steps that the parked tasks take. -/
def weight (load : Workload τ) : Nat :=
  weights load.parked

/-- A parked call of a database may get further. -/
def isReady (load : Workload τ) (site : SiteId) (parked : ParkedTask τ) : Bool :=
  parked.site == site && load.host.isReady parked.task

/-- How many parked calls of a database may get further. -/
def ready (load : Workload τ) (site : SiteId) : Nat :=
  load.parked.countP (load.isReady site)

/-- Which parked call of a database goes on next: the first that is ready. -/
def nextReady? (load : Workload τ) (site : SiteId) : Option Nat :=
  load.parked.findIdx? (load.isReady site)

theorem weights_set (parked : List (ParkedTask τ)) (index : Nat) (bound : index < parked.length)
    (other : ParkedTask τ) :
    weights (parked.set index other) + parked[index].task.weight =
      weights parked + other.task.weight := by
  induction parked generalizing index with
  | nil => simp at bound
  | cons head rest ih =>
    cases index with
    | zero => simp [weights]; omega
    | succ index =>
      have := ih index (by simpa using bound)
      simp only [List.set_cons_succ, weights, List.getElem_cons_succ]
      omega

theorem weights_eraseIdx (parked : List (ParkedTask τ)) (index : Nat)
    (bound : index < parked.length) :
    weights (parked.eraseIdx index) + parked[index].task.weight = weights parked := by
  induction parked generalizing index with
  | nil => simp at bound
  | cons head rest ih =>
    cases index with
    | zero => simp [weights]; omega
    | succ index =>
      have := ih index (by simpa using bound)
      simp only [List.eraseIdx_cons_succ, weights, List.getElem_cons_succ]
      omega

theorem resume_decreases {load : Workload τ} {site : SiteId} {index : Nat}
    (h : load.nextReady? site = some index) :
    (load.resume index).2.weight < load.weight ∨
      (load.resume index).2.weight = load.weight ∧
        (load.resume index).2.ready site < load.ready site := by
  obtain ⟨bound, ready, -⟩ := List.findIdx?_eq_some_iff_getElem.1 h
  have at_index : load.parked[index]? = some load.parked[index] := List.getElem?_eq_getElem bound
  simp only [resume, at_index]
  split
  next =>
    left
    have := weights_eraseIdx load.parked index bound
    have := Frame.weight_pos load.parked[index].task.top.frame
    simp only [weight, Task.weight] at *
    omega
  next task host ran =>
    have total : _ = _ + task.weight := weights_set load.parked index bound
      ⟨load.parked[index].site, load.parked[index].tag, task⟩
    simp only [weight]
    rcases Host.run_waiting ran with lower | ⟨same, rfl, quiet⟩
    · left
      omega
    · refine .inr ⟨by omega, ?_⟩
      have counted : 0 < load.parked.countP (load.isReady site) :=
        List.countP_pos_iff.2 ⟨_, List.getElem_mem bound, ready⟩
      have still : isReady ⟨load.host, load.parked.set index
          ⟨load.parked[index].site, load.parked[index].tag, task⟩⟩ site = load.isReady site := rfl
      simp only [Workload.ready, still]
      rw [List.countP_set bound, if_pos ready]
      have quiet : load.isReady site
          ⟨load.parked[index].site, load.parked[index].tag, task⟩ = false := by
        simp [isReady, quiet]
      rw [quiet, if_neg Bool.false_ne_true]
      omega

/-- Resumes the ready calls of a database until none is left. -/
def settle (load : Workload τ) (site : SiteId) : List (WokenTask τ) × Workload τ :=
  match h : load.nextReady? site with
  | none => ([], load)
  | some index =>
    have := resume_decreases h
    let (woken, settled) := (load.resume index).2.settle site
    ((load.resume index).1.toList ++ woken, settled)
  termination_by (load.weight, load.ready site)
  decreasing_by
    rcases this with lower | ⟨same, fewer⟩
    · exact Prod.Lex.left _ _ lower
    · rw [same]
      exact Prod.Lex.right _ fewer

/-- Makes a call of a database and then resumes every call of that database that can go on; the
call's answer, if it need not wait, and those that were waited for. -/
def call (load : Workload τ) (site : SiteId) (tag : String) (call : Call τ) :
    Option (Answer τ) × List (WokenTask τ) × Workload τ :=
  let (answer, load) := load.submit site tag call
  (answer, load.settle site)

end Workload

end DurableStore
