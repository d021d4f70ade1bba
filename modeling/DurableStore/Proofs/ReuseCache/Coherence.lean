import DurableStore.ReuseCache.Program
import DurableStore.Proofs.ReuseCache.Aged

/-!
What a reuse cache serves is what a body returned, with no change since that body started.

However deep bodies are nested, what happens in a program happens one after another.  `course` puts
it on one line: where bodies started and what they returned, what was served without a body, and
where the generation moved.

* The generation counts the moves on this line (`generation_step`, `generation_run`).
* `Sourced` ties each entry to the body that its rows are from: between the start of that body and
  now the generation moved as often as the entry's tag is behind.  `Coherent` adds that all rows
  served so far were `Fresh`; steps and programs keep it (`coherent_step`, `coherent_run`), the body
  of a lookup being a program of its own.
* `served_fresh` is about a whole program that starts with an empty cache.
-/

namespace DurableStore

namespace Reuse

/-! ## One line of moments -/

/-- What happens at one moment of a program. -/
inductive Moment where
  /-- The body of a lookup starts. -/
  | began (key : Fingerprint)
  /-- The body that started at the moment `start` returns rows. -/
  | returned (start : Nat) (rows : Rows)
  /-- The body that started at the moment `start` fails. -/
  | failed (start : Nat) (fault : Fault)
  /-- A lookup is answered without a body. -/
  | served (key : Fingerprint) (rows : Rows)
  /-- The generation moves on by one. -/
  | bumped
  /-- The generation is set. -/
  | reset
  deriving DecidableEq

/-- The end of the body that started at the moment `start`. -/
def Moment.ended (start : Nat) : Except Fault Rows → Moment
  | .ok rows => .returned start rows
  | .error fault => .failed start fault

mutual

/-- The moments of a step that was reported, the first of which is the moment `first`. -/
def Action.moments (first : Nat) : Action → Report → List Moment
  | .lookup key _ during _, .looked answer (some body) _ =>
    .began key :: (moments (first + 1) during body ++ [.ended first answer])
  | .lookup key _ _ _, .looked (.ok rows) none _ => [.served key rows]
  | .bump, _ => [.bumped]
  | .setGeneration _, _ => [.reset]
  | _, _ => []

/-- The moments of a program that was reported, the first of which is the moment `first`. -/
def moments (first : Nat) : List Action → List Report → List Moment
  | action :: rest, report :: reports =>
    let now := action.moments first report
    now ++ moments (first + now.length) rest reports
  | _, _ => []

end

/-- The moments of a step from a state. -/
def stepCourse (reuse : Reuse) (first : Nat) (action : Action) : List Moment :=
  action.moments first (reuse.step action).1

/-- The moments of a program from a state. -/
def course (reuse : Reuse) (first : Nat) (program : List Action) : List Moment :=
  moments first program (reuse.run program).1

variable {reuse : Reuse} {first : Nat} {key : Fingerprint} {rows : Rows} {log more : List Moment}

theorem course_cons (reuse : Reuse) (first : Nat) (action : Action) (rest : List Action) :
    reuse.course first (action :: rest) =
      reuse.stepCourse first action ++
        (reuse.step action).2.course (first + (reuse.stepCourse first action).length) rest := by
  unfold course stepCourse
  rw [run, moments]

/-! ## Lookups -/

theorem generation_keep (reuse : Reuse) (key : Fingerprint) (found : ReuseCache.Lookup)
    (outcome : Except Fault Rows) :
    (reuse.keep key found outcome).generation = reuse.generation := by
  cases outcome <;> rfl

theorem mem_keep {entry : CacheEntry} {found : ReuseCache.Lookup} {outcome : Except Fault Rows}
    (member : entry ∈ (reuse.keep key found outcome).cache.entries) :
    entry ∈ reuse.cache.entries ∨
      ∃ rows, outcome = .ok rows ∧ found = .miss reuse.generation ∧
        entry = ⟨key, rows, reuse.generation⟩ := by
  cases outcome with
  | error _ => exact .inl member
  | ok rows =>
    rcases ReuseCache.mem_keep member with old | ⟨missed, new⟩
    · exact .inl old
    · exact .inr ⟨rows, rfl, missed, new⟩

/-- **What a lookup comes to**: it is served from an entry of the current generation, or its body
runs, and after it there may be an entry for its rows, tagged with the generation before it. -/
theorem step_lookup_cases (reuse : Reuse) (first : Nat) (key : Fingerprint) (cacheable : Bool)
    (during : List Action) (outcome : Except Fault Rows) :
    let step := reuse.step (.lookup key cacheable during outcome)
    let moments := reuse.stepCourse first (.lookup key cacheable during outcome)
    (∃ entry ∈ reuse.cache.entries, entry.key = key ∧ entry.generation = reuse.generation ∧
        moments = [.served key entry.rows] ∧ step.2.generation = reuse.generation ∧
        step.2.cache.entries ⊆ reuse.cache.entries) ∨
      ∃ looked : Reuse, looked.generation = reuse.generation ∧
        looked.cache.entries ⊆ reuse.cache.entries ∧
        moments = .began key :: (looked.course (first + 1) during ++ [.ended first outcome]) ∧
        step.2.generation = (looked.run during).2.generation ∧
        ∀ entry ∈ step.2.cache.entries, entry ∈ (looked.run during).2.cache.entries ∨
          ∃ rows, outcome = .ok rows ∧ entry = ⟨key, rows, reuse.generation⟩ := by
  intro step moments
  rcases reuse.cache.lookup_cases key cacheable reuse.generation with
    ⟨entry, member, named, tagged, -, same⟩ | ⟨found, cache, same, missed, subset⟩
  · left
    let after : Reuse :=
      { reuse with cache := { reuse.cache.promote entry with hits := reuse.cache.hits + 1 } }
    have stepped : step = (.looked (.ok entry.rows) none after, after) := by
      show reuse.step _ = _
      rw [Reuse.step]
      simp only [lookup, same]
      rfl
    refine ⟨entry, member, named, tagged, ?_, ?_, ?_⟩
    · show Action.moments first _ step.1 = _
      rw [stepped, Action.moments]
    · rw [stepped]
    · rw [stepped]
      exact ReuseCache.promote_subset member
  · right
    let looked : Reuse := { reuse with cache }
    let after := (looked.run during).2.keep key found outcome
    have stepped : step = (.looked outcome (some (looked.run during).1) after, after) := by
      show reuse.step _ = _
      rw [Reuse.step]
      rcases missed with ⟨rfl, -⟩ | rfl <;> simp only [lookup, same] <;> rfl
    refine ⟨looked, rfl, subset, ?_, ?_, ?_⟩
    · show Action.moments first _ step.1 = _
      rw [stepped, Action.moments]
      rfl
    · rw [stepped]
      exact generation_keep ..
    · rw [stepped]
      intro entry kept
      rcases mem_keep kept with old | ⟨rows, returned, rfl, new⟩
      · exact .inl old
      · -- Rows are kept after a miss only, at the generation of that miss.
        rcases missed with ⟨same, -⟩ | same
        · rw [ReuseCache.Lookup.miss.injEq] at same
          rw [same] at new
          exact .inr ⟨rows, returned, new⟩
        · cases same

/-! ## The generation -/

/-- How often the generation was moved on. -/
def bumps (log : List Moment) : Nat :=
  log.count .bumped

theorem bumps_append (log more : List Moment) : bumps (log ++ more) = bumps log + bumps more :=
  List.count_append

theorem bumps_ended (start : Nat) (outcome : Except Fault Rows) :
    bumps [.ended start outcome] = 0 := by
  cases outcome <;> rfl

/-- The moments of a lookup whose body runs, counted. -/
theorem bumps_body (key : Fingerprint) (body : List Moment) (start : Nat)
    (outcome : Except Fault Rows) :
    bumps (.began key :: (body ++ [.ended start outcome])) = bumps body := by
  rw [← List.singleton_append, bumps_append, bumps_append, bumps_ended]
  exact Nat.zero_add _

theorem unset_body {body : List Moment} {start : Nat} {outcome : Except Fault Rows}
    (unset : .reset ∉ .began key :: (body ++ [.ended start outcome])) : .reset ∉ body := by
  intro member
  exact unset (List.mem_cons_of_mem _ (List.mem_append_left _ member))

mutual

/-- **The generation counts the moves on**, unless it is set. -/
theorem generation_step (reuse : Reuse) (first : Nat) (action : Action)
    (unset : .reset ∉ reuse.stepCourse first action) :
    (reuse.step action).2.generation =
      reuse.generation + UInt64.ofNat (bumps (reuse.stepCourse first action)) := by
  cases action with
  | lookup key cacheable during outcome =>
    rcases reuse.step_lookup_cases first key cacheable during outcome with
      ⟨entry, -, -, -, moments, same, -⟩ | ⟨looked, start, -, moments, same, -⟩
    · rw [moments, same]
      exact (UInt64.add_zero _).symm
    · rw [moments] at unset ⊢
      rw [same, generation_run looked (first + 1) during (unset_body unset), start, bumps_body]
  | bump => rfl
  | setGeneration generation => exact absurd (List.mem_singleton_self _) unset
  | setEnabled enabled => exact (UInt64.add_zero _).symm
  | clear => exact (UInt64.add_zero _).symm

theorem generation_run (reuse : Reuse) (first : Nat) (program : List Action)
    (unset : .reset ∉ reuse.course first program) :
    (reuse.run program).2.generation =
      reuse.generation + UInt64.ofNat (bumps (reuse.course first program)) := by
  cases program with
  | nil => exact (UInt64.add_zero _).symm
  | cons action rest =>
    rw [course_cons] at unset ⊢
    rw [List.mem_append, not_or] at unset
    rw [run, bumps_append, UInt64.ofNat_add, ← UInt64.add_assoc,
      ← generation_step reuse first action unset.1]
    exact generation_run _ _ rest unset.2

end

/-! ## Where rows come from -/

/-- Rows served for a key at a moment were returned before by a body for that key, and the
generation was not moved on from the start of that body up to this moment. -/
def Fresh (log : List Moment) (moment : Nat) (key : Fingerprint) (rows : Rows) : Prop :=
  ∃ start finish, start < finish ∧ finish < moment ∧
    log[start]? = some (.began key) ∧ log[finish]? = some (.returned start rows) ∧
    ∀ between, start < between → between < moment → log[between]? ≠ some .bumped

/-- The rows of an entry were returned by a body for its key, and since the start of that body the
generation was moved on from the entry's to the current one. -/
def Sourced (log : List Moment) (generation : UInt64) (entry : CacheEntry) : Prop :=
  ∃ start finish, start < finish ∧
    log[start]? = some (.began entry.key) ∧ log[finish]? = some (.returned start entry.rows) ∧
    generation = entry.generation + UInt64.ofNat (bumps (log.drop start))

variable {generation : UInt64} {entry : CacheEntry} {moment : Nat}

theorem lt_length_of_getElem? {found : Moment} (there : log[moment]? = some found) :
    moment < log.length :=
  (List.getElem?_eq_some_iff.1 there).1

/-- What happened stays as it is. -/
theorem getElem?_append_of_some {found : Moment} (there : log[moment]? = some found)
    (more : List Moment) : (log ++ more)[moment]? = some found := by
  rw [List.getElem?_append_left (lt_length_of_getElem? there)]
  exact there

theorem Fresh.append (h : Fresh log moment key rows) (past : moment ≤ log.length)
    (more : List Moment) : Fresh (log ++ more) moment key rows := by
  obtain ⟨start, finish, before, earlier, began, returned, still⟩ := h
  refine ⟨start, finish, before, earlier, getElem?_append_of_some began more,
    getElem?_append_of_some returned more, ?_⟩
  intro between after upto
  rw [List.getElem?_append_left (by omega)]
  exact still between after upto

theorem Sourced.append (h : Sourced log generation entry) (more : List Moment) :
    Sourced (log ++ more) (generation + UInt64.ofNat (bumps more)) entry := by
  obtain ⟨start, finish, before, began, returned, same⟩ := h
  refine ⟨start, finish, before, getElem?_append_of_some began more,
    getElem?_append_of_some returned more, ?_⟩
  have within := lt_length_of_getElem? began
  rw [List.drop_append_of_le_length (by omega), bumps_append, UInt64.ofNat_add, same,
    UInt64.add_assoc]

/-- **Rows of an entry of the current generation are fresh** if the generation has not come
around. -/
theorem Sourced.fresh (h : Sourced log generation entry) (few : bumps log < UInt64.size)
    (tagged : entry.generation = generation) : Fresh log log.length entry.key entry.rows := by
  obtain ⟨start, finish, before, began, returned, same⟩ := h
  refine ⟨start, finish, before, lt_length_of_getElem? returned, began, returned, ?_⟩
  intro between after upto bumped
  rw [tagged] at same
  have counted := bumps_append (log.take start) (log.drop start)
  rw [List.take_append_drop] at counted
  have still : bumps (log.drop start) = 0 := ReuseCache.not_moved (by omega) same
  -- The move would be one of those after the start.
  refine absurd ?_ (List.count_eq_zero.1 still)
  have there : (log.drop start)[between - start]? = some .bumped := by
    rw [List.getElem?_drop, Nat.add_sub_cancel' (by omega)]
    exact bumped
  exact List.mem_of_getElem? there

/-! ## Steps -/

/-- Each entry is from a body of its key, and all rows served so far were fresh. -/
structure Coherent (log : List Moment) (reuse : Reuse) : Prop where
  sourced : ∀ entry ∈ reuse.cache.entries, Sourced log reuse.generation entry
  fresh : ∀ moment key rows, log[moment]? = some (.served key rows) → Fresh log moment key rows

namespace Coherent

variable {after : Reuse}

theorem of_subset (h : Coherent log reuse) (same : after.generation = reuse.generation)
    (subset : after.cache.entries ⊆ reuse.cache.entries) : Coherent log after := by
  refine ⟨?_, h.fresh⟩
  intro entry member
  rw [same]
  exact h.sourced entry (subset member)

/-- One more moment. -/
theorem extend (h : Coherent log reuse) {now : Moment}
    (moved : after.generation = reuse.generation + UInt64.ofNat (bumps [now]))
    (entries : ∀ entry ∈ after.cache.entries,
      entry ∈ reuse.cache.entries ∨ Sourced (log ++ [now]) after.generation entry)
    (served : ∀ key rows, now = .served key rows → Fresh log log.length key rows) :
    Coherent (log ++ [now]) after := by
  constructor
  · intro entry member
    rcases entries entry member with old | new
    · rw [moved]
      exact (h.sourced entry old).append [now]
    · exact new
  · intro moment key rows there
    by_cases last : moment = log.length
    · subst last
      rw [List.getElem?_concat_length] at there
      cases there
      exact (served key rows rfl).append (Nat.le_refl _) _
    · have past : moment < log.length := by
        have within := lt_length_of_getElem? there
        rw [List.length_append, List.length_singleton] at within
        omega
      rw [List.getElem?_append_left past] at there
      exact (h.fresh moment key rows there).append (Nat.le_of_lt past) _

end Coherent

/-- The rows that a body just returned are sourced for the generation before it. -/
theorem sourced_returned {looked : Reuse} (length : log.length = first)
    (start : looked.generation = reuse.generation) {during : List Action}
    (unset : .reset ∉ looked.course (first + 1) during) :
    Sourced (log ++ [Moment.began key] ++ looked.course (first + 1) during ++
        [.returned first rows])
      (looked.run during).2.generation ⟨key, rows, reuse.generation⟩ := by
  subst length
  refine ⟨log.length, (log ++ [Moment.began key] ++ looked.course (log.length + 1) during).length,
    ?_, ?_, List.getElem?_concat_length, ?_⟩
  · simp only [List.length_append, List.length_singleton]
    omega
  · rw [List.append_assoc, List.append_assoc, List.getElem?_append_right (Nat.le_refl _),
      Nat.sub_self]
    rfl
  · show _ = reuse.generation + _
    rw [List.append_assoc, List.append_assoc, List.drop_left, bumps_append, bumps_append,
      generation_run looked _ during unset, start]
    exact congrArg (reuse.generation + UInt64.ofNat ·) (Nat.zero_add _).symm

mutual

/-- **Every step** leaves entries from bodies for their keys, and serves fresh rows. -/
theorem coherent_step {log : List Moment} {reuse : Reuse} {first : Nat} (h : Coherent log reuse)
    (length : log.length = first) (action : Action)
    (unset : .reset ∉ reuse.stepCourse first action)
    (few : bumps (log ++ reuse.stepCourse first action) < UInt64.size) :
    Coherent (log ++ reuse.stepCourse first action) (reuse.step action).2 := by
  cases action with
  | lookup key cacheable during outcome =>
    rcases reuse.step_lookup_cases first key cacheable during outcome with
      ⟨entry, member, rfl, tagged, moments, same, subset⟩ |
      ⟨looked, start, subset, moments, same, entries⟩
    · rw [moments] at few ⊢
      refine h.extend ?_ (fun other kept => .inl (subset kept)) ?_
      · rw [same]
        exact (UInt64.add_zero _).symm
      · rintro _ _ ⟨⟩
        rw [bumps_append] at few
        exact (h.sourced entry member).fresh (by omega) tagged
    · -- The start of the body, the body and its end, one after another.
      rw [moments] at unset few ⊢
      have begun : Coherent (log ++ [.began key]) looked := by
        refine h.extend ?_ (fun entry kept => .inl (subset kept)) nofun
        rw [start]
        exact (UInt64.add_zero _).symm
      have regroup : log ++ .began key :: (looked.course (first + 1) during ++
          [.ended first outcome]) = log ++ [.began key] ++ looked.course (first + 1) during ++
          [.ended first outcome] := by
        simp
      rw [regroup] at few ⊢
      have ran : Coherent (log ++ [.began key] ++ looked.course (first + 1) during)
          (looked.run during).2 := by
        refine coherent_run begun ?_ during (unset_body unset) ?_
        · rw [List.length_append, length]
          rfl
        · rw [bumps_append] at few
          omega
      refine ran.extend ?_ ?_ ?_
      · rw [same, bumps_ended]
        exact (UInt64.add_zero _).symm
      · intro entry kept
        rcases entries entry kept with old | ⟨rows, rfl, rfl⟩
        · exact .inl old
        · -- Whatever the body left for this key itself.
          right
          rw [same]
          exact sourced_returned length start (unset_body unset)
      · cases outcome <;> exact nofun
  | bump =>
    exact h.extend rfl (fun entry kept => .inl kept) nofun
  | setGeneration generation => exact absurd (List.mem_singleton_self _) unset
  | setEnabled enabled =>
    show Coherent (log ++ []) (reuse.setEnabled enabled)
    rw [List.append_nil]
    exact h.of_subset rfl (reuse.cache.setEnabled_subset enabled)
  | clear =>
    show Coherent (log ++ []) _
    rw [List.append_nil]
    exact h.of_subset rfl (List.nil_subset _)

theorem coherent_run {log : List Moment} {reuse : Reuse} {first : Nat} (h : Coherent log reuse)
    (length : log.length = first) (program : List Action)
    (unset : .reset ∉ reuse.course first program)
    (few : bumps (log ++ reuse.course first program) < UInt64.size) :
    Coherent (log ++ reuse.course first program) (reuse.run program).2 := by
  cases program with
  | nil =>
    show Coherent (log ++ []) reuse
    rw [List.append_nil]
    exact h
  | cons action rest =>
    rw [course_cons, ← List.append_assoc] at few ⊢
    rw [course_cons, List.mem_append, not_or] at unset
    have stepped : Coherent (log ++ reuse.stepCourse first action) (reuse.step action).2 := by
      refine coherent_step h length action unset.1 ?_
      rw [bumps_append] at few
      omega
    rw [run]
    refine coherent_run stepped ?_ rest unset.2 few
    rw [List.length_append, length]

end

/-- **What is served is fresh**, however deep the bodies of lookups are nested: if the generation
only moves on, fewer times than it takes to come around, then rows that a lookup is answered
without a body were returned before by a body for an equal key, and the generation did not move
from the start of that body up to this lookup. -/
theorem served_fresh (capacity : Nat) (enabled : Bool) (generation : UInt64)
    (program : List Action)
    (unset : .reset ∉ course ⟨.new capacity enabled, generation⟩ 0 program)
    (few : bumps (course ⟨.new capacity enabled, generation⟩ 0 program) < UInt64.size)
    (moment : Nat) (key : Fingerprint) (rows : Rows)
    (served : (course ⟨.new capacity enabled, generation⟩ 0 program)[moment]? =
      some (.served key rows)) :
    Fresh (course ⟨.new capacity enabled, generation⟩ 0 program) moment key rows := by
  have empty : Coherent [] ⟨.new capacity enabled, generation⟩ := by
    constructor
    · intro entry member
      cases member
    · intro moment key rows there
      cases there
  exact (coherent_run empty rfl program unset few).fresh moment key rows served

/-- A body that moves the generation on and looks up its own key, and the lookup after it. -/
def nestedLookups (key : Fingerprint) : List Action :=
  let answering (during : List Action) (number : Int64) : Action :=
    .lookup key true during (.ok [[.int number]])
  [answering [answering [.bump] 1, answering [] 2, answering [] 3] 4, answering [] 5]

theorem served_fresh_nested :
    let key : Fingerprint := ⟨"SELECT N FROM T", []⟩
    let log := course ⟨.new 2 true, 0⟩ 0 (nestedLookups key)
    .reset ∉ log ∧ bumps log < UInt64.size ∧ log[8]? = some (.served key [[.int 2]]) ∧
      Fresh log 8 key [[.int 2]] := by
  intro key log
  have unset : .reset ∉ log := by decide +kernel
  have few : bumps log < UInt64.size := by decide +kernel
  have served : log[8]? = some (.served key [[.int 2]]) := by decide +kernel
  exact ⟨unset, few, served, served_fresh 2 true 0 (nestedLookups key) unset few 8 key _ served⟩

end Reuse

end DurableStore
