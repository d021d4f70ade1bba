import Mathlib.Data.List.Basic
import DurableStore.ReuseCache.Program
import DurableStore.Proofs.ReuseCache.Aged

/-!
What may get into a reuse cache.

`trail` puts every state that a program passes on one line, those inside the bodies of its lookups
included, each with what led to it.  Along it no state has entries while reuse is switched off, and
every entry was stored by a cacheable lookup whose body answered with rows (`Admissible`).  Keeping
rows is the one step that adds an entry, and it looks at the switch at that moment
(`keep_cases`), however often the body turned it.  A lookup that passes the entries by leaves them
to its body alone (`step_of_bypass`).
-/

namespace DurableStore

namespace Reuse

/-! ## The states of a program -/

/-- What leads from one state of a program to the next. -/
inductive Event where
  /-- A lookup asks the entries. -/
  | asked (key : Fingerprint) (cacheable : Bool) (found : ReuseCache.Lookup)
  /-- The body of the lookup that asked at the moment `asked` comes back, and what it answers is
  kept if it may be. -/
  | returned (asked : Nat) (outcome : Except Fault Rows)
  /-- The generation or the switch is set, or the entries are dropped. -/
  | changed

mutual

/-- The events of a step with the states behind them, the first one at the moment `first`. -/
def stepTrail (reuse : Reuse) (first : Nat) : Action → List (Event × Reuse)
  | .lookup key cacheable during outcome =>
    let (found, looked) := reuse.lookup key cacheable
    match found with
    | .hit _ => [(.asked key cacheable found, looked)]
    | .miss _ | .bypass =>
      (.asked key cacheable found, looked) :: (trail looked (first + 1) during ++
        [(.returned first outcome, (looked.run during).2.keep key found outcome)])
  | action => [(.changed, (reuse.step action).2)]

/-- The events of a program with the states behind them, the first one at the moment `first`. -/
def trail (reuse : Reuse) (first : Nat) : List Action → List (Event × Reuse)
  | [] => []
  | action :: rest =>
    let now := stepTrail reuse first action
    now ++ trail (reuse.step action).2 (first + now.length) rest

end

variable {reuse after : Reuse} {first : Nat} {log more : List (Event × Reuse)} {event : Event}
  {entry : CacheEntry} {key : Fingerprint}

/-! ## What single operations do -/

/-- Keeping rows leaves everything as it is, or puts an entry in front while reuse is switched
on. -/
theorem keep_cases (reuse : Reuse) (key : Fingerprint) (found : ReuseCache.Lookup)
    (outcome : Except Fault Rows) :
    reuse.keep key found outcome = reuse ∨
      ∃ rows, outcome = .ok rows ∧ found = .miss reuse.generation ∧ reuse.cache.enabled = true ∧
        reuse.keep key found outcome =
          { reuse with cache := reuse.cache.promote ⟨key, rows, reuse.generation⟩ } := by
  cases outcome with
  | error => exact .inl rfl
  | ok rows =>
    unfold keep
    simp only
    rcases reuse.cache.keep_cases key found reuse.generation rows with
      same | ⟨missed, enabled, kept⟩
    · rw [same]
      exact .inl rfl
    · rw [kept]
      exact .inr ⟨rows, rfl, missed, enabled, rfl⟩

/-- **A lookup that passes the entries by** comes to one run of its body: it answers what the body
answers, and leaves the state in which the body ended. -/
theorem step_of_bypass {cacheable : Bool}
    (bypassed : cacheable = false ∨ reuse.cache.enabled = false) (key : Fingerprint)
    (during : List Action) (outcome : Except Fault Rows) :
    let asked : Reuse := { reuse with cache := reuse.cache.countMiss }
    reuse.step (.lookup key cacheable during outcome) =
      (.looked outcome (some (asked.run during).1) (asked.run during).2, (asked.run during).2) := by
  intro asked
  have passes : ¬ (cacheable && reuse.cache.enabled) = true := by
    rcases bypassed with off | off
    · simp [off]
    · simp [off]
  have found : reuse.lookup key cacheable = (.bypass, asked) := by
    unfold Reuse.lookup ReuseCache.lookup
    rw [if_neg passes]
  have kept : (asked.run during).2.keep key .bypass outcome = (asked.run during).2 := by
    cases outcome <;> rfl
  rw [step, found]
  simp only [kept]

/-! ## Where entries come from -/

/-- A cacheable lookup of the entry's key asked in vain at the entry's generation, its body answered
with the entry's rows, and the entry was stored then. -/
def Stored (log : List (Event × Reuse)) (entry : CacheEntry) : Prop :=
  ∃ before looked body stored rest,
    log = before ++ (.asked entry.key true (.miss entry.generation), looked) ::
      (body ++ (.returned before.length (.ok entry.rows), stored) :: rest) ∧
    stored.cache.entries.head? = some entry

theorem Stored.append (h : Stored log entry) (more : List (Event × Reuse)) :
    Stored (log ++ more) entry := by
  obtain ⟨before, looked, body, stored, rest, rfl, front⟩ := h
  refine ⟨before, looked, body, stored, rest ++ more, ?_, front⟩
  simp

/-- There are no entries while reuse is switched off. -/
def Quiet (reuse : Reuse) : Prop :=
  reuse.cache.enabled = false → reuse.cache.entries = []

/-- So far every state was quiet, and every entry had been stored for good reason. -/
structure Admissible (log : List (Event × Reuse)) (reuse : Reuse) : Prop where
  quiet : reuse.Quiet
  stored : ∀ entry ∈ reuse.cache.entries, Stored log entry
  past : ∀ before event state rest, log = before ++ (event, state) :: rest →
    state.Quiet ∧ ∀ entry ∈ state.cache.entries, Stored (before ++ [(event, state)]) entry

namespace Admissible

/-- One more event. -/
theorem extend (h : Admissible log reuse) (event : Event) (quiet : after.Quiet)
    (entries : ∀ entry ∈ after.cache.entries,
      entry ∈ reuse.cache.entries ∨ Stored (log ++ [(event, after)]) entry) :
    Admissible (log ++ [(event, after)]) after := by
  have stored : ∀ entry ∈ after.cache.entries, Stored (log ++ [(event, after)]) entry := by
    intro entry member
    rcases entries entry member with old | new
    · exact (h.stored entry old).append _
    · exact new
  refine ⟨quiet, stored, ?_⟩
  intro before event' state rest split
  rcases List.eq_nil_or_concat' rest with rfl | ⟨rest, last, rfl⟩
  · obtain ⟨rfl, same⟩ := List.append_inj' split rfl
    cases same
    exact ⟨quiet, stored⟩
  · rw [← List.cons_append, ← List.append_assoc] at split
    obtain ⟨split, -⟩ := List.append_inj' split rfl
    exact h.past before event' state rest split

/-- A body comes back, and what it answers is kept if it may be. -/
theorem comeBack {found : ReuseCache.Lookup} {cacheable : Bool} {looked ended : Reuse}
    {body : List (Event × Reuse)}
    (ran : Admissible (log ++ [(.asked key cacheable found, looked)] ++ body) ended)
    (length : log.length = first)
    (asks : ∀ generation, found = .miss generation → cacheable = true)
    (outcome : Except Fault Rows) :
    Admissible (log ++ (.asked key cacheable found, looked) ::
        (body ++ [(.returned first outcome, ended.keep key found outcome)]))
      (ended.keep key found outcome) := by
  have regroup (last : Event × Reuse) :
      log ++ (.asked key cacheable found, looked) :: (body ++ [last]) =
        log ++ [(.asked key cacheable found, looked)] ++ body ++ [last] := by
    simp
  rw [regroup]
  rcases ended.keep_cases key found outcome with same | ⟨rows, rfl, missed, enabled, kept⟩
  · rw [same]
    exact ran.extend _ ran.quiet fun entry member => .inl member
  · refine ran.extend _ ?_ ?_
    · intro off
      rw [kept] at off
      exact absurd enabled (Bool.eq_false_iff.1 off)
    · intro entry member
      rw [kept] at member
      rcases ReuseCache.mem_promote member with rfl | old
      · right
        refine ⟨log, looked, body, ended.keep key found (.ok rows), [], ?_, ?_⟩
        · rw [← regroup, length, missed, asks _ missed]
        · rw [kept]
          rfl
      · exact .inl old

end Admissible

/-! ## Steps -/

theorem Quiet.of_subset (h : reuse.Quiet) (same : after.cache.enabled = reuse.cache.enabled)
    (subset : after.cache.entries ⊆ reuse.cache.entries) : after.Quiet := by
  intro off
  rw [same] at off
  rw [h off] at subset
  exact List.subset_nil.1 subset

theorem enabled_lookup (reuse : Reuse) (key : Fingerprint) (cacheable : Bool) :
    (reuse.lookup key cacheable).2.cache.enabled = reuse.cache.enabled := by
  unfold Reuse.lookup ReuseCache.lookup
  simp only
  split
  next =>
    split
    next => split <;> rfl
    next => rfl
  next => rfl

/-- Only a cacheable lookup misses. -/
theorem cacheable_of_miss {cacheable : Bool} {generation : UInt64}
    (missed : (reuse.lookup key cacheable).1 = .miss generation) : cacheable = true := by
  unfold Reuse.lookup at missed
  rcases reuse.cache.lookup_cases key cacheable reuse.generation with
    ⟨entry, -, -, -, cacheable, -⟩ | ⟨found, cache, same, ⟨-, cacheable⟩ | bypassed, -⟩
  · exact cacheable
  · exact cacheable
  · rw [same, bypassed] at missed
    cases missed

theorem Quiet.setEnabled (h : reuse.Quiet) (enabled : Bool) : (reuse.setEnabled enabled).Quiet := by
  intro off
  unfold Reuse.setEnabled ReuseCache.setEnabled at off ⊢
  simp only at off ⊢
  split at off
  next switched =>
    rw [if_pos switched]
    rfl
  next kept =>
    -- Reuse was switched off before.
    rw [if_neg kept]
    have off : enabled = false := off
    subst off
    refine h ?_
    simpa using kept

mutual

/-- **Every step** passes quiet states only, with entries that were stored for good reason. -/
theorem admissible_step {log : List (Event × Reuse)} {reuse : Reuse} {first : Nat}
    (h : Admissible log reuse) (length : log.length = first) (action : Action) :
    Admissible (log ++ reuse.stepTrail first action) (reuse.step action).2 := by
  cases action with
  | lookup key cacheable during outcome =>
    have asked : Admissible (log ++ [(.asked key cacheable (reuse.lookup key cacheable).1,
        (reuse.lookup key cacheable).2)]) (reuse.lookup key cacheable).2 := by
      have subset : (reuse.lookup key cacheable).2.cache.entries ⊆ reuse.cache.entries :=
        reuse.cache.lookup_subset key cacheable reuse.generation
      refine h.extend _ (h.quiet.of_subset (reuse.enabled_lookup key cacheable) subset) ?_
      exact fun entry member => .inl (subset member)
    have asks : ∀ generation, (reuse.lookup key cacheable).1 = .miss generation →
        cacheable = true := fun generation => cacheable_of_miss
    rw [stepTrail, step]
    generalize reuse.lookup key cacheable = given at asked asks
    obtain ⟨found, looked⟩ := given
    have length' : (log ++ [(Event.asked key cacheable found, looked)]).length = first + 1 := by
      rw [List.length_append, length]
      rfl
    have ran := admissible_run asked length' during
    cases found with
    | hit rows => exact asked
    | miss generation => exact ran.comeBack length asks outcome
    | bypass => exact ran.comeBack length asks outcome
  | bump => exact h.extend .changed h.quiet fun entry member => .inl member
  | setGeneration generation => exact h.extend .changed h.quiet fun entry member => .inl member
  | setEnabled enabled =>
    refine h.extend .changed (h.quiet.setEnabled enabled) ?_
    exact fun entry member => .inl (reuse.cache.setEnabled_subset enabled member)
  | clear =>
    refine h.extend .changed (fun _ => rfl) ?_
    intro entry member
    cases member

theorem admissible_run {log : List (Event × Reuse)} {reuse : Reuse} {first : Nat}
    (h : Admissible log reuse) (length : log.length = first) (program : List Action) :
    Admissible (log ++ reuse.trail first program) (reuse.run program).2 := by
  cases program with
  | nil =>
    show Admissible (log ++ []) reuse
    rw [List.append_nil]
    exact h
  | cons action rest =>
    have stepped := admissible_step h length action
    rw [trail, run, ← List.append_assoc]
    refine admissible_run stepped ?_ rest
    rw [List.length_append, length]

end

/-! ## Whole programs -/

theorem getLast?_stepTrail (reuse : Reuse) (first : Nat) (action : Action) :
    (reuse.stepTrail first action).getLast?.map Prod.snd = some (reuse.step action).2 := by
  cases action with
  | lookup key cacheable during outcome =>
    rw [stepTrail, step]
    generalize reuse.lookup key cacheable = given
    obtain ⟨found, looked⟩ := given
    cases found with
    | hit rows => rfl
    | miss | bypass => simp [List.getLast?_cons]
  | bump | setGeneration | setEnabled | clear => rfl

/-- The trail ends where the program does. -/
theorem getLast?_trail (reuse : Reuse) (first : Nat) (program : List Action) :
    ((reuse.trail first program).getLast?.map Prod.snd).getD reuse = (reuse.run program).2 := by
  induction program generalizing reuse first with
  | nil => rfl
  | cons action rest ih =>
    rw [trail, run, ← ih _ (first + (reuse.stepTrail first action).length)]
    simp only [List.getLast?_append]
    cases ends : ((reuse.step action).2.trail (first + (reuse.stepTrail first action).length)
        rest).getLast? with
    | none => simp [getLast?_stepTrail]
    | some last => rfl

/-- **Nothing is in the cache that must not be.**  In every state of a program that starts with an
empty cache, however deep its lookups are nested, there are no entries while reuse is switched off,
and every entry was stored by a cacheable lookup of its key whose body had answered with its rows.
A lookup that is not cacheable, or that finds reuse switched off, leaves the entries as they are,
runs its body once, answers what the body answers and leaves the state in which the body ended. -/
theorem entries_admitted (capacity : Nat) (enabled : Bool) (generation : UInt64)
    (program : List Action) :
    let start : Reuse := ⟨.new capacity enabled, generation⟩
    ((start.trail 0 program).getLast?.map Prod.snd).getD start = (start.run program).2 ∧
      (∀ before event state rest, start.trail 0 program = before ++ (event, state) :: rest →
        (state.cache.enabled = false → state.cache.entries = []) ∧
          ∀ entry ∈ state.cache.entries, Stored (before ++ [(event, state)]) entry) ∧
      ∀ (reuse : Reuse) (key : Fingerprint) (cacheable : Bool) (during : List Action)
        (outcome : Except Fault Rows), cacheable = false ∨ reuse.cache.enabled = false →
          let asked : Reuse := { reuse with cache := reuse.cache.countMiss }
          asked.cache.entries = reuse.cache.entries ∧
            reuse.step (.lookup key cacheable during outcome) =
              (.looked outcome (some (asked.run during).1) (asked.run during).2,
                (asked.run during).2) := by
  intro start
  have empty : Admissible [] start := by
    refine ⟨fun _ => rfl, ?_, ?_⟩
    · intro entry member
      cases member
    · intro before event state rest split
      simp at split
  have admissible : Admissible (start.trail 0 program) (start.run program).2 :=
    admissible_run empty rfl program
  refine ⟨start.getLast?_trail 0 program, admissible.past, ?_⟩
  intro reuse key cacheable during outcome bypassed asked
  exact ⟨rfl, step_of_bypass bypassed key during outcome⟩

/-- The body of a lookup switches reuse off, asks for its own key in vain, and switches reuse on
again; the lookup behind it is not cacheable. -/
def switchedWhileAsked (key : Fingerprint) : List Action :=
  [.lookup key true
      [.setEnabled false, .lookup key true [] (.ok [[.int 1]]), .setEnabled true]
      (.ok [[.int 2]]),
    .lookup key false [.clear] (.error .databaseClosed)]

/-- What a body answers is kept if reuse is switched on when it comes back. -/
example : let start : Reuse := ⟨.new 2 true, 0⟩
    let key : Fingerprint := ⟨"SELECT N FROM T", []⟩
    (start.trail 0 (switchedWhileAsked key)).map (·.2.cache.entries) =
      [[], [], [], [], [], [⟨key, [[.int 2]], 0⟩], [⟨key, [[.int 2]], 0⟩], [], []] := by
  decide +kernel

end Reuse

end DurableStore
