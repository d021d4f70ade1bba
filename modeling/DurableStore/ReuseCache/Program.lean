import DurableStore.ReuseCache

/-!
Programs over one reuse cache and its generation.

The body of a lookup is itself a program: it may look up other statements, move the generation
and switch the cache, to any depth, before it answers.  `run` executes a program from a state and
reports, for each step, what it answered and the state it left.
-/

namespace DurableStore

/-- A cache and the generation it is consulted at. -/
structure Reuse where
  cache : ReuseCache
  generation : UInt64
  deriving DecidableEq, Inhabited

namespace Reuse

/-- One step of a program. -/
inductive Action where
  /-- A lookup; on a miss the body runs `during` and then answers `outcome`. -/
  | lookup (key : Fingerprint) (cacheable : Bool) (during : List Action)
      (outcome : Except Fault Rows)
  /-- Moves the generation on by one. -/
  | bump
  /-- Sets the generation. -/
  | setGeneration (generation : UInt64)
  /-- Switches reuse on or off. -/
  | setEnabled (enabled : Bool)
  /-- Drops every entry. -/
  | clear

instance : Inhabited Action := ⟨.clear⟩

/-- What a step answered, with the state after it. -/
inductive Report where
  /-- A lookup's answer, and the reports of its body if that ran. -/
  | looked (rows : Except Fault Rows) (body : Option (List Report)) (after : Reuse)
  /-- The new generation. -/
  | bumped (generation : UInt64) (after : Reuse)
  /-- Nothing to tell. -/
  | done (after : Reuse)

/-- Switches reuse on or off. -/
def setEnabled (reuse : Reuse) (enabled : Bool) : Reuse :=
  { reuse with cache := reuse.cache.setEnabled enabled }

/-- Looks up a statement's rows. -/
def lookup (reuse : Reuse) (key : Fingerprint) (cacheable : Bool) : ReuseCache.Lookup × Reuse :=
  let (found, cache) := reuse.cache.lookup key cacheable reuse.generation
  (found, { reuse with cache })

/-- Keeps a body's rows if the lookup allowed it and nothing changed since. -/
def keep (reuse : Reuse) (key : Fingerprint) (found : ReuseCache.Lookup)
    (outcome : Except Fault Rows) : Reuse :=
  match outcome with
  | .ok rows => { reuse with cache := reuse.cache.keep key found reuse.generation rows }
  | .error _ => reuse

mutual

/-- Executes one step. -/
def step (reuse : Reuse) : Action → Report × Reuse
  | .lookup key cacheable during outcome =>
    let (found, reuse) := reuse.lookup key cacheable
    match found with
    | .hit rows => (.looked (.ok rows) none reuse, reuse)
    | .miss _ | .bypass =>
      let (body, reuse) := run reuse during
      let reuse := reuse.keep key found outcome
      (.looked outcome (some body) reuse, reuse)
  | .bump =>
    let reuse := { reuse with generation := reuse.generation + 1 }
    (.bumped reuse.generation reuse, reuse)
  | .setGeneration generation =>
    let reuse := { reuse with generation }
    (.done reuse, reuse)
  | .setEnabled enabled =>
    let reuse := reuse.setEnabled enabled
    (.done reuse, reuse)
  | .clear =>
    let reuse := { reuse with cache := reuse.cache.clear }
    (.done reuse, reuse)

/-- Executes a program. -/
def run (reuse : Reuse) : List Action → List Report × Reuse
  | [] => ([], reuse)
  | action :: rest =>
    let (report, reuse) := step reuse action
    let (reports, reuse) := run reuse rest
    (report :: reports, reuse)

end

end Reuse

end DurableStore
