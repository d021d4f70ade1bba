import DurableStore.Fault
import DurableStore.Statement

/-!
Results kept for reuse.

An entry may be reused only at the generation it was captured at, and the generation moves with
every committed write.  Looking up and keeping are separate steps, so anything may happen while a
statement body runs in between; its rows are kept only if the generation did not move meanwhile.
Stale entries stay until a lookup finds them or newer entries push them out.
-/

namespace DurableStore

/-- Rows captured for a statement. -/
structure CacheEntry where
  key : Fingerprint
  rows : Rows
  /-- The generation the rows were captured at. -/
  generation : UInt64
  deriving DecidableEq, Inhabited

/-- A bounded set of captured rows. -/
structure ReuseCache where
  /-- The most entries that are kept. -/
  capacity : Nat
  /-- Rows are reused and kept. -/
  enabled : Bool
  /-- Lookups answered from an entry, counted in 64 bits. -/
  hits : UInt64 := 0
  /-- Lookups whose statement body ran, counted in 64 bits. -/
  misses : UInt64 := 0
  /-- The entries, most recently used first. -/
  entries : List CacheEntry := []
  deriving DecidableEq, Inhabited

namespace ReuseCache

/-- No entries, and room for at least one. -/
def new (capacity : Nat) (enabled : Bool) : ReuseCache :=
  { capacity := max capacity 1, enabled }

/-- The entry for a key. -/
def find? (cache : ReuseCache) (key : Fingerprint) : Option CacheEntry :=
  cache.entries.find? fun entry => entry.key = key

/-- The entries for other keys. -/
def others (cache : ReuseCache) (key : Fingerprint) : List CacheEntry :=
  cache.entries.filter fun entry => entry.key ≠ key

/-- Makes an entry the most recently used one; the least recently used ones give way. -/
def promote (cache : ReuseCache) (entry : CacheEntry) : ReuseCache :=
  { cache with entries := entry :: (cache.others entry.key).take (cache.capacity - 1) }

/-- No entries. -/
def clear (cache : ReuseCache) : ReuseCache :=
  { cache with entries := [] }

/-- Switches reuse on or off; switching it off drops every entry. -/
def setEnabled (cache : ReuseCache) (enabled : Bool) : ReuseCache :=
  let switched := { cache with enabled }
  if cache.enabled && !enabled then switched.clear else switched

/-- Counts a lookup whose statement body has to run. -/
def countMiss (cache : ReuseCache) : ReuseCache :=
  { cache with misses := cache.misses + 1 }

/-- What a lookup finds. -/
inductive Lookup where
  /-- Rows captured at the current generation. -/
  | hit (rows : Rows)
  /-- Nothing; the body's rows may be kept if the generation is still this one. -/
  | miss (generation : UInt64)
  /-- The cache was not consulted and the body's rows will not be kept. -/
  | bypass
  deriving DecidableEq

/-- Looks up a statement's rows at the current generation.  A stale entry is dropped. -/
def lookup (cache : ReuseCache) (key : Fingerprint) (cacheable : Bool) (generation : UInt64) :
    Lookup × ReuseCache :=
  if cacheable && cache.enabled then
    match cache.find? key with
    | some entry =>
      if entry.generation = generation then
        (.hit entry.rows, { cache.promote entry with hits := cache.hits + 1 })
      else (.miss generation, { cache with entries := cache.others key }.countMiss)
    | none => (.miss generation, cache.countMiss)
  else (.bypass, cache.countMiss)

/-- Keeps a body's rows if the lookup allowed it and nothing changed since. -/
def keep (cache : ReuseCache) (key : Fingerprint) (found : Lookup) (generation : UInt64)
    (rows : Rows) : ReuseCache :=
  match found with
  | .miss before =>
    if generation = before ∧ cache.enabled then cache.promote ⟨key, rows, before⟩ else cache
  | .hit _ | .bypass => cache

end ReuseCache

end DurableStore
