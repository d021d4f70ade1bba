import DurableStore.ReuseCache

/-!
Which rows may be reused.

The generation is a counter that wraps, so an entry tagged with the current generation is only
known to be current if there were too few commits for the counter to come around.  `Aged` keeps the
number of commits that each entry is behind; an entry that is behind by none has the rows that its
statement would yield now (`Aged.current`).  Which entries an operation leaves is said once
(`lookup_cases`, `keep_cases`, `setEnabled_subset`); so looking up, keeping, dropping and committing
keep entries aged.
-/

namespace DurableStore

namespace ReuseCache

variable {τ : Type} {scan : Fingerprint → τ → Except Fault Rows} {commits : Nat}
  {generation : UInt64} {tables : τ} {cache : ReuseCache}

/-! ## What operations leave -/

theorem find?_eq_some {key : Fingerprint} {entry : CacheEntry}
    (found : cache.find? key = some entry) : entry ∈ cache.entries ∧ entry.key = key := by
  unfold find? at found
  have matched := List.find?_some found
  simp only [decide_eq_true_eq] at matched
  exact ⟨List.mem_of_find?_eq_some found, matched⟩

theorem others_subset (cache : ReuseCache) (key : Fingerprint) :
    cache.others key ⊆ cache.entries := by
  intro entry member
  exact (List.mem_filter.1 member).1

theorem mem_promote {entry other : CacheEntry} (member : other ∈ (cache.promote entry).entries) :
    other = entry ∨ other ∈ cache.entries := by
  rcases List.mem_cons.1 member with same | kept
  · exact .inl same
  · exact .inr (cache.others_subset entry.key (List.mem_of_mem_take kept))

theorem promote_subset {entry : CacheEntry} (member : entry ∈ cache.entries) :
    (cache.promote entry).entries ⊆ cache.entries := by
  intro other kept
  rcases mem_promote kept with rfl | old
  · exact member
  · exact old

/-- **A lookup** is answered from an entry of the generation, or leaves no new entry. -/
theorem lookup_cases (cache : ReuseCache) (key : Fingerprint) (cacheable : Bool)
    (generation : UInt64) :
    (∃ entry ∈ cache.entries, entry.key = key ∧ entry.generation = generation ∧
        cacheable = true ∧ cache.lookup key cacheable generation =
          (.hit entry.rows, { cache.promote entry with hits := cache.hits + 1 })) ∨
      ∃ found after, cache.lookup key cacheable generation = (found, after) ∧
        (found = .miss generation ∧ cacheable = true ∨ found = .bypass) ∧
        after.entries ⊆ cache.entries := by
  unfold lookup
  split
  next consults =>
    obtain ⟨cacheable, -⟩ := Bool.and_eq_true_iff.1 consults
    split
    next entry found =>
      obtain ⟨member, named⟩ := find?_eq_some found
      split
      next tagged => exact .inl ⟨entry, member, named, tagged, cacheable, rfl⟩
      next => exact .inr ⟨_, _, rfl, .inl ⟨rfl, cacheable⟩, cache.others_subset key⟩
    next => exact .inr ⟨_, _, rfl, .inl ⟨rfl, cacheable⟩, List.Subset.refl _⟩
  next => exact .inr ⟨_, _, rfl, .inr rfl, List.Subset.refl _⟩

theorem lookup_subset (cache : ReuseCache) (key : Fingerprint) (cacheable : Bool)
    (generation : UInt64) : (cache.lookup key cacheable generation).2.entries ⊆ cache.entries := by
  rcases cache.lookup_cases key cacheable generation with
    ⟨entry, member, -, -, -, same⟩ | ⟨found, after, same, -, subset⟩
  · rw [same]
    exact promote_subset member
  · rw [same]
    exact subset

theorem lookup_of_disabled (disabled : cache.enabled = false) (key : Fingerprint) (cacheable : Bool)
    (generation : UInt64) : cache.lookup key cacheable generation = (.bypass, cache.countMiss) := by
  unfold ReuseCache.lookup
  rw [disabled, Bool.and_false]
  rfl

/-- Keeping rows leaves the cache as it is, or puts an entry in front while reuse is switched on. -/
theorem keep_cases (cache : ReuseCache) (key : Fingerprint) (found : Lookup) (generation : UInt64)
    (rows : Rows) :
    cache.keep key found generation rows = cache ∨
      found = .miss generation ∧ cache.enabled = true ∧
        cache.keep key found generation rows = cache.promote ⟨key, rows, generation⟩ := by
  cases found with
  | hit | bypass => exact .inl rfl
  | miss generation =>
    unfold keep
    simp only
    split
    next unmoved =>
      obtain ⟨rfl, enabled⟩ := unmoved
      exact .inr ⟨rfl, enabled, rfl⟩
    next => exact .inl rfl

/-- The only entry that keeping may add is one of the current generation, after a miss at it. -/
theorem mem_keep {key : Fingerprint} {found : Lookup} {rows : Rows} {entry : CacheEntry}
    (member : entry ∈ (cache.keep key found generation rows).entries) :
    entry ∈ cache.entries ∨ found = .miss generation ∧ entry = ⟨key, rows, generation⟩ := by
  rcases cache.keep_cases key found generation rows with same | ⟨missed, -, kept⟩
  · rw [same] at member
    exact .inl member
  · rw [kept] at member
    rcases mem_promote member with same | old
    · exact .inr ⟨missed, same⟩
    · exact .inl old

theorem setEnabled_subset (cache : ReuseCache) (enabled : Bool) :
    (cache.setEnabled enabled).entries ⊆ cache.entries := by
  unfold setEnabled
  simp only
  split
  next => exact List.nil_subset _
  next => exact List.Subset.refl _

/-! ## Ages -/

/-- Each entry is at most `commits` commits behind, and if it is behind by none its rows are those
that its statement yields. -/
def Aged (scan : Fingerprint → τ → Except Fault Rows) (commits : Nat) (generation : UInt64)
    (tables : τ) (cache : ReuseCache) : Prop :=
  ∀ entry ∈ cache.entries, ∃ age, age ≤ commits ∧
    generation = entry.generation + UInt64.ofNat age ∧
    (age = 0 → scan entry.key tables = .ok entry.rows)

theorem aged_new (scan : Fingerprint → τ → Except Fault Rows) (commits : Nat) (generation : UInt64)
    (tables : τ) (capacity : Nat) (enabled : Bool) :
    Aged scan commits generation tables (.new capacity enabled) := by
  intro entry member
  cases member

/-- Dropping entries keeps the others aged. -/
theorem Aged.of_subset (h : Aged scan commits generation tables cache) {other : ReuseCache}
    (subset : other.entries ⊆ cache.entries) : Aged scan commits generation tables other :=
  fun entry member => h entry (subset member)

/-- A commit leaves every entry behind. -/
theorem Aged.commit (h : Aged scan commits generation tables cache) (changed : τ) :
    Aged scan (commits + 1) (generation + 1) changed cache := by
  intro entry member
  obtain ⟨age, recent, same, -⟩ := h entry member
  refine ⟨age + 1, Nat.succ_le_succ recent, ?_, ?_⟩
  · rw [same, UInt64.ofNat_add, UInt64.add_assoc]
    rfl
  · intro none
    cases none

/-- A generation that is back where it was did not move, unless it came around. -/
theorem not_moved {age : Nat} (few : age < UInt64.size)
    (back : generation = generation + UInt64.ofNat age) : age = 0 := by
  -- The age is a multiple of the period of the generation, and too small not to be zero.
  have wraps : (0 : UInt64) = UInt64.ofNat age := by
    rw [← UInt64.add_right_inj generation, UInt64.add_zero]
    exact back
  replace wraps := congrArg UInt64.toNat wraps
  rw [UInt64.toNat_ofNat'] at wraps
  have zero : (0 : UInt64).toNat = 0 := rfl
  have period : UInt64.size = 2 ^ 64 := rfl
  omega

/-- **An entry of the current generation is current** if the generation has not come around. -/
theorem Aged.current (h : Aged scan commits generation tables cache) (few : commits < UInt64.size)
    {entry : CacheEntry} (member : entry ∈ cache.entries)
    (tagged : entry.generation = generation) : scan entry.key tables = .ok entry.rows := by
  obtain ⟨age, recent, same, current⟩ := h entry member
  rw [tagged] at same
  exact current (not_moved (by omega) same)

theorem Aged.promote (h : Aged scan commits generation tables cache) {entry : CacheEntry}
    (tagged : entry.generation = generation) (current : scan entry.key tables = .ok entry.rows) :
    Aged scan commits generation tables (cache.promote entry) := by
  intro other member
  rcases mem_promote member with rfl | old
  · refine ⟨0, Nat.zero_le commits, ?_, fun _ => current⟩
    rw [tagged]
    exact (UInt64.add_zero generation).symm
  · exact h other old

/-- What a lookup finds is current, and it leaves the entries aged. -/
theorem Aged.lookup (h : Aged scan commits generation tables cache) (few : commits < UInt64.size)
    (key : Fingerprint) (cacheable : Bool) :
    Aged scan commits generation tables (cache.lookup key cacheable generation).2 ∧
      ((∃ rows, (cache.lookup key cacheable generation).1 = .hit rows ∧ cacheable = true ∧
          scan key tables = .ok rows) ∨
        (cache.lookup key cacheable generation).1 = .miss generation ∧ cacheable = true ∨
        (cache.lookup key cacheable generation).1 = .bypass) := by
  rcases cache.lookup_cases key cacheable generation with
    ⟨entry, member, rfl, tagged, cacheable, same⟩ | ⟨found, after, same, missed, subset⟩
  · rw [same]
    have current := h.current few member tagged
    exact ⟨h.promote tagged current, .inl ⟨entry.rows, rfl, cacheable, current⟩⟩
  · rw [same]
    exact ⟨h.of_subset subset, .inr missed⟩

/-- Keeping what a statement yields leaves the entries aged. -/
theorem Aged.keep (h : Aged scan commits generation tables cache) {key : Fingerprint}
    {found : Lookup} {rows : Rows}
    (current : found = .miss generation → scan key tables = .ok rows) :
    Aged scan commits generation tables (cache.keep key found generation rows) := by
  intro entry member
  rcases mem_keep member with old | ⟨missed, rfl⟩
  · exact h entry old
  · refine ⟨0, Nat.zero_le commits, ?_, fun _ => current missed⟩
    exact (UInt64.add_zero generation).symm

end ReuseCache

end DurableStore
