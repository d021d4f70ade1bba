import Mathlib.Data.Finset.Card
import Mathlib.Data.Finset.Dedup
import Mathlib.Data.List.TakeWhile
import DurableStore.ReuseCache.Program
import DurableStore.Proofs.ReuseCache.Aged

/-!
When a bounded reuse cache is hit.

In a program whose lookups are not nested, the entries are those of the keys that were consulted
last, stale ones included: a lookup puts its key in front, whether it hits, misses or finds a stale
entry, and what is behind the capacity is lost (`recency`).  An entry is of the current generation
if its key was consulted since the generation last moved.  `Tracks` says both; every step keeps it
(`Tracks.step`), and the law of reuse is read off it (`reuse_law`).
-/

namespace DurableStore

/-! ## Keys by recency -/

section Recency

variable {κ : Type} [DecidableEq κ]

/-- The distinct keys of a history, both with the latest one first. -/
def recency : List κ → List κ
  | [] => []
  | key :: earlier => key :: (recency earlier).filter (· ≠ key)

variable {key other : κ} {history keys : List κ}

@[simp] theorem recency_cons (key : κ) (earlier : List κ) :
    recency (key :: earlier) = key :: (recency earlier).filter (· ≠ key) := rfl

@[simp] theorem mem_recency : key ∈ recency history ↔ key ∈ history := by
  induction history with
  | nil => rfl
  | cons latest earlier ih =>
    by_cases same : key = latest
    · simp [same]
    · simp [same, ih]

theorem nodup_recency (history : List κ) : (recency history).Nodup := by
  induction history with
  | nil => exact List.nodup_nil
  | cons latest earlier ih =>
    rw [recency_cons, List.nodup_cons]
    exact ⟨by simp, ih.filter _⟩

/-- The keys in front of a key are those that came after it. -/
theorem mem_takeWhile_recency :
    other ∈ (recency history).takeWhile (· ≠ key) ↔ other ∈ history.takeWhile (· ≠ key) := by
  induction history with
  | nil => rfl
  | cons latest earlier ih =>
    by_cases same : latest = key
    · simp [same]
    · -- Taking the latest key out from among the earlier ones leaves `key` where it is.
      have stays : ((recency earlier).filter (· ≠ latest)).takeWhile (· ≠ key) =
          ((recency earlier).takeWhile (· ≠ key)).filter (· ≠ latest) := by
        rw [List.takeWhile_filter]
        congr 2
        funext member
        by_cases first : member = latest
        · simp [first, same]
        · simp [first]
      rw [recency_cons, List.takeWhile_cons_of_pos (by simp [same]),
        List.takeWhile_cons_of_pos (by simp [same]), stays, List.mem_cons, List.mem_cons,
        List.mem_filter, ih]
      by_cases first : other = latest
      · simp [first]
      · simp [first]

theorem mem_take_iff {room : Nat} :
    key ∈ keys.take room ↔ key ∈ keys ∧ (keys.takeWhile (· ≠ key)).length < room := by
  induction keys generalizing room with
  | nil => simp
  | cons first rest ih =>
    cases room with
    | zero => simp
    | succ room =>
      by_cases same : first = key
      · simp [same]
      · simp [same, Ne.symm same, ih]

/-- **A key is among the first ones** if few other keys came after it. -/
theorem mem_take_recency {room : Nat} :
    key ∈ (recency history).take room ↔
      key ∈ history ∧ (history.takeWhile (· ≠ key)).toFinset.card < room := by
  have distinct : ((recency history).takeWhile (· ≠ key)).Nodup :=
    (nodup_recency history).sublist (List.takeWhile_sublist _)
  have same : (history.takeWhile (· ≠ key)).toFinset =
      ((recency history).takeWhile (· ≠ key)).toFinset := by
    ext other
    rw [List.mem_toFinset, List.mem_toFinset, mem_takeWhile_recency]
  rw [mem_take_iff, mem_recency, same, List.toFinset_card_of_nodup distinct]

/-- What was lost behind the last place does not come back when a key is taken out. -/
theorem take_filter_take (distinct : keys.Nodup) (key : κ) (room : Nat) :
    ((keys.take (room + 1)).filter (· ≠ key)).take room = (keys.filter (· ≠ key)).take room := by
  induction keys generalizing room with
  | nil => simp
  | cons first rest ih =>
    obtain ⟨once, distinct⟩ := List.nodup_cons.1 distinct
    by_cases same : first = key
    · -- The key is in no other place, so taking it out moves the others up by one.
      subst same
      have kept : ∀ keys : List κ, keys ⊆ rest → keys.filter (· ≠ first) = keys := by
        intro keys subset
        rw [List.filter_eq_self]
        intro member there
        have apart : member ≠ first := fun same => once (same ▸ subset there)
        simp [apart]
      rw [List.take_succ_cons, List.filter_cons_of_neg (by simp),
        List.filter_cons_of_neg (by simp), kept _ (List.take_subset _ _),
        kept _ (List.Subset.refl _), List.take_take, Nat.min_self]
    · rw [List.take_succ_cons, List.filter_cons_of_pos (by simp [same]),
        List.filter_cons_of_pos (by simp [same])]
      cases room with
      | zero => rfl
      | succ room => rw [List.take_succ_cons, List.take_succ_cons, ih distinct]

end Recency

namespace Reuse

/-! ## Programs without nested lookups -/

/-- A lookup whose body does nothing but answer, with rows if these may be kept, or a move of the
generation. -/
def Action.isPlain : Action → Bool
  | .lookup _ cacheable [] outcome => !cacheable || outcome.isOk
  | .bump => true
  | _ => false

/-- The action is a lookup. -/
def Action.isLookup : Action → Bool
  | .lookup _ _ _ _ => true
  | _ => false

/-- The action moves the generation on. -/
def Action.isBump : Action → Bool
  | .bump => true
  | _ => false

/-- The key of a cacheable lookup. -/
def Action.consulted? : Action → Option Fingerprint
  | .lookup key true _ _ => some key
  | _ => none

/-- A lookup was answered without its body. -/
def Report.isServed : Report → Bool
  | .looked _ none _ => true
  | _ => false

/-- The body of a lookup ran. -/
def Report.ran : Report → Bool
  | .looked _ (some _) _ => true
  | _ => false

/-- The keys of the cacheable lookups. -/
def consulted (past : List Action) : List Fingerprint :=
  past.filterMap Action.consulted?

/-- What was done since the generation last moved, `past` having the latest action first. -/
def sinceMoved (past : List Action) : List Action :=
  past.takeWhile (!·.isBump)

/-- Rows for `key` can be reused: the key was consulted since the generation last moved, and after
that fewer other keys than there is room for entries. -/
def Reusable (capacity : Nat) (past : List Action) (key : Fingerprint) : Prop :=
  key ∈ consulted (sinceMoved past) ∧
    ((consulted past).takeWhile (· ≠ key)).toFinset.card < capacity

instance (capacity : Nat) (past : List Action) (key : Fingerprint) :
    Decidable (Reusable capacity past key) :=
  inferInstanceAs (Decidable (_ ∧ _))

variable {reuse : Reuse} {key : Fingerprint} {action : Action} {past : List Action}
  {capacity : Nat} {outcome : Except Fault Rows}

/-- What a plain action comes to while reuse is switched on. -/
inductive Turn (reuse : Reuse) : Action → Report × Reuse → Prop
  /-- The rows of an entry of the current generation are served. -/
  | served {key : Fingerprint} {outcome : Except Fault Rows} {entry : CacheEntry} {after : Reuse}
      (found : reuse.cache.find? key = some entry) (current : entry.generation = reuse.generation)
      (given : after =
        { reuse with cache := { reuse.cache.promote entry with hits := reuse.cache.hits + 1 } }) :
      Turn reuse (.lookup key true [] outcome) (.looked (.ok entry.rows) none after, after)
  /-- The body's rows are kept, in the place of a stale entry if there is one. -/
  | captured {key : Fingerprint} {rows : Rows} {after : Reuse}
      (stale : ∀ entry, reuse.cache.find? key = some entry → entry.generation ≠ reuse.generation)
      (given : after =
        { reuse with cache := (reuse.cache.promote ⟨key, rows, reuse.generation⟩).countMiss }) :
      Turn reuse (.lookup key true [] (.ok rows)) (.looked (.ok rows) (some []) after, after)
  /-- The entries are not asked. -/
  | bypassed {key : Fingerprint} {outcome : Except Fault Rows} {after : Reuse}
      (given : after = { reuse with cache := reuse.cache.countMiss }) :
      Turn reuse (.lookup key false [] outcome) (.looked outcome (some []) after, after)
  /-- The generation moves on. -/
  | bumped {after : Reuse} (given : after = { reuse with generation := reuse.generation + 1 }) :
      Turn reuse .bump (.bumped after.generation after, after)

/-- A body that does nothing leaves room for its rows, which are then kept. -/
theorem keep_looked (looked : ReuseCache) (generation : UInt64) (key : Fingerprint) (rows : Rows)
    (enabled : looked.enabled = true) :
    (⟨looked, generation⟩ : Reuse).keep key (.miss generation) (.ok rows) =
      ⟨looked.promote ⟨key, rows, generation⟩, generation⟩ := by
  simp [Reuse.keep, ReuseCache.keep, enabled]

/-- **Every plain action** takes one of these turns. -/
theorem turn_step (plain : action.isPlain = true) (enabled : reuse.cache.enabled = true) :
    Turn reuse action (reuse.step action) := by
  cases action with
  | bump => exact .bumped rfl
  | setGeneration | setEnabled | clear => cases plain
  | lookup key cacheable during outcome =>
    cases during with
    | cons => cases plain
    | nil =>
      cases cacheable with
      | false =>
        have given : reuse.step (.lookup key false [] outcome) =
            (.looked outcome (some []) { reuse with cache := reuse.cache.countMiss },
              { reuse with cache := reuse.cache.countMiss }) := by
          cases outcome <;> rfl
        rw [given]
        exact .bypassed rfl
      | true =>
        cases outcome with
        | error => cases plain
        | ok rows =>
          have consults : (true && reuse.cache.enabled) = true := enabled
          unfold step Reuse.lookup ReuseCache.lookup
          rw [if_pos consults]
          cases found : reuse.cache.find? key with
          | none =>
            simp only [run]
            rw [keep_looked reuse.cache.countMiss reuse.generation key rows enabled]
            exact .captured (fun entry there => by rw [found] at there; cases there) rfl
          | some entry =>
            by_cases current : entry.generation = reuse.generation
            · simp only [current, if_true]
              exact .served found current rfl
            · simp only [current, if_false, run]
              rw [keep_looked ({ reuse.cache with entries := reuse.cache.others key } :
                ReuseCache).countMiss reuse.generation key rows enabled]
              refine .captured ?_ ?_
              · intro other there
                rw [found] at there
                cases there
                exact current
              · -- The stale entry is gone before its successor comes.
                simp [ReuseCache.promote, ReuseCache.others, ReuseCache.countMiss]

/-! ## Entries by recency -/

/-- The entries are those of the keys consulted last, and those of the keys consulted since the
generation last moved are of the current generation. -/
structure Tracks (capacity : Nat) (past : List Action) (reuse : Reuse) : Prop where
  enabled : reuse.cache.enabled = true
  room : reuse.cache.capacity = capacity
  keys : reuse.cache.entries.map CacheEntry.key = (recency (consulted past)).take capacity
  ages : ∀ entry ∈ reuse.cache.entries, ∃ age ≤ past.countP Action.isBump,
    reuse.generation = entry.generation + UInt64.ofNat age ∧
      (age = 0 ↔ entry.key ∈ consulted (sinceMoved past))

theorem find?_of_mem_keys {cache : ReuseCache} (there : key ∈ cache.entries.map CacheEntry.key) :
    ∃ entry, cache.find? key = some entry := by
  obtain ⟨entry, member, same⟩ := List.mem_map.1 there
  apply Option.isSome_iff_exists.1
  unfold ReuseCache.find?
  rw [List.find?_isSome]
  exact ⟨entry, member, by simp [same]⟩

namespace Tracks

theorem new (positive : 1 ≤ capacity) (generation : UInt64) :
    Tracks capacity [] ⟨.new capacity true, generation⟩ := by
  refine ⟨rfl, ?_, List.take_nil.symm, ?_⟩
  · show max capacity 1 = capacity
    omega
  · intro entry member
    cases member

theorem length_entries_le (h : Tracks capacity past reuse) :
    reuse.cache.entries.length ≤ capacity := by
  have total := congrArg List.length h.keys
  rw [List.length_map, List.length_take] at total
  omega

/-- **A key has an entry of the current generation** if and only if its rows can be reused. -/
theorem current_iff (h : Tracks capacity past reuse)
    (few : past.countP Action.isBump < UInt64.size) (key : Fingerprint) :
    (∃ entry, reuse.cache.find? key = some entry ∧ entry.generation = reuse.generation) ↔
      Reusable capacity past key := by
  constructor
  · rintro ⟨entry, found, current⟩
    obtain ⟨member, rfl⟩ := ReuseCache.find?_eq_some found
    have held : entry.key ∈ (recency (consulted past)).take capacity := by
      rw [← h.keys]
      exact List.mem_map_of_mem member
    obtain ⟨age, recent, same, unmoved⟩ := h.ages entry member
    rw [current] at same
    exact ⟨unmoved.1 (ReuseCache.not_moved (by omega) same), (mem_take_recency.1 held).2⟩
  · rintro ⟨since, room⟩
    have before : key ∈ consulted past := by
      obtain ⟨action, member, named⟩ := List.mem_filterMap.1 since
      exact List.mem_filterMap.2 ⟨action, (List.takeWhile_subset _) member, named⟩
    have held : key ∈ reuse.cache.entries.map CacheEntry.key := by
      rw [h.keys]
      exact mem_take_recency.2 ⟨before, room⟩
    obtain ⟨entry, found⟩ := find?_of_mem_keys held
    obtain ⟨member, rfl⟩ := ReuseCache.find?_eq_some found
    obtain ⟨age, -, same, unmoved⟩ := h.ages entry member
    rw [unmoved.2 since] at same
    refine ⟨entry, found, ?_⟩
    rw [same]
    exact (UInt64.add_zero _).symm

/-- An entry of the current generation comes to the front. -/
theorem promote (h : Tracks capacity past reuse) (positive : 1 ≤ capacity) {after : Reuse}
    (fresh : CacheEntry) (tagged : fresh.generation = reuse.generation)
    (enabled : after.cache.enabled = reuse.cache.enabled)
    (room : after.cache.capacity = reuse.cache.capacity)
    (still : after.generation = reuse.generation)
    (entries : after.cache.entries = (reuse.cache.promote fresh).entries) :
    Tracks capacity (.lookup fresh.key true [] outcome :: past) after := by
  refine ⟨enabled.trans h.enabled, room.trans h.room, ?_, ?_⟩
  · obtain ⟨places, rfl⟩ : ∃ places, capacity = places + 1 := ⟨capacity - 1, by omega⟩
    have others : (reuse.cache.others fresh.key).map CacheEntry.key =
        (reuse.cache.entries.map CacheEntry.key).filter (· ≠ fresh.key) := by
      rw [List.filter_map]
      rfl
    rw [entries, ReuseCache.promote, h.room, List.map_cons, List.map_take, others, h.keys,
      Nat.add_sub_cancel, take_filter_take (nodup_recency _)]
    rfl
  · intro entry member
    rw [entries] at member
    rcases List.mem_cons.1 member with rfl | kept
    · refine ⟨0, Nat.zero_le _, ?_, ?_⟩
      · rw [still, tagged]
        exact (UInt64.add_zero _).symm
      · exact iff_of_true rfl List.mem_cons_self
    · obtain ⟨old, apart⟩ := List.mem_filter.1 (List.mem_of_mem_take kept)
      obtain ⟨age, recent, same, unmoved⟩ := h.ages entry old
      have apart : entry.key ≠ fresh.key := by simpa using apart
      refine ⟨age, ?_, still ▸ same, unmoved.trans ?_⟩
      · rw [List.countP_cons]
        omega
      · show _ ↔ entry.key ∈ fresh.key :: consulted (sinceMoved past)
        simp [apart]

/-- **Every plain action** leaves the entries in the order of recency. -/
theorem step (h : Tracks capacity past reuse) (positive : 1 ≤ capacity)
    (plain : action.isPlain = true) : Tracks capacity (action :: past) (reuse.step action).2 := by
  have turn := turn_step plain h.enabled
  generalize reuse.step action = given at turn
  cases turn with
  | served found current given =>
    obtain ⟨-, rfl⟩ := ReuseCache.find?_eq_some found
    subst given
    exact h.promote positive _ current rfl rfl rfl rfl
  | captured stale given =>
    subst given
    exact h.promote positive ⟨_, _, reuse.generation⟩ rfl rfl rfl rfl rfl
  | bypassed given =>
    subst given
    refine ⟨h.enabled, h.room, h.keys, ?_⟩
    intro entry member
    obtain ⟨age, recent, rest⟩ := h.ages entry member
    exact ⟨age, by rw [List.countP_cons]; omega, rest⟩
  | bumped given =>
    subst given
    refine ⟨h.enabled, h.room, h.keys, ?_⟩
    intro entry member
    obtain ⟨age, recent, same, -⟩ := h.ages entry member
    refine ⟨age + 1, ?_, ?_, ?_⟩
    · rw [List.countP_cons_of_pos rfl]
      omega
    · show reuse.generation + 1 = _
      rw [same, UInt64.ofNat_add, UInt64.add_assoc]
      rfl
    · -- Nothing was consulted since, so every entry is behind.
      exact iff_of_false (by omega) (by simp [sinceMoved, consulted, Action.isBump])

theorem run (h : Tracks capacity past reuse) (positive : 1 ≤ capacity) {program : List Action}
    (plain : ∀ action ∈ program, action.isPlain = true) :
    Tracks capacity (program.reverse ++ past) (reuse.run program).2 := by
  induction program generalizing reuse past with
  | nil => exact h
  | cons action rest ih =>
    have stepped := h.step positive (plain action List.mem_cons_self)
    rw [Reuse.run, List.reverse_cons, List.append_assoc]
    exact ih stepped fun other member => plain other (List.mem_cons_of_mem _ member)

end Tracks

/-! ## Counters -/

/-- A turn that looks something up counts a hit or a miss, and a miss if and only if a body ran. -/
theorem Turn.counts {given : Report × Reuse} (h : Turn reuse action given) :
    given.2.cache.hits + given.2.cache.misses =
        reuse.cache.hits + reuse.cache.misses + UInt64.ofNat action.isLookup.toNat ∧
      given.2.cache.misses = reuse.cache.misses + UInt64.ofNat given.1.ran.toNat := by
  cases h with
  | served found current given =>
    subst given
    refine ⟨?_, (UInt64.add_zero _).symm⟩
    show reuse.cache.hits + 1 + reuse.cache.misses = reuse.cache.hits + reuse.cache.misses + 1
    rw [UInt64.add_assoc, UInt64.add_comm 1, UInt64.add_assoc]
  | captured stale given =>
    subst given
    exact ⟨(UInt64.add_assoc ..).symm, rfl⟩
  | bypassed given =>
    subst given
    exact ⟨(UInt64.add_assoc ..).symm, rfl⟩
  | bumped given =>
    subst given
    exact ⟨(UInt64.add_zero _).symm, (UInt64.add_zero _).symm⟩

theorem ofNat_countP_cons {α : Type} (counts : α → Bool) (first : α) (rest : List α) :
    UInt64.ofNat ((first :: rest).countP counts) =
      UInt64.ofNat (counts first).toNat + UInt64.ofNat (rest.countP counts) := by
  rw [← UInt64.ofNat_add, List.countP_cons, Nat.add_comm]
  cases counts first <;> rfl

/-- **The counters** of a program add up to its lookups, and the misses are the bodies that ran, all
of them counted in 64 bits. -/
theorem Tracks.counts (h : Tracks capacity past reuse) (positive : 1 ≤ capacity)
    {program : List Action} (plain : ∀ action ∈ program, action.isPlain = true) :
    (reuse.run program).2.cache.hits + (reuse.run program).2.cache.misses =
        reuse.cache.hits + reuse.cache.misses + UInt64.ofNat (program.countP Action.isLookup) ∧
      (reuse.run program).2.cache.misses =
        reuse.cache.misses + UInt64.ofNat ((reuse.run program).1.countP Report.ran) := by
  induction program generalizing reuse past with
  | nil => exact ⟨(UInt64.add_zero _).symm, (UInt64.add_zero _).symm⟩
  | cons action rest ih =>
    have first := plain action List.mem_cons_self
    obtain ⟨looked, ran⟩ := (turn_step first h.enabled).counts
    obtain ⟨lookedRest, ranRest⟩ := ih (h.step positive first)
      fun other member => plain other (List.mem_cons_of_mem _ member)
    rw [Reuse.run]
    simp only
    rw [lookedRest, looked, ranRest, ran, ofNat_countP_cons, ofNat_countP_cons, UInt64.add_assoc,
      UInt64.add_assoc reuse.cache.misses]
    exact ⟨rfl, rfl⟩

/-- Only bodies of lookups run. -/
theorem ran_le_lookups (reuse : Reuse) (program : List Action) :
    (reuse.run program).1.countP Report.ran ≤ program.countP Action.isLookup := by
  induction program generalizing reuse with
  | nil => exact Nat.le_refl 0
  | cons action rest ih =>
    have later := ih (reuse.step action).2
    rw [Reuse.run]
    simp only [List.countP_cons]
    cases action with
    | lookup =>
      simp only [Action.isLookup, if_true]
      split <;> omega
    | _ => exact Nat.add_le_add_right later 0

/-- Counters of 64 bits tell numbers that fit them. -/
theorem toNat_counts {hits misses : UInt64} {lookups ran : Nat}
    (counted : hits + misses = UInt64.ofNat lookups) (missed : misses = UInt64.ofNat ran)
    (fewer : ran ≤ lookups) (few : lookups < UInt64.size) :
    hits.toNat + misses.toNat = lookups ∧ misses.toNat = ran := by
  have told : misses.toNat = ran := by
    rw [missed, UInt64.toNat_ofNat_of_lt' (Nat.lt_of_le_of_lt fewer few)]
  have sum := congrArg UInt64.toNat counted
  rw [UInt64.toNat_add, UInt64.toNat_ofNat_of_lt' few, told] at sum
  have bound := hits.toNat_lt
  have size : UInt64.size = 2 ^ 64 := rfl
  omega

/-! ## The law of reuse -/

theorem Turn.isServed_iff {given : Report × Reuse} {cacheable : Bool}
    (h : Turn reuse (.lookup key cacheable [] outcome) given) :
    given.1.isServed = true ↔ cacheable = true ∧
      ∃ entry, reuse.cache.find? key = some entry ∧ entry.generation = reuse.generation := by
  cases h with
  | served found current given => exact iff_of_true rfl ⟨rfl, _, found, current⟩
  | captured stale given =>
    refine iff_of_false Bool.false_ne_true ?_
    rintro ⟨-, entry, found, current⟩
    exact stale entry found current
  | bypassed given => exact iff_of_false Bool.false_ne_true (fun h => Bool.false_ne_true h.1)

theorem getElem?_run (reuse : Reuse) (program : List Action) (moment : Nat) :
    (reuse.run program).1[moment]? = program[moment]?.map fun action =>
      ((reuse.run (program.take moment)).2.step action).1 := by
  induction program generalizing reuse moment with
  | nil => rfl
  | cons action rest ih =>
    cases moment with
    | zero => rfl
    | succ moment => exact ih _ moment

/-- **When a bounded cache is hit.**  In a program of plain lookups and moves of the generation
that starts with an empty cache, a lookup is answered without its body if and only if it is
cacheable, its key was consulted since the generation last moved, and fewer other keys than there is
room for entries were consulted after that.  At every moment there are no more entries than there is
room for, every lookup is counted, and the misses are the bodies that ran.  The counters have 64
bits, so they tell these numbers themselves as long as there were fewer lookups than that. -/
theorem reuse_law {capacity : Nat} (positive : 1 ≤ capacity) (generation : UInt64)
    {program : List Action} (plain : ∀ action ∈ program, action.isPlain = true)
    (few : program.countP Action.isBump < UInt64.size) (moment : Nat) :
    let reports := (run ⟨.new capacity true, generation⟩ program).1
    let past := program.take moment
    let (reportsSoFar, now) := run ⟨.new capacity true, generation⟩ past
    (∀ key cacheable during outcome,
        program[moment]? = some (.lookup key cacheable during outcome) →
          (reports[moment]?.any Report.isServed = true ↔
            cacheable = true ∧ Reusable capacity past.reverse key)) ∧
      now.cache.entries.length ≤ capacity ∧
      now.cache.hits + now.cache.misses = UInt64.ofNat (past.countP Action.isLookup) ∧
      now.cache.misses = UInt64.ofNat (reportsSoFar.countP Report.ran) ∧
      (past.countP Action.isLookup < UInt64.size →
        now.cache.hits.toNat + now.cache.misses.toNat = past.countP Action.isLookup ∧
          now.cache.misses.toNat = reportsSoFar.countP Report.ran) := by
  intro reports past
  have plainPast : ∀ action ∈ past, action.isPlain = true :=
    fun action member => plain action (List.mem_of_mem_take member)
  have begun := Tracks.new positive generation
  have tracks := begun.run positive plainPast
  rw [List.append_nil] at tracks
  have fewPast : past.reverse.countP Action.isBump < UInt64.size := by
    rw [List.countP_reverse]
    exact Nat.lt_of_le_of_lt ((List.take_sublist moment program).countP_le) few
  obtain ⟨counted, missed⟩ := begun.counts positive plainPast
  have counted := counted.trans (UInt64.zero_add _)
  have missed := missed.trans (UInt64.zero_add _)
  refine ⟨?_, tracks.length_entries_le, counted, missed,
    toNat_counts counted missed (ran_le_lookups _ past)⟩
  intro key cacheable during outcome there
  have this := plain _ (List.mem_of_getElem? there)
  obtain rfl : during = [] := by
    cases during with
    | nil => rfl
    | cons => cases this
  have report : reports[moment]? = some _ :=
    (getElem?_run _ program moment).trans (by rw [there]; rfl)
  rw [report, Option.any_some, (turn_step this tracks.enabled).isServed_iff,
    tracks.current_iff fewPast]

/-- A cacheable lookup of a statement without parameters. -/
def asked (text : String) : Action :=
  .lookup ⟨text, []⟩ true [] (.ok [[.text text]])

/-- Three statements in two places, a move of the generation between them, and a lookup that passes
the entries by. -/
def threeInTwoPlaces : List Action :=
  [asked "a", asked "b", .bump, asked "a", asked "c",
    .lookup ⟨"b", []⟩ false [] (.error .databaseClosed), asked "a", asked "b", asked "c"]

theorem reuse_law_threeInTwoPlaces :
    let reports := (run ⟨.new 2 true, 0⟩ threeInTwoPlaces).1
    let now := (run ⟨.new 2 true, 0⟩ (threeInTwoPlaces.take 6)).2
    1 ≤ 2 ∧ (∀ action ∈ threeInTwoPlaces, action.isPlain = true) ∧
      threeInTwoPlaces.countP Action.isBump < UInt64.size ∧
      reports[6]?.any Report.isServed = true ∧ ¬ reports[8]?.any Report.isServed = true ∧
      now.cache.entries.length ≤ 2 ∧ now.cache.hits.toNat + now.cache.misses.toNat = 5 ∧
      now.cache.misses.toNat = 5 := by
  intro reports now
  have plain : ∀ action ∈ threeInTwoPlaces, action.isPlain = true := List.all_eq_true.1 rfl
  have few : threeInTwoPlaces.countP Action.isBump < UInt64.size := by decide
  obtain ⟨hit, bounded, -, -, counted⟩ := reuse_law (by decide : 1 ≤ 2) 0 plain few 6
  obtain ⟨lost, -⟩ := reuse_law (by decide : 1 ≤ 2) 0 plain few 8
  refine ⟨by decide, plain, few, ?_, ?_, bounded, ?_⟩
  · -- Only "c" was consulted since the latest lookup of "a".
    exact (hit ⟨"a", []⟩ true [] _ rfl).2 ⟨rfl, by decide⟩
  · -- Both "a" and "b" were consulted since the latest lookup of "c".
    rw [lost ⟨"c", []⟩ true [] _ rfl]
    decide
  · exact counted (by decide)

end Reuse

end DurableStore
