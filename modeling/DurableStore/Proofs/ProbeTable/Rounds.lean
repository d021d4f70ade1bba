import DurableStore.Proofs.ProbeTable.Operations

/-!
What every operation keeps, and how many rounds its loops make.

The slots of a table are counted by a power of two, so a walk may be cut to the ring by a mask that
is one less (`Sound.and_mask`).  `Searches` and `Closes` are the two loops written that way, as
relations that count their rounds and set no bound to them: what never stops has no rounds at all.
Where some slot is free, both stop there at the latest (`searches_of_vacant`, `closes_of_vacant`),
and with the landing and the ring that `search` and `closeGap` give.

A sound table has a free slot, and so have the tables that it passes through while it grows
(`Sound.growing`).  So each operation leaves a sound table and each of its loops ends within as
many rounds as there are slots (`sound_upheld`).
-/

namespace DurableStore

namespace ProbeTable

variable {table : ProbeTable} {slots : Array Slot} {key value : Int32} {free start hole last : Nat}

/-! ## Loops that step by a mask -/

/-- All ones below the number of slots, if that is a power of two. -/
def mask (table : ProbeTable) : Nat :=
  table.capacity - 1

/-- The slot where a search for `key` starts. -/
def maskedHome (mask : Nat) (key : Int32) : Nat :=
  (spread key).toNat &&& mask

/-- How many steps lead from `start` to `slot` round the ring. -/
def maskedSteps (mask start slot : Nat) : Nat :=
  (slot + (mask + 1) - start) &&& mask

/-- A search for `key` that goes on to `slot` ends after so many more rounds, each at one slot. -/
inductive Searches (slots : Array Slot) (mask : Nat) (key : Int32) :
    (slot rounds : Nat) → Landing → Prop
  /-- At a free slot. -/
  | free {slot : Nat} : slots[slot]? = some none → Searches slots mask key slot 1 (.free slot)
  /-- At the key's entry. -/
  | entry {slot : Nat} {value : Int32} : slots[slot]? = some (some (key, value)) →
      Searches slots mask key slot 1 (.entry slot value)
  /-- Past the entry of another key. -/
  | onward {slot rounds : Nat} {held value : Int32} {landing : Landing} :
      slots[slot]? = some (some (held, value)) → held ≠ key →
      Searches slots mask key ((slot + 1) &&& mask) rounds landing →
      Searches slots mask key slot (rounds + 1) landing

/-- Closing the gap at `hole`, with the slots up to `last` looked at, ends after so many more rounds,
and leaves the ring `closed`. -/
inductive Closes (mask : Nat) :
    (slots : Array Slot) → (hole last rounds : Nat) → (closed : Array Slot) → Prop
  /-- At a free slot the hole is freed. -/
  | stop {slots : Array Slot} {hole last : Nat} : slots[(last + 1) &&& mask]? = some none →
      Closes mask slots hole last 1 (slots.setIfInBounds hole none)
  /-- An entry moves into the hole, and leaves a hole. -/
  | move {slots closed : Array Slot} {hole last rounds : Nat} {key value : Int32} :
      slots[(last + 1) &&& mask]? = some (some (key, value)) →
      maskedSteps mask (maskedHome mask key) hole ≤
        maskedSteps mask (maskedHome mask key) ((last + 1) &&& mask) →
      Closes mask (slots.setIfInBounds hole (some (key, value))) ((last + 1) &&& mask)
        ((last + 1) &&& mask) rounds closed →
      Closes mask slots hole last (rounds + 1) closed
  /-- An entry stays that would come in front of its home. -/
  | pass {slots closed : Array Slot} {hole last rounds : Nat} {key value : Int32} :
      slots[(last + 1) &&& mask]? = some (some (key, value)) →
      maskedSteps mask (maskedHome mask key) ((last + 1) &&& mask) <
        maskedSteps mask (maskedHome mask key) hole →
      Closes mask slots hole ((last + 1) &&& mask) rounds closed →
      Closes mask slots hole last (rounds + 1) closed

/-! ## A free slot ends a loop -/

section Walks

variable {mask size : Nat} (cuts : ∀ n, n &&& mask = n % size)

include cuts

theorem maskedHome_eq (key : Int32) : maskedHome mask key = homeIn size key :=
  cuts _

theorem maskedSteps_eq (ones : mask + 1 = size) (start slot : Nat) :
    maskedSteps mask start slot = stepsFrom size start slot := by
  unfold maskedSteps stepsFrom
  rw [cuts, ones]

/-- A search ends at the first free slot it comes to, if not before. -/
theorem searches_of_vacant (hsize : slots.size = size) (vacant : slots[free]? = some none)
    (hstart : start < size) {steps : Nat} (enough : stepsFrom size start free < steps) :
    ∃ rounds ≤ stepsFrom size start free + 1,
      Searches slots mask key start rounds (searchFrom slots key steps start) := by
  subst hsize
  induction steps generalizing start with
  | zero => omega
  | succ steps ih =>
    have there := Array.getElem?_eq_getElem hstart
    cases content : slots[start] with
    | none =>
      rw [content] at there
      simp only [searchFrom, there]
      exact ⟨1, Nat.le_add_left _ _, .free there⟩
    | some entry =>
      obtain ⟨held, value⟩ := entry
      rw [content] at there
      simp only [searchFrom, there]
      split
      next same =>
        subst same
        exact ⟨1, Nat.le_add_left _ _, .entry there⟩
      next differs =>
        have apart : free ≠ start := by
          rintro rfl
          rw [vacant] at there
          cases there
        have nearer := stepsFrom_succ hstart (lt_size_of_getElem? vacant) apart
        obtain ⟨rounds, few, searches⟩ := ih (succ_mod_lt hstart) (by omega)
        refine ⟨rounds + 1, by omega, .onward there differs ?_⟩
        rw [cuts]
        exact searches

/-- Closing a gap ends at the first free slot behind it, if not before: nothing is ever written
there, since only the hole is written, and the hole lies in front of it. -/
theorem closes_of_vacant (ones : mask + 1 = size) (hsize : slots.size = size)
    (vacant : slots[free]? = some none) (hlast : last < size) (hole_ne : hole ≠ free)
    (last_ne : last ≠ free) {steps : Nat} (enough : stepsFrom size last free ≤ steps) :
    ∃ rounds ≤ stepsFrom size last free,
      Closes mask slots hole last rounds (closeGap slots steps hole last) := by
  induction steps generalizing slots hole last with
  | zero =>
    have nearer := stepsFrom_succ hlast (hsize ▸ lt_size_of_getElem? vacant) (Ne.symm last_ne)
    omega
  | succ steps ih =>
    have nearer := stepsFrom_succ hlast (hsize ▸ lt_size_of_getElem? vacant) (Ne.symm last_ne)
    have hnext := succ_mod_lt hlast
    have next : (last + 1) &&& mask = (last + 1) % size := cuts _
    cases there : slots[(last + 1) % size]? with
    | none =>
      rw [Array.getElem?_eq_none_iff, hsize] at there
      omega
    | some slot =>
      cases slot with
      | none =>
        simp only [closeGap, hsize, there]
        exact ⟨1, by omega, .stop (by rw [next]; exact there)⟩
      | some entry =>
        obtain ⟨key, value⟩ := entry
        have next_ne : (last + 1) % size ≠ free := by
          intro same
          rw [same, vacant] at there
          cases there
        -- The test that decides whether the entry moves, written with the mask.
        have home := maskedSteps_eq cuts ones (maskedHome mask key)
        simp only [closeGap, hsize, there, ← maskedHome_eq cuts, ← home]
        rw [← next] at there hnext next_ne nearer ⊢
        split
        next moves =>
          have vacant : (slots.setIfInBounds hole (some (key, value)))[free]? = some none := by
            rw [Array.getElem?_setIfInBounds_ne hole_ne]
            exact vacant
          obtain ⟨rounds, few, closes⟩ := ih (Array.size_setIfInBounds.trans hsize) vacant hnext
            next_ne next_ne (by omega)
          exact ⟨rounds + 1, by omega, .move there moves closes⟩
        next stays =>
          obtain ⟨rounds, few, closes⟩ := ih hsize vacant hnext hole_ne next_ne (by omega)
          exact ⟨rounds + 1, by omega, .pass there (Nat.lt_of_not_le stays) closes⟩

end Walks

/-! ## Sound tables -/

/-- Entries with different keys list a map. -/
theorem exists_lists {entries : List (Int32 × Int32)} (distinct : (entries.map Prod.fst).Nodup) :
    ∃ contents, Lists entries contents := by
  induction entries with
  | nil => exact ⟨_, Lists.nil⟩
  | cons entry rest ih =>
    obtain ⟨key, value⟩ := entry
    obtain ⟨fresh, distinct⟩ := List.nodup_cons.1 distinct
    obtain ⟨contents, lists⟩ := ih distinct
    have absent : contents key = none := by
      cases found : contents key with
      | none => rfl
      | some held =>
        exact absurd (List.mem_map.2 ⟨_, (lists.agrees key held).2 found, rfl⟩) fresh
    exact ⟨_, lists.cons absent value⟩

namespace Sound

/-- A sound table represents a map. -/
theorem represents (sound : table.Sound) : ∃ contents, table.Represents contents := by
  obtain ⟨contents, lists⟩ := exists_lists sound.distinct
  exact ⟨contents, sound, lists.agrees⟩

/-- The mask cuts a number to the ring. -/
theorem and_mask (sound : table.Sound) (n : Nat) : n &&& table.mask = n % table.capacity := by
  obtain ⟨exponent, power⟩ := sound.power
  rw [mask, power, Nat.and_two_pow_sub_one_eq_mod]

theorem mask_succ (sound : table.Sound) : table.mask + 1 = table.capacity := by
  have positive := sound.positive
  unfold mask
  omega

end Sound

/-- The search for `key` ends within as many rounds as there are slots. -/
def SearchEnds (table : ProbeTable) (key : Int32) : Prop :=
  ∃ rounds ≤ table.capacity,
    Searches table.slots table.mask key (maskedHome table.mask key) rounds (table.search key)

namespace Sound

theorem searchEnds (sound : table.Sound) (key : Int32) : table.SearchEnds key := by
  obtain ⟨free, vacant⟩ := sound.vacant
  have hfree : free < table.capacity := lt_size_of_getElem? vacant
  have hhome : homeIn table.capacity key < table.capacity := homeIn_lt (by omega) key
  have short := stepsFrom_lt hhome hfree
  obtain ⟨rounds, few, searches⟩ := searches_of_vacant sound.and_mask rfl vacant hhome short
  refine ⟨rounds, by omega, ?_⟩
  rw [maskedHome_eq sound.and_mask]
  exact searches

/-- Closing the gap of a removed entry ends within as many rounds as there are slots. -/
theorem gapCloses (sound : table.Sound) {place : Nat}
    (found : table.search key = .entry place value) :
    ∃ rounds ≤ table.capacity,
      Closes table.mask table.slots place place rounds (table.erase key).2.slots := by
  obtain ⟨free, vacant⟩ := sound.vacant
  obtain ⟨contents, h⟩ := sound.represents
  have there : table.slots[place]? = some (some (key, value)) := by
    rcases h.search_cases key with ⟨_, _, ends, _, there⟩ | ⟨_, ends, _⟩
    · rw [found] at ends
      cases ends
      exact there
    · rw [found] at ends
      cases ends
  have apart : place ≠ free := by
    rintro rfl
    rw [vacant] at there
    cases there
  have hplace : place < table.capacity := lt_size_of_getElem? there
  have hfree : free < table.capacity := lt_size_of_getElem? vacant
  have short := stepsFrom_lt hplace hfree
  obtain ⟨rounds, few, closes⟩ := closes_of_vacant sound.and_mask sound.mask_succ rfl vacant hplace
    apart apart (Nat.le_of_lt short)
  refine ⟨rounds, by omega, ?_⟩
  unfold erase
  rw [found]
  exact closes

end Sound

/-! ## Growing -/

/-- A growing table once it has taken the entries of the first `taken` slots. -/
def growing (table : ProbeTable) (taken : Nat) : ProbeTable :=
  (table.slots.toList.take taken).foldl (fun grown slot =>
    match slot with
    | some (key, value) => (grown.place key value).2
    | none => grown) (ofSlots (2 * table.capacity))

theorem growing_capacity (table : ProbeTable) : table.growing table.capacity = table.grow := by
  have whole : table.slots.toList.take table.capacity = table.slots.toList :=
    List.take_of_length_le (Nat.le_of_eq Array.length_toList)
  unfold growing
  rw [whole]
  exact Array.foldl_toList _

/-- A growing table is sound all along, and has room for another entry. -/
theorem Sound.growing (sound : table.Sound) (taken : Nat) :
    (table.growing taken).Sound ∧ (table.growing taken).isCrowded = false := by
  obtain ⟨contents, h⟩ := sound.represents
  have part : ((table.slots.toList.take taken).filterMap id).Sublist table.toList :=
    (List.take_sublist taken table.slots.toList).filterMap id
  have few := part.length_le
  rw [← sound.counted] at few
  obtain ⟨placed, listed⟩ := exists_lists (sound.distinct.sublist (part.map Prod.fst))
  obtain ⟨grown, capacity⟩ := h.refill listed few
  have grown : (table.growing taken).Represents placed := grown
  have capacity : (table.growing taken).capacity = 2 * table.capacity := capacity
  refine ⟨grown.toSound, ?_⟩
  have counted := (grown.lists.perm_of listed).length_eq
  rw [← grown.counted] at counted
  have roomy := sound.roomy
  have positive := sound.positive
  rw [isCrowded_eq_false_iff]
  omega

/-! ## What is upheld -/

/-- The operations on a table leave a sound one, and their loops end. -/
structure Upheld (table : ProbeTable) : Prop where
  /-- A value that can be stored is not refused, whether the table grows for it or not.  If it does,
  the entry is put where the growing ends. -/
  put : ∀ key value, value ≠ reserved →
    ∃ previous stored, table.put? key value = some (previous, stored) ∧ stored.Sound ∧
      (if table.isCrowded then table.growing table.capacity else table).place key value =
        (previous, stored)
  erase : ∀ key, (table.erase key).2.Sound
  clear : table.clear.Sound
  search : ∀ key, table.SearchEnds key
  /-- The search of a put, in the grown table if the table grows first. -/
  place : ∀ key, (if table.isCrowded then table.grow else table).SearchEnds key
  /-- While it grows the table is sound all along, every search in it ends, and none of the entries
  that are put makes it grow again. -/
  growing : ∀ taken, (table.growing taken).Sound ∧
    (∀ key, (table.growing taken).SearchEnds key) ∧
    ∀ key value, (table.growing taken).insert key value = (table.growing taken).place key value
  gap : ∀ key place value, table.search key = .entry place value →
    ∃ rounds ≤ table.capacity,
      Closes table.mask table.slots place place rounds (table.erase key).2.slots

/-- **Every operation on a sound table leaves a sound table**, and its loops end within as many
rounds as there are slots. -/
theorem sound_upheld (sound : table.Sound) : table.Upheld := by
  obtain ⟨contents, h⟩ := sound.represents
  have grown : table.grow.Sound := by
    rw [← growing_capacity]
    exact (sound.growing table.capacity).1
  constructor
  case put =>
    intro key value storable
    obtain ⟨stored, put, after⟩ := h.put? storable key
    refine ⟨contents key, stored, put, after.toSound, ?_⟩
    unfold put? at put
    rw [if_neg storable] at put
    rw [growing_capacity]
    exact Option.some.inj put
  case erase =>
    intro key
    exact (h.erase key).2.toSound
  case clear => exact h.clear.toSound
  case search => exact sound.searchEnds
  case place =>
    intro key
    split
    next => exact grown.searchEnds key
    next => exact sound.searchEnds key
  case growing =>
    intro taken
    obtain ⟨within, calm⟩ := sound.growing taken
    exact ⟨within, within.searchEnds, insert_of_calm calm⟩
  case gap =>
    intro key place value found
    exact sound.gapCloses found

/-- Twelve entries in sixteen slots, in one run across the last slot. -/
def crowding : List Operation :=
  [1, 30, 35, 64, 69, 32, 33, 66, 67, 0, 10, 31].map fun key => .put key 7

theorem sound_upheld_crowded :
    ((withRoomFor 0).performAll crowding).2.Sound ∧
      ((withRoomFor 0).performAll crowding).2.isCrowded = true ∧
      ((withRoomFor 0).performAll crowding).2.search 31 = .entry 9 7 ∧
      ((withRoomFor 0).performAll crowding).2.Upheld := by
  obtain ⟨-, contents, h⟩ := (represents_withRoomFor 0).performAll crowding
  exact ⟨h.toSound, by decide +kernel, by decide +kernel, sound_upheld h.toSound⟩

end ProbeTable

end DurableStore
