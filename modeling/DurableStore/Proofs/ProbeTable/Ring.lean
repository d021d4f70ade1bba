import DurableStore.ProbeTable
import Mathlib.Tactic.ByContra

/-!
Walking round the ring.

* `stepsFrom` counts the steps from one slot to another, `succ_mod` makes one step, and
  `stepsFrom_rotate` counts from a third slot instead: seen from a free slot, which no run of
  entries crosses, the ring is a line.
* `searchFrom_ends` says where a search ends: at its key, at a free slot, or nowhere, and in each
  case every slot it passed holds another key.
* In a linked ring no free slot lies between an entry and its home, so a search for a key that has
  an entry finds it (`Linked.search_eq_entry`), and one for a key that has none ends at a free slot
  if there is one (`search_eq_free`).
-/

namespace DurableStore

namespace ProbeTable

/-! ## Steps -/

variable {size start slot target : Nat}

theorem stepsFrom_of_le (le : start ≤ slot) (bound : slot < size) :
    stepsFrom size start slot = slot - start := by
  have sum : slot + size - start = slot - start + size := by omega
  rw [stepsFrom, sum, Nat.add_mod_right, Nat.mod_eq_of_lt (by omega)]

theorem stepsFrom_of_lt (lt : slot < start) (bound : start < size) :
    stepsFrom size start slot = slot + size - start := by
  rw [stepsFrom, Nat.mod_eq_of_lt (by omega)]

/-- The steps between two slots of the ring, without a remainder. -/
theorem stepsFrom_cases (hstart : start < size) (hslot : slot < size) :
    start ≤ slot ∧ stepsFrom size start slot = slot - start ∨
      slot < start ∧ stepsFrom size start slot = slot + size - start := by
  by_cases le : start ≤ slot
  · exact .inl ⟨le, stepsFrom_of_le le hslot⟩
  · have lt : slot < start := by omega
    exact .inr ⟨lt, stepsFrom_of_lt lt hstart⟩

@[simp] theorem stepsFrom_self (hstart : start < size) : stepsFrom size start start = 0 := by
  rw [stepsFrom_of_le (Nat.le_refl start) hstart, Nat.sub_self]

theorem stepsFrom_lt (hstart : start < size) (hslot : slot < size) :
    stepsFrom size start slot < size := by
  rcases stepsFrom_cases hstart hslot with ⟨_, steps⟩ | ⟨_, steps⟩ <;> omega

theorem stepsFrom_inj (hstart : start < size) (hslot : slot < size) (htarget : target < size)
    (same : stepsFrom size start slot = stepsFrom size start target) : slot = target := by
  rcases stepsFrom_cases hstart hslot with ⟨_, here⟩ | ⟨_, here⟩ <;>
    rcases stepsFrom_cases hstart htarget with ⟨_, there⟩ | ⟨_, there⟩ <;> omega

/-- The next slot of the ring. -/
theorem succ_mod (hslot : slot < size) :
    slot + 1 < size ∧ (slot + 1) % size = slot + 1 ∨ slot + 1 = size ∧ (slot + 1) % size = 0 := by
  by_cases last : slot + 1 = size
  · exact .inr ⟨last, by rw [last, Nat.mod_self]⟩
  · have inside : slot + 1 < size := by omega
    exact .inl ⟨inside, Nat.mod_eq_of_lt inside⟩

theorem succ_mod_lt (hslot : slot < size) : (slot + 1) % size < size :=
  Nat.mod_lt _ (by omega)

/-- From the next slot on it is one step less to every other slot. -/
theorem stepsFrom_succ (hslot : slot < size) (htarget : target < size) (other : target ≠ slot) :
    stepsFrom size slot target = stepsFrom size ((slot + 1) % size) target + 1 := by
  have next := succ_mod_lt hslot
  rcases succ_mod hslot with ⟨_, same⟩ | ⟨_, same⟩ <;> rw [same] at next ⊢ <;>
    rcases stepsFrom_cases hslot htarget with ⟨_, here⟩ | ⟨_, here⟩ <;>
    rcases stepsFrom_cases next htarget with ⟨_, there⟩ | ⟨_, there⟩ <;> omega

/-- The next slot is one step further from everywhere, but for the slot where the round began. -/
theorem stepsFrom_next (hstart : start < size) (hslot : slot < size)
    (other : (slot + 1) % size ≠ start) :
    stepsFrom size start ((slot + 1) % size) = stepsFrom size start slot + 1 := by
  have next := succ_mod_lt hslot
  rcases succ_mod hslot with ⟨_, same⟩ | ⟨_, same⟩ <;> rw [same] at next other ⊢ <;>
    rcases stepsFrom_cases hstart hslot with ⟨_, here⟩ | ⟨_, here⟩ <;>
    rcases stepsFrom_cases hstart next with ⟨_, there⟩ | ⟨_, there⟩ <;> omega

/-- The last slot of a round is all but one step away. -/
theorem stepsFrom_last (hstart : start < size) (hslot : slot < size)
    (round : (slot + 1) % size = start) : stepsFrom size start slot + 1 = size := by
  rcases succ_mod hslot with ⟨_, same⟩ | ⟨_, same⟩ <;> rw [same] at round <;>
    rcases stepsFrom_cases hstart hslot with ⟨_, steps⟩ | ⟨_, steps⟩ <;> omega

/-- The steps between two slots, both seen from a third one. -/
theorem stepsFrom_rotate {origin : Nat} (horigin : origin < size) (hstart : start < size)
    (hslot : slot < size) :
    stepsFrom size origin start ≤ stepsFrom size origin slot ∧
        stepsFrom size start slot = stepsFrom size origin slot - stepsFrom size origin start ∨
      stepsFrom size origin slot < stepsFrom size origin start ∧
        stepsFrom size start slot =
          stepsFrom size origin slot + size - stepsFrom size origin start := by
  rcases stepsFrom_cases horigin hstart with ⟨_, first⟩ | ⟨_, first⟩ <;>
    rcases stepsFrom_cases horigin hslot with ⟨_, second⟩ | ⟨_, second⟩ <;>
    rcases stepsFrom_cases hstart hslot with ⟨_, between⟩ | ⟨_, between⟩ <;> omega

theorem homeIn_lt (positive : 0 < size) (key : Int32) : homeIn size key < size :=
  Nat.mod_lt _ positive

/-! ## Where a search ends -/

variable {slots : Array Slot} {key value : Int32}

theorem lt_size_of_getElem? {entry : Slot} (there : slots[slot]? = some entry) :
    slot < slots.size :=
  (Array.getElem?_eq_some_iff.1 there).1

/-- The first `steps` slots from `start` on hold entries of other keys. -/
def Passed (slots : Array Slot) (key : Int32) (start steps : Nat) : Prop :=
  ∀ slot < slots.size, stepsFrom slots.size start slot < steps →
    ∃ held value, slots[slot]? = some (some (held, value)) ∧ held ≠ key

theorem passed_zero (slots : Array Slot) (key : Int32) (start : Nat) :
    Passed slots key start 0 := by
  intro slot _ none
  omega

theorem Passed.succ {steps : Nat} {held : Int32}
    (here : slots[start]? = some (some (held, value))) (differs : held ≠ key)
    (rest : Passed slots key ((start + 1) % slots.size) steps) :
    Passed slots key start (steps + 1) := by
  intro slot bound near
  by_cases first : slot = start
  · subst first
    exact ⟨held, value, here, differs⟩
  · rw [stepsFrom_succ (lt_size_of_getElem? here) bound first] at near
    exact rest slot bound (by omega)

/-- How a search over `steps` slots ended. -/
inductive Ends (slots : Array Slot) (key : Int32) (start steps : Nat) : Landing → Prop
  /-- At an entry of the key. -/
  | entry {target : Nat} {value : Int32} : slots[target]? = some (some (key, value)) →
      Passed slots key start (stepsFrom slots.size start target) →
      Ends slots key start steps (.entry target value)
  /-- At a free slot. -/
  | free {target : Nat} : slots[target]? = some none →
      Passed slots key start (stepsFrom slots.size start target) →
      Ends slots key start steps (.free target)
  /-- Nowhere. -/
  | lost : Passed slots key start steps → Ends slots key start steps .lost

/-- **A search passes entries of other keys only.** -/
theorem searchFrom_ends (slots : Array Slot) (key : Int32) (steps : Nat)
    (hstart : start < slots.size) :
    Ends slots key start steps (searchFrom slots key steps start) := by
  induction steps generalizing start with
  | zero => exact .lost (passed_zero slots key start)
  | succ steps ih =>
    have there := Array.getElem?_eq_getElem hstart
    have here : stepsFrom slots.size start start = 0 := stepsFrom_self hstart
    cases content : slots[start] with
    | none =>
      rw [content] at there
      simp only [searchFrom, there]
      refine .free there ?_
      rw [here]
      exact passed_zero slots key start
    | some entry =>
      obtain ⟨held, value⟩ := entry
      rw [content] at there
      simp only [searchFrom, there]
      split
      next same =>
        subst same
        refine .entry there ?_
        rw [here]
        exact passed_zero slots held start
      next differs =>
        -- The slots passed from the next one on, and this one in front of them.
        have beyond : ∀ {target}, target < slots.size →
            Passed slots key ((start + 1) % slots.size)
              (stepsFrom slots.size ((start + 1) % slots.size) target) →
            Passed slots key start (stepsFrom slots.size start target) := by
          intro target bound rest
          by_cases first : target = start
          · rw [first, here]
            exact passed_zero slots key start
          · rw [stepsFrom_succ hstart bound first]
            exact rest.succ there differs
        generalize found : searchFrom slots key steps ((start + 1) % slots.size) = landing
        have ends := ih (succ_mod_lt hstart)
        rw [found] at ends
        cases ends with
        | entry reached rest => exact .entry reached (beyond (lt_size_of_getElem? reached) rest)
        | free reached rest => exact .free reached (beyond (lt_size_of_getElem? reached) rest)
        | lost rest => exact .lost (rest.succ there differs)

/-! ## Linked rings -/

/-- No free slot lies between an entry and its home. -/
def Linked (slots : Array Slot) : Prop :=
  ∀ (place : Nat) (key value : Int32), slots[place]? = some (some (key, value)) →
    ∀ slot < slots.size,
      stepsFrom slots.size (homeIn slots.size key) slot <
        stepsFrom slots.size (homeIn slots.size key) place →
      slots[slot]? ≠ some none

/-- No key has two entries. -/
def Distinct (slots : Array Slot) : Prop :=
  ∀ (place other : Nat) (key value value' : Int32), slots[place]? = some (some (key, value)) →
    slots[other]? = some (some (key, value')) → place = other

/-- **The entry of a key is found** in a linked ring. -/
theorem Linked.search_eq_entry (linked : Linked slots) (distinct : Distinct slots)
    (there : slots[target]? = some (some (key, value))) :
    searchFrom slots key slots.size (homeIn slots.size key) = .entry target value := by
  have bound := lt_size_of_getElem? there
  have hhome : homeIn slots.size key < slots.size := homeIn_lt (by omega) key
  -- The key's own entry is not among the slots that a search for it passes.
  have unpassed : ∀ {steps}, Passed slots key (homeIn slots.size key) steps →
      steps ≤ stepsFrom slots.size (homeIn slots.size key) target := by
    intro steps passed
    by_contra beyond
    obtain ⟨held, other, same, differs⟩ := passed target bound (by omega)
    rw [there] at same
    cases same
    exact differs rfl
  generalize found : searchFrom slots key slots.size (homeIn slots.size key) = landing
  have ends := searchFrom_ends slots key slots.size hhome
  rw [found] at ends
  cases ends with
  | entry reached _ =>
    obtain rfl := distinct _ _ _ _ _ reached there
    rw [there] at reached
    cases reached
    rfl
  | @free slot reached passed =>
    have near := unpassed passed
    by_cases same : slot = target
    · rw [same, there] at reached
      cases reached
    · have apart : stepsFrom slots.size (homeIn slots.size key) slot ≠
          stepsFrom slots.size (homeIn slots.size key) target :=
        fun steps => same (stepsFrom_inj hhome (lt_size_of_getElem? reached) bound steps)
      exact absurd reached
        (linked target key value there slot (lt_size_of_getElem? reached) (by omega))
  | lost passed =>
    have near := unpassed passed
    have short := stepsFrom_lt hhome bound
    omega

/-- A search for a key without an entry ends at a free slot, if there is one. -/
theorem search_eq_free (absent : ∀ (place : Nat) (value : Int32),
      slots[place]? ≠ some (some (key, value)))
    (vacant : slots[slot]? = some none) :
    ∃ target, searchFrom slots key slots.size (homeIn slots.size key) = .free target ∧
      slots[target]? = some none ∧
      Passed slots key (homeIn slots.size key)
        (stepsFrom slots.size (homeIn slots.size key) target) := by
  have bound := lt_size_of_getElem? vacant
  have hhome : homeIn slots.size key < slots.size := homeIn_lt (by omega) key
  generalize found : searchFrom slots key slots.size (homeIn slots.size key) = landing
  have ends := searchFrom_ends slots key slots.size hhome
  rw [found] at ends
  cases ends with
  | entry reached _ => exact absurd reached (absent _ _)
  | free reached passed => exact ⟨_, rfl, reached, passed⟩
  | lost passed =>
    obtain ⟨held, value, same, -⟩ := passed slot bound (stepsFrom_lt hhome bound)
    rw [vacant] at same
    cases same

end ProbeTable

end DurableStore
