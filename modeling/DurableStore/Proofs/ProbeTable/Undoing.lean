import DurableStore.Proofs.ProbeTable.Operations

/-!
Removing an entry that was just put.

A new entry goes into a free slot, and no run of a linked ring crosses a free slot: the entries
behind it all have their homes behind it too (`Linked.ahead_of_free`).  So when the entry is taken
out again none of them moves into the gap, even if the entry had joined two runs into one, and the
gap closes where it opened (`closeGap_of_ahead`).  What remains is the table as it was, slot by slot
(`Represents.erase_place`).
-/

namespace DurableStore

namespace ProbeTable

variable {table : ProbeTable} {contents : Int32 → Option Int32} {slots : Array Slot}
  {key value : Int32} {hole free : Nat}

/-! ## Entries that stay where they are -/

/-- Every entry outside the hole lies nearer to its home than the hole does. -/
def AheadOf (slots : Array Slot) (hole : Nat) : Prop :=
  ∀ (place : Nat) (key value : Int32), place ≠ hole →
    slots[place]? = some (some (key, value)) →
    stepsFrom slots.size (homeIn slots.size key) place <
      stepsFrom slots.size (homeIn slots.size key) hole

/-- No entry of a linked ring has a free slot between its home and itself. -/
theorem Linked.ahead_of_free (linked : Linked slots) (vacant : slots[free]? = some none) :
    AheadOf slots free := by
  intro place key value away there
  have hfree := lt_size_of_getElem? vacant
  have hplace := lt_size_of_getElem? there
  have hhome : homeIn slots.size key < slots.size := homeIn_lt (by omega) key
  have uncrossed : ¬ stepsFrom slots.size (homeIn slots.size key) free <
      stepsFrom slots.size (homeIn slots.size key) place :=
    fun crossed => linked place key value there free hfree crossed vacant
  have apart : stepsFrom slots.size (homeIn slots.size key) place ≠
      stepsFrom slots.size (homeIn slots.size key) free :=
    fun same => away (stepsFrom_inj hhome hplace hfree same)
  omega

/-- What is written into the hole does not matter to the others. -/
theorem AheadOf.fill (ahead : AheadOf slots hole) (entry : Slot) :
    AheadOf (slots.setIfInBounds hole entry) hole := by
  intro place key value away there
  rw [Array.getElem?_setIfInBounds_ne (Ne.symm away)] at there
  rw [Array.size_setIfInBounds]
  exact ahead place key value away there

/-- A gap that no entry moves into closes where it opened. -/
theorem closeGap_of_ahead (ahead : AheadOf slots hole) (steps last : Nat) :
    closeGap slots steps hole last = slots.setIfInBounds hole none := by
  induction steps generalizing last with
  | zero => rfl
  | succ steps ih =>
    cases there : slots[(last + 1) % slots.size]? with
    | none => simp only [closeGap, there]
    | some slot =>
      cases slot with
      | none => simp only [closeGap, there]
      | some entry =>
        obtain ⟨key, value⟩ := entry
        simp only [closeGap, there]
        split
        next moves =>
          -- Only the entry in the hole itself passes the test, and it moves nowhere.
          have same : (last + 1) % slots.size = hole := by
            by_contra away
            have nearer := ahead _ key value away there
            omega
          rw [same] at there ⊢
          rw [setIfInBounds_of_getElem? there]
          exact ih hole
        next => exact ih _

/-! ## Put and removed -/

namespace Represents

/-- **Removing the entry that was written** at a free slot frees that slot and moves nothing. -/
theorem erase_place (h : table.Represents contents) (absent : contents key = none)
    (room : (table.count + 1) * 4 ≤ table.capacity * 3) (value : Int32) :
    (table.place key value).2.erase key = (some value, table) := by
  obtain ⟨-, stored⟩ := h.place key value fun _ => room
  rcases h.search_cases key with ⟨_, _, _, found, _⟩ | ⟨free, ends, _, vacant, _⟩
  · rw [absent] at found
    cases found
  · have written : (table.place key value).2 =
        ⟨table.slots.setIfInBounds free (some (key, value)), table.count + 1⟩ := by
      unfold ProbeTable.place
      rw [ends]
    rw [written] at stored ⊢
    have there : (table.slots.setIfInBounds free (some (key, value)))[free]? =
        some (some (key, value)) :=
      Array.getElem?_setIfInBounds_self_of_lt (lt_size_of_getElem? vacant)
    have found : search ⟨table.slots.setIfInBounds free (some (key, value)), table.count + 1⟩ key =
        .entry free value :=
      stored.linked.search_eq_entry stored.unique there
    have ahead := (h.linked.ahead_of_free vacant).fill (some (key, value))
    unfold ProbeTable.erase
    simp only [found, closeGap_of_ahead ahead, Array.setIfInBounds_setIfInBounds,
      setIfInBounds_of_getElem? vacant, Nat.add_sub_cancel]

/-- A put that keeps the number of slots found room for its entry. -/
theorem calm_of_capacity (h : table.Represents contents)
    (same : (table.insert key value).2.capacity = table.capacity) : table.isCrowded = false := by
  cases crowded : table.isCrowded with
  | false => rfl
  | true =>
    have doubled := h.grow.2
    have positive := h.positive
    rw [insert_of_crowded crowded, capacity_place] at same
    omega

end Represents

/-- **Putting an entry and removing it again leaves no trace**, unless the table grew in between:
the table that is left is the one from before, its slots, their entries and its count. -/
theorem Reached.put_then_erase (reached : table.Reached) (absent : table.contains key = false)
    (storable : value ≠ reserved) :
    ∃ stored, table.put? key value = some (none, stored) ∧
      (stored.capacity = table.capacity → stored.erase key = (some value, table)) := by
  obtain ⟨contents, h⟩ := reached.represents
  have absent : contents key = none := by
    rw [← h.get? key]
    exact Option.not_isSome_iff_eq_none.1 (ne_true_of_eq_false absent)
  have previous : (table.insert key value).1 = none := (h.insert key value).1.trans absent
  refine ⟨(table.insert key value).2, ?_, ?_⟩
  · unfold put?
    rw [if_neg storable, ← previous]
  · intro same
    have calm := h.calm_of_capacity same
    rw [insert_of_calm calm]
    exact h.erase_place absent (isCrowded_eq_false_iff.1 calm) value

/-- Two runs with one free slot in between, the first slot of the ring. -/
def twoRuns : ProbeTable :=
  ((withRoomFor 0).performAll ([32, 11, 20, 9, 8].map fun key => .put key 7)).2

/-- The new entry joins the two runs. -/
theorem put_then_erase_twoRuns :
    twoRuns.Reached ∧ twoRuns.contains 33 = false ∧ (5 : Int32) ≠ reserved ∧
      ∃ stored, twoRuns.put? 33 5 = some (none, stored) ∧
        stored.slots.toList.take 6 = [some (33, 5), some (11, 7), some (20, 7), some (9, 7),
          some (8, 7), none] ∧
        stored.capacity = twoRuns.capacity ∧ stored.erase 33 = (some 5, twoRuns) := by
  have reached : twoRuns.Reached := ⟨0, _, rfl⟩
  have absent : twoRuns.contains 33 = false := by decide +kernel
  have storable : (5 : Int32) ≠ reserved := by decide
  obtain ⟨stored, put, undone⟩ := reached.put_then_erase absent storable
  have kept : (twoRuns.put? 33 5).map (fun outcome => (outcome.2.slots.toList.take 6,
      outcome.2.capacity)) = some ([some (33, 5), some (11, 7), some (20, 7), some (9, 7),
        some (8, 7), none], twoRuns.capacity) := by
    decide +kernel
  rw [put, Option.map_some, Option.some.injEq, Prod.mk.injEq] at kept
  exact ⟨reached, absent, storable, stored, put, kept.1, kept.2, undone kept.2⟩

end ProbeTable

end DurableStore
