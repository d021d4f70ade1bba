import DurableStore.Proofs.ProbeTable.Ring

/-!
Closing the gap that a removed entry leaves.

No run of entries crosses a free slot, so seen from one the ring is a line on which every entry
lies at its home or behind it.  While a gap is closed one slot of that line, the hole, counts as
free without being it: `Gap` says that the ring is linked but for the hole, and that no entry
looked at so far needs the hole.  Moving an entry into the hole and passing one by both keep this
(`Gap.move`, `Gap.pass`), and a free slot behind the entries looked at ends it with a linked ring
(`Gap.done`).  So `closeGap` leaves a linked ring with the entries that were not in the hole
(`Gap.closeGap`).
-/

namespace DurableStore

namespace ProbeTable

variable {slots : Array Slot} {free hole last slot place : Nat} {key value : Int32}

/-! ## The entries of a ring -/

/-- The entries in the slots, in their order. -/
def entriesOf (slots : Array Slot) : List (Int32 × Int32) :=
  slots.toList.filterMap id

theorem mem_entriesOf {entry : Int32 × Int32} :
    entry ∈ entriesOf slots ↔ ∃ place : Nat, slots[place]? = some (some entry) := by
  simp only [entriesOf, List.mem_filterMap, id, exists_eq_right, Array.mem_toList_iff,
    Array.mem_iff_getElem?]

/-- Writing a slot puts its entry, if any, beside those of the other slots. -/
theorem entriesOf_set (bound : place < slots.size) (entry : Slot) :
    (entriesOf (slots.setIfInBounds place entry)).Perm
      (entry.toList ++ entriesOf (slots.setIfInBounds place none)) := by
  have inside : place < slots.toList.length := by simpa using bound
  simp only [entriesOf, Array.toList_setIfInBounds, List.set_eq_take_append_cons_drop,
    if_pos inside, List.filterMap_append]
  cases entry with
  | none => exact List.Perm.refl _
  | some entry =>
    simp only [List.filterMap_cons_some (f := id) rfl, List.filterMap_cons_none (f := id) rfl]
    exact List.perm_middle

/-- Writing what a slot holds already changes nothing. -/
theorem setIfInBounds_of_getElem? {entry : Slot} (there : slots[place]? = some entry) :
    slots.setIfInBounds place entry = slots := by
  obtain ⟨bound, rfl⟩ := Array.getElem?_eq_some_iff.1 there
  rw [← Array.toList_inj, Array.toList_setIfInBounds, ← Array.getElem_toList bound]
  exact List.set_getElem_self _

/-- The entries of a ring are that of one slot, if any, and those of the others. -/
theorem entriesOf_perm {entry : Slot} (there : slots[place]? = some entry) :
    (entriesOf slots).Perm (entry.toList ++ entriesOf (slots.setIfInBounds place none)) := by
  have written := entriesOf_set (lt_size_of_getElem? there) entry
  rw [setIfInBounds_of_getElem? there] at written
  exact written

/-! ## The ring as a line -/

/-- How far behind the free slot a slot lies. -/
def depth (slots : Array Slot) (free slot : Nat) : Nat :=
  stepsFrom slots.size free slot

theorem depth_lt (hfree : free < slots.size) (hslot : slot < slots.size) :
    depth slots free slot < slots.size :=
  stepsFrom_lt hfree hslot

theorem depth_inj {other : Nat} (hfree : free < slots.size) (hslot : slot < slots.size)
    (hother : other < slots.size) (same : depth slots free slot = depth slots free other) :
    slot = other :=
  stepsFrom_inj hfree hslot hother same

/-- Slots with different contents lie apart. -/
theorem depth_ne {here there : Slot} (hfree : free < slots.size) (atSlot : slots[slot]? = some here)
    (atPlace : slots[place]? = some there) (differ : here ≠ there) :
    depth slots free slot ≠ depth slots free place := by
  intro steps
  have same := depth_inj hfree (lt_size_of_getElem? atSlot) (lt_size_of_getElem? atPlace) steps
  rw [same, atPlace] at atSlot
  cases atSlot
  exact differ rfl

@[simp] theorem depth_setIfInBounds (slots : Array Slot) (free slot place : Nat) (entry : Slot) :
    depth (slots.setIfInBounds place entry) free slot = depth slots free slot := by
  simp only [depth, Array.size_setIfInBounds]

/-- Every entry that is not in the hole lies at its home or behind it, the home is not the free
slot, and every slot in between is in use or the hole. -/
def LinkedBut (slots : Array Slot) (free hole : Nat) : Prop :=
  ∀ (place : Nat) (key value : Int32), place ≠ hole →
    slots[place]? = some (some (key, value)) →
    0 < depth slots free (homeIn slots.size key) ∧
      depth slots free (homeIn slots.size key) ≤ depth slots free place ∧
      ∀ slot < slots.size, slot ≠ hole →
        depth slots free (homeIn slots.size key) ≤ depth slots free slot →
        depth slots free slot < depth slots free place → slots[slot]? ≠ some none

theorem Linked.linkedBut (linked : Linked slots) (vacant : slots[free]? = some none) (hole : Nat) :
    LinkedBut slots free hole := by
  intro place key value _ there
  have hfree := lt_size_of_getElem? vacant
  have hplace := lt_size_of_getElem? there
  have hhome : homeIn slots.size key < slots.size := homeIn_lt (by omega) key
  have between := linked place key value there
  have origin : stepsFrom slots.size free free = 0 := stepsFrom_self hfree
  have apart : stepsFrom slots.size free place ≠ 0 := by
    intro zero
    have same := stepsFrom_inj hfree hplace hfree (by omega)
    rw [same, vacant] at there
    cases there
  -- Otherwise the free slot would lie between the entry and its home.
  have uncrossed : ¬ stepsFrom slots.size (homeIn slots.size key) free <
      stepsFrom slots.size (homeIn slots.size key) place :=
    fun crossed => between free hfree crossed vacant
  have short := stepsFrom_lt hfree hhome
  have toPlace := stepsFrom_rotate hfree hhome hplace
  have toFree := stepsFrom_rotate hfree hhome hfree
  refine ⟨?_, ?_, ?_⟩
  · show 0 < stepsFrom slots.size free (homeIn slots.size key)
    omega
  · show stepsFrom slots.size free (homeIn slots.size key) ≤ stepsFrom slots.size free place
    omega
  · intro slot hslot _ behind before
    refine between slot hslot ?_
    unfold depth at behind before
    have toSlot := stepsFrom_rotate hfree hhome hslot
    omega

/-- A ring that is linked but for a free slot is linked. -/
theorem LinkedBut.linked (linked : LinkedBut slots free free) (vacant : slots[free]? = some none) :
    Linked slots := by
  intro place key value there slot hslot before
  have hfree := lt_size_of_getElem? vacant
  have hplace := lt_size_of_getElem? there
  have hhome : homeIn slots.size key < slots.size := homeIn_lt (by omega) key
  have apart : place ≠ free := by
    rintro rfl
    rw [vacant] at there
    cases there
  obtain ⟨positive, ordered, between⟩ := linked place key value apart there
  have short := depth_lt hfree hplace
  unfold depth at positive ordered between short
  have toSlot := stepsFrom_rotate hfree hhome hslot
  have toPlace := stepsFrom_rotate hfree hhome hplace
  refine between slot hslot ?_ (by omega) (by omega)
  rintro rfl
  have origin : stepsFrom slots.size slot slot = 0 := stepsFrom_self hslot
  omega

/-! ## The gap -/

/-- A ring with a hole in it whose entries up to `last` do not need the hole. -/
structure Gap (slots : Array Slot) (free hole last : Nat) : Prop where
  vacant : slots[free]? = some none
  hole_lt : hole < slots.size
  last_lt : last < slots.size
  /-- The hole is not the free slot. -/
  apart : hole ≠ free
  ordered : depth slots free hole ≤ depth slots free last
  linked : LinkedBut slots free hole
  /-- An entry that needs the hole to be in use lies behind `last`. -/
  settled : ∀ (place : Nat) (key value : Int32), place ≠ hole →
    slots[place]? = some (some (key, value)) →
    depth slots free (homeIn slots.size key) ≤ depth slots free hole →
    depth slots free hole < depth slots free place → depth slots free last < depth slots free place

namespace Gap

/-- An entry that is taken out leaves a gap. -/
theorem start (linked : Linked slots) (vacant : slots[free]? = some none)
    (there : slots[hole]? = some (some (key, value))) : Gap slots free hole hole where
  vacant := vacant
  hole_lt := lt_size_of_getElem? there
  last_lt := lt_size_of_getElem? there
  apart := by
    rintro rfl
    rw [vacant] at there
    cases there
  ordered := Nat.le_refl _
  linked := linked.linkedBut vacant hole
  settled := fun _ _ _ _ _ _ behind => behind

/-- The slot behind `last`. -/
theorem depth_next (gap : Gap slots free hole last)
    (more : (last + 1) % slots.size ≠ free) :
    depth slots free ((last + 1) % slots.size) = depth slots free last + 1 :=
  stepsFrom_next (lt_size_of_getElem? gap.vacant) gap.last_lt more

theorem next_ne_free (gap : Gap slots free hole last) {entry : Int32 × Int32}
    (next : slots[(last + 1) % slots.size]? = some (some entry)) :
    (last + 1) % slots.size ≠ free := by
  intro same
  rw [same, gap.vacant] at next
  cases next

/-- An entry in the slot behind `last` lies one step further. -/
theorem depth_entry (gap : Gap slots free hole last) {entry : Int32 × Int32}
    (next : slots[(last + 1) % slots.size]? = some (some entry)) :
    depth slots free ((last + 1) % slots.size) = depth slots free last + 1 :=
  gap.depth_next (gap.next_ne_free next)

theorem next_ne_hole (gap : Gap slots free hole last) {entry : Int32 × Int32}
    (next : slots[(last + 1) % slots.size]? = some (some entry)) :
    (last + 1) % slots.size ≠ hole := by
  intro same
  have further := gap.depth_entry next
  have onward := gap.ordered
  rw [same] at further
  omega

/-- What lies behind `last` lies at the next slot or behind that. -/
theorem depth_next_le (gap : Gap slots free hole last) (hplace : place < slots.size)
    (behind : depth slots free last < depth slots free place) :
    depth slots free ((last + 1) % slots.size) = depth slots free last + 1 := by
  refine gap.depth_next ?_
  intro round
  have deepest := stepsFrom_last (lt_size_of_getElem? gap.vacant) gap.last_lt round
  have short := depth_lt (lt_size_of_getElem? gap.vacant) hplace
  unfold depth at behind short
  omega

/-- **A free slot behind the entries looked at** ends the gap: with the hole free the ring is
linked. -/
theorem done (gap : Gap slots free hole last)
    (next : slots[(last + 1) % slots.size]? = some none) :
    Linked (slots.setIfInBounds hole none) := by
  have vacant : (slots.setIfInBounds hole none)[free]? = some none := by
    rw [Array.getElem?_setIfInBounds_ne gap.apart]
    exact gap.vacant
  refine LinkedBut.linked ?_ vacant
  intro place key value _ there
  simp only [depth_setIfInBounds, Array.size_setIfInBounds] at *
  have away : place ≠ hole := by
    rintro rfl
    rw [Array.getElem?_setIfInBounds_self_of_lt gap.hole_lt] at there
    cases there
  rw [Array.getElem?_setIfInBounds_ne (Ne.symm away)] at there
  obtain ⟨positive, ordered, between⟩ := gap.linked place key value away there
  refine ⟨positive, ordered, ?_⟩
  intro slot hslot _ behind before
  by_cases same : slot = hole
  · subst same
    -- Such an entry lies behind `last`, so the free slot there would lie before it too.
    exfalso
    have hnext := lt_size_of_getElem? next
    have hplace := lt_size_of_getElem? there
    have beyond := gap.settled place key value away there behind before
    have further := gap.depth_next_le hplace beyond
    have onward := gap.ordered
    have passed : depth slots free ((last + 1) % slots.size) ≠ depth slots free place :=
      depth_ne (lt_size_of_getElem? gap.vacant) next there nofun
    refine between _ hnext ?_ (by omega) (by omega) next
    intro same
    rw [same] at further
    omega
  · rw [Array.getElem?_setIfInBounds_ne (Ne.symm same)]
    exact between slot hslot same behind before

/-- **Passing an entry by** that has its home behind the hole. -/
theorem pass (gap : Gap slots free hole last)
    (next : slots[(last + 1) % slots.size]? = some (some (key, value)))
    (stays : depth slots free hole < depth slots free (homeIn slots.size key)) :
    Gap slots free hole ((last + 1) % slots.size) where
  vacant := gap.vacant
  hole_lt := gap.hole_lt
  last_lt := lt_size_of_getElem? next
  apart := gap.apart
  ordered := by
    have further := gap.depth_entry next
    have onward := gap.ordered
    omega
  linked := gap.linked
  settled := by
    intro place held value' away there needs behind
    have further := gap.depth_entry next
    have beyond := gap.settled place held value' away there needs behind
    -- It is not the entry passed by, whose home lies behind the hole.
    have differ : some (key, value) ≠ some (held, value') := by
      rintro ⟨⟩
      omega
    have other := depth_ne (lt_size_of_getElem? gap.vacant) next there differ
    omega

/-- **Moving an entry into the hole** makes the place it leaves the hole. -/
theorem move (gap : Gap slots free hole last)
    (next : slots[(last + 1) % slots.size]? = some (some (key, value)))
    (moves : depth slots free (homeIn slots.size key) ≤ depth slots free hole) :
    Gap (slots.setIfInBounds hole (some (key, value))) free ((last + 1) % slots.size)
      ((last + 1) % slots.size) where
  vacant := by
    rw [Array.getElem?_setIfInBounds_ne gap.apart]
    exact gap.vacant
  hole_lt := by
    rw [Array.size_setIfInBounds]
    exact lt_size_of_getElem? next
  last_lt := by
    rw [Array.size_setIfInBounds]
    exact lt_size_of_getElem? next
  apart := gap.next_ne_free next
  ordered := Nat.le_refl _
  settled := fun _ _ _ _ _ _ behind => behind
  linked := by
    have further := gap.depth_entry next
    have onward := gap.ordered
    obtain ⟨positive, _, between⟩ := gap.linked _ key value (gap.next_ne_hole next) next
    intro place held value' away there
    simp only [depth_setIfInBounds, Array.size_setIfInBounds]
    by_cases moved : place = hole
    · -- The entry that was moved: what lies before the hole lay before its old place too.
      subst moved
      rw [Array.getElem?_setIfInBounds_self_of_lt gap.hole_lt] at there
      cases there
      refine ⟨positive, moves, ?_⟩
      intro slot hslot _ behind before
      have same : slot ≠ place := by
        rintro rfl
        omega
      rw [Array.getElem?_setIfInBounds_ne (Ne.symm same)]
      exact between slot hslot same behind (by omega)
    · -- Any other entry: the hole it may have needed is in use now.
      rw [Array.getElem?_setIfInBounds_ne (Ne.symm moved)] at there
      obtain ⟨positive', ordered', between'⟩ := gap.linked place held value' moved there
      refine ⟨positive', ordered', ?_⟩
      intro slot hslot _ behind before
      by_cases same : slot = hole
      · subst same
        rw [Array.getElem?_setIfInBounds_self_of_lt gap.hole_lt]
        simp
      · rw [Array.getElem?_setIfInBounds_ne (Ne.symm same)]
        exact between' slot hslot same behind before

/-- The test that decides whether an entry moves, seen from the free slot. -/
theorem moves_iff (gap : Gap slots free hole last)
    (next : slots[(last + 1) % slots.size]? = some (some (key, value))) :
    stepsFrom slots.size (homeIn slots.size key) hole ≤
        stepsFrom slots.size (homeIn slots.size key) ((last + 1) % slots.size) ↔
      depth slots free (homeIn slots.size key) ≤ depth slots free hole := by
  have hfree := lt_size_of_getElem? gap.vacant
  have hnext := lt_size_of_getElem? next
  have hhome : homeIn slots.size key < slots.size := homeIn_lt (by omega) key
  have further := gap.depth_entry next
  have onward := gap.ordered
  obtain ⟨_, ordered, _⟩ := gap.linked _ key value (gap.next_ne_hole next) next
  have short := depth_lt hfree hnext
  unfold depth at *
  have toHole := stepsFrom_rotate hfree hhome gap.hole_lt
  have toNext := stepsFrom_rotate hfree hhome hnext
  omega

/-- Moving an entry into the hole moves it past none of the others. -/
theorem entriesOf_move (gap : Gap slots free hole last)
    (next : slots[(last + 1) % slots.size]? = some (some (key, value))) :
    (entriesOf ((slots.setIfInBounds hole (some (key, value))).setIfInBounds
        ((last + 1) % slots.size) none)).Perm (entriesOf (slots.setIfInBounds hole none)) := by
  have distinct := gap.next_ne_hole next
  have unmoved : (slots.setIfInBounds hole none)[(last + 1) % slots.size]? =
      some (some (key, value)) := by
    rw [Array.getElem?_setIfInBounds_ne (Ne.symm distinct)]
    exact next
  have bound : hole < (slots.setIfInBounds ((last + 1) % slots.size) none).size := by
    rw [Array.size_setIfInBounds]
    exact gap.hole_lt
  rw [Array.setIfInBounds_comm _ _ (Ne.symm distinct)]
  refine (entriesOf_set bound _).trans ?_
  rw [Array.setIfInBounds_comm _ _ distinct]
  exact (entriesOf_perm unmoved).symm

/-- **Closing a gap** leaves a linked ring with the entries that were not in the hole. -/
theorem closeGap (gap : Gap slots free hole last) {steps : Nat}
    (enough : slots.size ≤ depth slots free last + steps) :
    (ProbeTable.closeGap slots steps hole last).size = slots.size ∧
      Linked (ProbeTable.closeGap slots steps hole last) ∧
      (entriesOf (ProbeTable.closeGap slots steps hole last)).Perm
        (entriesOf (slots.setIfInBounds hole none)) := by
  induction steps generalizing slots hole last with
  | zero =>
    have short := depth_lt (lt_size_of_getElem? gap.vacant) gap.last_lt
    omega
  | succ steps ih =>
    have hnext := succ_mod_lt gap.last_lt
    have there := Array.getElem?_eq_getElem hnext
    cases content : slots[(last + 1) % slots.size] with
    | none =>
      rw [content] at there
      simp only [ProbeTable.closeGap, there]
      exact ⟨Array.size_setIfInBounds, gap.done there, List.Perm.refl _⟩
    | some entry =>
      obtain ⟨key, value⟩ := entry
      rw [content] at there
      simp only [ProbeTable.closeGap, there, gap.moves_iff there]
      have further := gap.depth_entry there
      split
      next moves =>
        obtain ⟨size, linked, entries⟩ := ih (gap.move there moves) (by
          simp only [depth_setIfInBounds, Array.size_setIfInBounds]
          omega)
        rw [Array.size_setIfInBounds] at size
        exact ⟨size, linked, entries.trans (gap.entriesOf_move there)⟩
      next stays =>
        exact ih (gap.pass there (by omega)) (by omega)

end Gap

end ProbeTable

end DurableStore
