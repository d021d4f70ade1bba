import DurableStore.Proofs.ProbeTable.Operations

/-!
How many entries a table has room for.

A table grows when a put finds it crowded, also if the put only overwrites a value.  So a table
with room for `room` entries must not be crowded when it holds all of them: one entry more still
has to fit into three quarters of its slots.  The division in `slotsFor` rounds down, but the
number of slots is a multiple of four, which makes up for it (`room_fits`).  Only a put into a
crowded table changes the number of slots (`capacity_perform`), and hence none does as long as the
keys with a value are no more than the table was made for (`capacity_of_within`).
-/

namespace DurableStore

namespace ProbeTable

variable {table : ProbeTable} {contents : Int32 → Option Int32} {room : Nat}

/-! ## The slots of a fresh table -/

theorem four_dvd_slotsFor (room : Nat) : 4 ∣ slotsFor room := by
  have enough := le_slotsFor room
  obtain ⟨exponent, power⟩ : (slotsFor room).isPowerOfTwo := ⟨_, Nat.one_shiftLeft _⟩
  unfold fewestSlots at enough
  rw [power] at enough ⊢
  have large : 2 ^ 2 ≤ 2 ^ exponent := by omega
  exact Nat.pow_dvd_pow 2 ((Nat.pow_le_pow_iff_right (by decide)).1 large)

/-- One entry more than the table was made for still fits. -/
theorem room_fits (room : Nat) : (room + 1) * 4 ≤ slotsFor room * 3 := by
  have enough := le_slotsFor room
  obtain ⟨quarter, slots⟩ := four_dvd_slotsFor room
  omega

/-! ## What changes the number of slots -/

theorem size_closeGap (slots : Array Slot) (steps hole last : Nat) :
    (closeGap slots steps hole last).size = slots.size := by
  fun_induction closeGap slots steps hole last <;> simp_all

theorem capacity_erase (table : ProbeTable) (key : Int32) :
    (table.erase key).2.capacity = table.capacity := by
  unfold erase
  split
  next => exact size_closeGap ..
  next => rfl
  next => rfl

/-- No operation changes the number of slots of a table that is not crowded. -/
theorem capacity_perform (calm : table.isCrowded = false) (operation : Operation) :
    (table.perform operation).2.capacity = table.capacity := by
  cases operation with
  | put key value =>
    by_cases same : value = reserved
    · simp only [perform, put?, if_pos same]
    · simp only [perform, put?, if_neg same, insert_of_calm calm]
      exact capacity_place table key value
  | erase key => exact capacity_erase table key
  | clear => exact capacity_clear table
  | get _ | getOrReserved _ | contains _ | count | isEmpty | toList => rfl

/-! ## Tables with room for every key -/

/-- What a series of operations makes of a finite map. -/
def Operation.changeAll (contents : Int32 → Option Int32) (operations : List Operation) :
    Int32 → Option Int32 :=
  operations.foldl (fun contents operation => operation.change contents) contents

/-- The keys that have a value. -/
def liveKeys (contents : Int32 → Option Int32) : Set Int32 :=
  {key | contents key ≠ none}

namespace Represents

theorem encard_liveKeys (h : table.Represents contents) :
    (liveKeys contents).encard = table.count := by
  rw [h.counted]
  exact h.lists.length

theorem changeAll (h : table.Represents contents) (operations : List Operation) :
    (table.performAll operations).2.Represents (Operation.changeAll contents operations) := by
  induction operations generalizing table contents with
  | nil => exact h
  | cons operation rest ih => exact ih (h.perform operation).2

/-- A table that has room for one key more than are ever live keeps its slots. -/
theorem capacity_performAll (h : table.Represents contents)
    (fits : (room + 1) * 4 ≤ table.capacity * 3) (operations : List Operation)
    (within : ∀ front, front <+: operations →
      (liveKeys (Operation.changeAll contents front)).encard ≤ room) :
    (table.performAll operations).2.capacity = table.capacity := by
  induction operations generalizing table contents with
  | nil => rfl
  | cons operation rest ih =>
    have few : (liveKeys contents).encard ≤ room := within [] List.nil_prefix
    rw [h.encard_liveKeys, Nat.cast_le] at few
    have calm : table.isCrowded = false := isCrowded_eq_false_iff.2 (by omega)
    have same := capacity_perform calm operation
    have later := ih (h.perform operation).2 (by rw [same]; exact fits) fun front part =>
      within (operation :: front) (List.cons_prefix_cons.2 ⟨rfl, part⟩)
    exact later.trans same

end Represents

/-- **The room asked for is honoured**: in a series of operations that never has more live keys than
the table was made for, the number of slots never changes, and the table holds them all. -/
theorem capacity_of_within (room : Nat) (operations : List Operation)
    (within : ∀ front, front <+: operations →
      (liveKeys (Operation.changeAll (fun _ => none) front)).encard ≤ room) :
    ∀ front, front <+: operations →
      ((withRoomFor room).performAll front).2.capacity = (withRoomFor room).capacity ∧
        ∀ key, ((withRoomFor room).performAll front).2.get? key =
          Operation.changeAll (fun _ => none) front key := by
  intro front part
  have fresh := represents_withRoomFor room
  have fits : (room + 1) * 4 ≤ (withRoomFor room).capacity * 3 := by
    rw [withRoomFor, capacity_ofSlots]
    exact room_fits room
  refine ⟨fresh.capacity_performAll fits front ?_, (fresh.changeAll front).get?⟩
  intro first earlier
  exact within first (earlier.trans part)

/-- Eleven keys are put, one of them is put again, one is removed and another put in its place. -/
def elevenKeys : List Operation :=
  [1, 2, 3, 4, 5, 6, 7, 8, 9, 10, 11].map (fun key => .put key 7) ++
    [.put 6 8, .erase 4, .get 5, .put 12 7, .put 12 9]

/-- Three quarters of the sixteen slots are twelve, so with one key more the table is crowded. -/
theorem capacity_of_within_eleven :
    (∀ front, front <+: elevenKeys →
      (liveKeys (Operation.changeAll (fun _ => none) front)).encard ≤ 11) ∧
    ((withRoomFor 11).performAll elevenKeys).2.capacity = 16 ∧
    ((withRoomFor 11).performAll (elevenKeys ++ [.put 13 7, .put 13 8])).2.capacity = 32 := by
  have few : ∀ front ∈ elevenKeys.inits, ((withRoomFor 11).performAll front).2.count ≤ 11 := by
    decide +kernel
  have within : ∀ front, front <+: elevenKeys →
      (liveKeys (Operation.changeAll (fun _ => none) front)).encard ≤ (11 : Nat) := by
    intro front part
    rw [((represents_withRoomFor 11).changeAll front).encard_liveKeys, Nat.cast_le]
    exact few front ((List.mem_inits _ _).2 part)
  obtain ⟨kept, -⟩ := capacity_of_within 11 elevenKeys within _ (List.prefix_refl _)
  exact ⟨within, kept.trans (by decide +kernel), by decide +kernel⟩

end ProbeTable

end DurableStore
