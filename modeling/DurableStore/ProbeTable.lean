/-!
A table from 32-bit keys to 32-bit values by open addressing.

The slots form a ring.  Each key has a home slot, and an entry lies in the first slot that was
free when it came, going round from its home.  Removing an entry moves later members of the same
run back, so no slot between an entry and its home is ever free and a search may stop at the first
free slot.  A table grows before more than three quarters of its slots would be used.

Every loop visits a slot at most once round the ring; `Landing.lost` is what a search that finds
neither its key nor a free slot would report.
-/

namespace DurableStore

/-- One slot of the ring: an entry's key and value, or nothing. -/
abbrev Slot := Option (Int32 × Int32)

/-- A ring of slots and the number of entries in it. -/
structure ProbeTable where
  slots : Array Slot
  count : Nat
  deriving DecidableEq, Inhabited

namespace ProbeTable

/-- The value that cannot be stored, and that stands for an absent one. -/
def reserved : Int32 := Int32.minValue

/-- The fewest slots of a table. -/
def fewestSlots : Nat := 16

/-- How many slots hold `entries` entries without growing: the least power of two that is above four
thirds of them and no less than the fewest slots. -/
def slotsFor (entries : Nat) : Nat :=
  let wanted := max (entries * 4 / 3 + 1) fewestSlots
  1 <<< ((wanted - 1).log2 + 1)

/-- No entries in `slots` slots. -/
def ofSlots (slots : Nat) : ProbeTable :=
  { slots := Array.replicate slots none, count := 0 }

/-- No entries, and room for `entries` of them. -/
def withRoomFor (entries : Nat) : ProbeTable :=
  ofSlots (slotsFor entries)

/-- No entries, and the usual room. -/
def empty : ProbeTable :=
  withRoomFor fewestSlots

/-- How many slots there are. -/
def capacity (table : ProbeTable) : Nat :=
  table.slots.size

/-- Whether there are no entries. -/
def isEmpty (table : ProbeTable) : Bool :=
  table.count == 0

/-- A key spread over all 32 bits, so that neighbours do not share a run. -/
def spread (key : Int32) : UInt32 :=
  let product := key.toUInt32 * 0x9E3779B9
  product ^^^ (product >>> 16)

/-- The slot where a search for `key` starts in a ring of `size` slots. -/
def homeIn (size : Nat) (key : Int32) : Nat :=
  (spread key).toNat % size

/-- How many steps lead from `start` to `slot` round a ring of `size` slots. -/
def stepsFrom (size start slot : Nat) : Nat :=
  (slot + size - start) % size

/-- Where a search ends. -/
inductive Landing where
  /-- At the key's entry, with its value. -/
  | entry (slot : Nat) (value : Int32)
  /-- At a free slot, so the key has no entry. -/
  | free (slot : Nat)
  /-- Nowhere: the ring has neither. -/
  | lost
  deriving DecidableEq, Repr

/-- Looks for `key` in at most `steps` slots from `slot` on. -/
def searchFrom (slots : Array Slot) (key : Int32) : (steps slot : Nat) → Landing
  | 0, _ => .lost
  | steps + 1, slot =>
    match slots[slot]? with
    | none => .lost
    | some none => .free slot
    | some (some (held, value)) =>
      if held = key then .entry slot value
      else searchFrom slots key steps ((slot + 1) % slots.size)

/-- Looks for `key` once round the ring. -/
def search (table : ProbeTable) (key : Int32) : Landing :=
  searchFrom table.slots key table.capacity (homeIn table.capacity key)

/-- The value of `key`. -/
def get? (table : ProbeTable) (key : Int32) : Option Int32 :=
  match table.search key with
  | .entry _ value => some value
  | .free _ | .lost => none

/-- The value of `key`, or the reserved value. -/
def getOrReserved (table : ProbeTable) (key : Int32) : Int32 :=
  (table.get? key).getD reserved

/-- Whether `key` has an entry. -/
def contains (table : ProbeTable) (key : Int32) : Bool :=
  (table.get? key).isSome

/-- Writes an entry where a search for its key ends; also the value that was there. -/
def place (table : ProbeTable) (key value : Int32) : Option Int32 × ProbeTable :=
  match table.search key with
  | .entry slot previous =>
    (some previous, { table with slots := table.slots.setIfInBounds slot (some (key, value)) })
  | .free slot =>
    (none, { slots := table.slots.setIfInBounds slot (some (key, value))
             count := table.count + 1 })
  | .lost => (none, table)

/-- The same entries in twice as many slots, placed in the order of their old slots. -/
def grow (table : ProbeTable) : ProbeTable :=
  table.slots.foldl (fun grown slot =>
    match slot with
    | some (key, value) => (grown.place key value).2
    | none => grown) (ofSlots (2 * table.capacity))

/-- Whether one more entry would fill more than three quarters of the slots. -/
def isCrowded (table : ProbeTable) : Bool :=
  (table.count + 1) * 4 > table.capacity * 3

/-- Sets the value of `key`, and gives the previous one. -/
def insert (table : ProbeTable) (key value : Int32) : Option Int32 × ProbeTable :=
  (if table.isCrowded then table.grow else table).place key value

/-- Sets the value of `key` unless it is the reserved one, and gives the previous value. -/
def put? (table : ProbeTable) (key value : Int32) : Option (Option Int32 × ProbeTable) :=
  if value = reserved then none else some (table.insert key value)

/-- Closes the gap at `hole`: walks on from `slot`, at most `steps` slots, and moves each entry
back into the gap that does not thereby come in front of its home.  The gap left over is freed. -/
def closeGap (slots : Array Slot) : (steps hole slot : Nat) → Array Slot
  | 0, hole, _ => slots.setIfInBounds hole none
  | steps + 1, hole, slot =>
    let size := slots.size
    let slot := (slot + 1) % size
    match slots[slot]? with
    | none | some none => slots.setIfInBounds hole none
    | some (some (key, value)) =>
      let home := homeIn size key
      if stepsFrom size home hole ≤ stepsFrom size home slot then
        closeGap (slots.setIfInBounds hole (some (key, value))) steps slot slot
      else
        closeGap slots steps hole slot

/-- Removes the entry of `key`, and gives its value. -/
def erase (table : ProbeTable) (key : Int32) : Option Int32 × ProbeTable :=
  match table.search key with
  | .entry slot value =>
    (some value, { slots := closeGap table.slots table.capacity slot slot
                   count := table.count - 1 })
  | .free _ | .lost => (none, table)

/-- The same slots, all free. -/
def clear (table : ProbeTable) : ProbeTable :=
  ofSlots table.capacity

/-- Every key with its value, in the order of the slots. -/
def toList (table : ProbeTable) : List (Int32 × Int32) :=
  table.slots.toList.filterMap id

@[simp] theorem capacity_ofSlots (slots : Nat) : (ofSlots slots).capacity = slots := by
  simp [ofSlots, capacity]

@[simp] theorem capacity_clear (table : ProbeTable) : table.clear.capacity = table.capacity := by
  simp [clear]

@[simp] theorem toList_clear (table : ProbeTable) : table.clear.toList = [] := by
  simp [clear, ofSlots, toList]

theorem capacity_place (table : ProbeTable) (key value : Int32) :
    (table.place key value).2.capacity = table.capacity := by
  unfold place
  split <;> simp [capacity]

end ProbeTable

end DurableStore
