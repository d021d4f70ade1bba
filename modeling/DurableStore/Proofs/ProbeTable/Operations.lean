import DurableStore.Proofs.ProbeTable.Contents

/-!
Series of operations on a probe table.

An `Operation` is performed on a table and gives a `Result`; what it should do to a finite map is
`Operation.change`, and which results the map allows is `Operation.Allows`.  One operation on a
table that represents a map gives an allowed result and a table that represents the changed map
(`Represents.perform`), so by induction all results of a series are allowed, each by the map as the
operations before it left it (`results_explained`).
-/

namespace DurableStore

namespace ProbeTable

/-- An operation on a table. -/
inductive Operation where
  /-- Sets the value of a key. -/
  | put (key value : Int32)
  /-- Removes the entry of a key. -/
  | erase (key : Int32)
  /-- Asks for the value of a key. -/
  | get (key : Int32)
  /-- Asks for the value of a key, or the reserved one. -/
  | getOrReserved (key : Int32)
  /-- Asks whether a key has an entry. -/
  | contains (key : Int32)
  /-- Removes every entry. -/
  | clear
  /-- Asks for the number of entries. -/
  | count
  /-- Asks whether there are no entries. -/
  | isEmpty
  /-- Asks for every key with its value. -/
  | toList
  deriving DecidableEq, Repr

/-- What an operation gives. -/
inductive Result where
  /-- The value of a key, if it has one. -/
  | found (value : Option Int32)
  | value (value : Int32)
  | flag (holds : Bool)
  | number (count : Nat)
  | entries (entries : List (Int32 × Int32))
  /-- Nothing to tell. -/
  | done
  /-- The reserved value was not stored. -/
  | refused
  deriving DecidableEq, Repr

/-- Performs an operation; the result of `put` and `erase` is the value before. -/
def perform (table : ProbeTable) : Operation → Result × ProbeTable
  | .put key value =>
    match table.put? key value with
    | some (previous, table) => (.found previous, table)
    | none => (.refused, table)
  | .erase key => (table.erase key).map .found id
  | .get key => (.found (table.get? key), table)
  | .getOrReserved key => (.value (table.getOrReserved key), table)
  | .contains key => (.flag (table.contains key), table)
  | .clear => (.done, table.clear)
  | .count => (.number table.count, table)
  | .isEmpty => (.flag table.isEmpty, table)
  | .toList => (.entries table.toList, table)

/-- Performs one operation after another. -/
def performAll (table : ProbeTable) : List Operation → List Result × ProbeTable
  | [] => ([], table)
  | operation :: rest =>
    let (result, table) := table.perform operation
    let (results, table) := table.performAll rest
    (result :: results, table)

namespace Operation

/-- What an operation makes of a finite map. -/
def change (contents : Int32 → Option Int32) : Operation → Int32 → Option Int32
  | .put key value =>
    if value = reserved then contents else Function.update contents key (some value)
  | .erase key => Function.update contents key none
  | .clear => fun _ => none
  | .get _ | .getOrReserved _ | .contains _ | .count | .isEmpty | .toList => contents

/-- Which results a finite map allows. -/
def Allows (contents : Int32 → Option Int32) : Operation → Result → Prop
  | .put key value, result =>
    result = if value = reserved then .refused else .found (contents key)
  | .erase key, result | .get key, result => result = .found (contents key)
  | .getOrReserved key, result => result = .value ((contents key).getD reserved)
  | .contains key, result => result = .flag (contents key).isSome
  | .clear, result => result = .done
  | .count, result => ∃ count : Nat, result = .number count ∧
      {key | contents key ≠ none}.encard = count
  | .isEmpty, result => ∃ holds, result = .flag holds ∧ (holds ↔ ∀ key, contents key = none)
  | .toList, result => ∃ entries, result = .entries entries ∧ entries.Nodup ∧
      ∀ key value, (key, value) ∈ entries ↔ contents key = some value

end Operation

/-- Each result is allowed by the map as the operations before it left it. -/
def Explained (contents : Int32 → Option Int32) : List Operation → List Result → Prop
  | [], results => results = []
  | operation :: rest, results => ∃ result later, results = result :: later ∧
      operation.Allows contents result ∧ Explained (operation.change contents) rest later

variable {table : ProbeTable} {contents : Int32 → Option Int32}

/-- **One operation** gives a result that the map allows, and makes of the table what it makes of
the map. -/
theorem Represents.perform (h : table.Represents contents) (operation : Operation) :
    operation.Allows contents (table.perform operation).1 ∧
      (table.perform operation).2.Represents (operation.change contents) := by
  cases operation with
  | put key value =>
    unfold ProbeTable.perform Operation.Allows Operation.change
    by_cases same : value = reserved
    · simp only [ProbeTable.put?, if_pos same]
      exact ⟨trivial, h⟩
    · obtain ⟨after, stored, represents⟩ := h.put? same key
      simp only [stored, if_neg same]
      exact ⟨trivial, represents⟩
  | erase key =>
    obtain ⟨previous, after⟩ := h.erase key
    exact ⟨congrArg _ previous, after⟩
  | get key => exact ⟨congrArg _ (h.get? key), h⟩
  | getOrReserved key =>
    refine ⟨?_, h⟩
    show Result.value ((table.get? key).getD reserved) = _
    rw [h.get? key]
  | contains key =>
    refine ⟨?_, h⟩
    show Result.flag (table.get? key).isSome = _
    rw [h.get? key]
  | clear => exact ⟨rfl, h.clear⟩
  | count =>
    refine ⟨⟨table.count, rfl, ?_⟩, h⟩
    rw [h.counted]
    exact h.lists.length
  | isEmpty =>
    refine ⟨⟨table.isEmpty, rfl, ?_⟩, h⟩
    have length := h.lists.length
    rw [← h.counted] at length
    rw [isEmpty, beq_iff_eq, ← Nat.cast_inj (R := ℕ∞), ← length]
    simp [Set.eq_empty_iff_forall_notMem]
  | toList => exact ⟨⟨table.toList, rfl, h.lists.nodup, h.agrees⟩, h⟩

theorem Represents.performAll (h : table.Represents contents) (operations : List Operation) :
    Explained contents operations (table.performAll operations).1 ∧
      ∃ contents', (table.performAll operations).2.Represents contents' := by
  induction operations generalizing table contents with
  | nil => exact ⟨rfl, contents, h⟩
  | cons operation rest ih =>
    obtain ⟨allowed, after⟩ := h.perform operation
    obtain ⟨explained, later⟩ := ih after
    exact ⟨⟨_, _, rfl, allowed, explained⟩, later⟩

/-- Some series of operations makes this table of a fresh one. -/
def Reached (table : ProbeTable) : Prop :=
  ∃ room operations, ((withRoomFor room).performAll operations).2 = table

theorem Reached.represents (reached : table.Reached) : ∃ contents, table.Represents contents := by
  obtain ⟨room, operations, rfl⟩ := reached
  exact ((represents_withRoomFor room).performAll operations).2

/-- **A table is a finite map**, whatever room it was made with: every result of a series of
operations is the one the map gives, and no search ever gets lost. -/
theorem results_explained (room : Nat) (operations : List Operation) :
    Explained (fun _ => none) operations ((withRoomFor room).performAll operations).1 ∧
      ∀ key, ((withRoomFor room).performAll operations).2.search key ≠ .lost := by
  obtain ⟨explained, contents, after⟩ := (represents_withRoomFor room).performAll operations
  exact ⟨explained, after.search_ne_lost⟩

/-- A value is overwritten, an entry removed, and a search goes on behind its place. -/
example : (performAll .empty [.put 1 10, .put 1 11, .put 2 20, .erase 1, .get 1, .get 2,
    .put 3 reserved, .count]).1 =
    [.found none, .found (some 10), .found none, .found (some 11), .found none, .found (some 20),
      .refused, .number 1] := by
  decide +kernel

end ProbeTable

end DurableStore
