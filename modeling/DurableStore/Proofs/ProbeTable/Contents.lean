import DurableStore.Proofs.ProbeTable.Gap
import Mathlib.Data.Set.Card

/-!
A probe table is a finite map.

`Represents table contents` says that a table is sound, that is its ring is linked, no key has two
entries and a quarter of the slots are free, and that its entries are those of the map `contents`.
A search in such a table never gets lost and gives what the map has for the key
(`Represents.get?`).  Each operation takes a representation to one of the map it should make
(`Represents.place`, `Represents.grow`, `Represents.erase`), whatever collides, grows or is moved
back.
-/

namespace DurableStore

namespace ProbeTable

variable {table : ProbeTable} {contents : Int32 → Option Int32} {slots : Array Slot}
  {key value : Int32}

/-! ## Listed maps -/

/-- The entries list a map, each key once. -/
structure Lists (entries : List (Int32 × Int32)) (contents : Int32 → Option Int32) : Prop where
  distinct : (entries.map Prod.fst).Nodup
  agrees : ∀ key value, (key, value) ∈ entries ↔ contents key = some value

namespace Lists

variable {entries rest : List (Int32 × Int32)}

theorem nil : Lists [] fun _ => none where
  distinct := List.nodup_nil
  agrees := by simp

theorem perm (lists : Lists entries contents) (reordered : entries.Perm rest) :
    Lists rest contents where
  distinct := (reordered.map Prod.fst).nodup_iff.1 lists.distinct
  agrees := fun key value => reordered.mem_iff.symm.trans (lists.agrees key value)

theorem nodup (lists : Lists entries contents) : entries.Nodup :=
  List.Nodup.of_map _ lists.distinct

theorem cons (lists : Lists rest contents) (absent : contents key = none) (value : Int32) :
    Lists ((key, value) :: rest) (Function.update contents key (some value)) where
  distinct := by
    rw [List.map_cons, List.nodup_cons]
    refine ⟨?_, lists.distinct⟩
    intro member
    obtain ⟨⟨_, other⟩, listed, rfl⟩ := List.mem_map.1 member
    have known := (lists.agrees _ other).1 listed
    rw [absent] at known
    cases known
  agrees := by
    intro other value'
    rw [List.mem_cons, lists.agrees, Prod.mk.injEq]
    by_cases same : other = key
    · subst same
      simp [absent, eq_comm]
    · simp [same]

theorem tail (lists : Lists ((key, value) :: rest) contents) :
    Lists rest (Function.update contents key none) where
  distinct := (List.nodup_cons.1 lists.distinct).2
  agrees := by
    intro other value'
    have fresh := (List.nodup_cons.1 lists.distinct).1
    have agrees := lists.agrees other value'
    rw [List.mem_cons, Prod.mk.injEq] at agrees
    by_cases same : other = key
    · subst same
      have absent : (other, value') ∉ rest :=
        fun member => fresh (List.mem_map.2 ⟨_, member, rfl⟩)
      simp [absent]
    · simpa [same] using agrees

/-- Two lists of one map differ in their order only. -/
theorem perm_of (lists : Lists entries contents) (other : Lists rest contents) :
    entries.Perm rest := by
  rw [List.perm_ext_iff_of_nodup lists.nodup other.nodup]
  rintro ⟨key, value⟩
  rw [lists.agrees, other.agrees]

/-- There are as many entries as keys. -/
theorem length (lists : Lists entries contents) :
    {key | contents key ≠ none}.encard = entries.length := by
  have keys : {key | contents key ≠ none} = ((entries.map Prod.fst).toFinset : Set Int32) := by
    ext key
    simp only [Set.mem_ofPred_eq, List.coe_toFinset, List.mem_map, Option.ne_none_iff_exists']
    constructor
    · rintro ⟨value, found⟩
      exact ⟨(key, value), (lists.agrees key value).2 found, rfl⟩
    · rintro ⟨⟨_, value⟩, member, rfl⟩
      exact ⟨value, (lists.agrees _ value).1 member⟩
  rw [keys, Set.encard_coe_eq_coe_finsetCard, List.toFinset_card_of_nodup lists.distinct,
    List.length_map]

end Lists

/-! ## Sound tables -/

/-- A table as its operations leave it. -/
structure Sound (table : ProbeTable) : Prop where
  power : table.capacity.isPowerOfTwo
  fewest : fewestSlots ≤ table.capacity
  counted : table.count = table.toList.length
  /-- At least a quarter of its slots are free. -/
  roomy : table.count * 4 ≤ table.capacity * 3
  distinct : (table.toList.map Prod.fst).Nodup
  linked : Linked table.slots

namespace Sound

theorem positive (sound : table.Sound) : 0 < table.capacity :=
  Nat.lt_of_lt_of_le (by decide) sound.fewest

/-- There is a free slot. -/
theorem vacant (sound : table.Sound) : ∃ free : Nat, table.slots[free]? = some none := by
  by_contra full
  have used : ∀ slot ∈ table.slots.toList, (id slot : Slot).isSome := by
    intro slot member
    obtain ⟨place, there⟩ := Array.mem_iff_getElem?.1 (Array.mem_toList_iff.1 member)
    cases slot with
    | none => exact absurd ⟨place, there⟩ full
    | some entry => rfl
  have same : table.toList.length = table.slots.size := by
    rw [toList, List.filterMap_length_eq_length.2 used, Array.length_toList]
  have counted := sound.counted
  have roomy := sound.roomy
  have positive := sound.positive
  unfold capacity at roomy positive
  omega

/-- No key has two entries. -/
theorem unique (sound : table.Sound) : Distinct table.slots := by
  have distinct := sound.distinct
  rw [List.Nodup, List.pairwise_map, toList, List.pairwise_filterMap,
    List.pairwise_iff_getElem] at distinct
  intro place other key value value' here there
  rw [← Array.getElem?_toList] at here there
  obtain ⟨bound, content⟩ := List.getElem?_eq_some_iff.1 here
  obtain ⟨bound', content'⟩ := List.getElem?_eq_some_iff.1 there
  rcases Nat.lt_trichotomy place other with before | same | behind
  · have differ := distinct place other bound bound' before
    exact absurd rfl (differ (key, value) content (key, value') content')
  · exact same
  · have differ := distinct other place bound' bound behind
    exact absurd rfl (differ (key, value') content' (key, value) content)

end Sound

/-! ## Linked rings with an entry more -/

/-- An entry may be written where every slot on the way from its home is in use. -/
theorem Linked.fill {place : Nat} (linked : Linked slots) (bound : place < slots.size)
    (reach : ∀ slot < slots.size,
      stepsFrom slots.size (homeIn slots.size key) slot <
        stepsFrom slots.size (homeIn slots.size key) place → slots[slot]? ≠ some none) :
    Linked (slots.setIfInBounds place (some (key, value))) := by
  intro other held value' there slot hslot before
  simp only [Array.size_setIfInBounds] at *
  by_cases written : slot = place
  · subst written
    rw [Array.getElem?_setIfInBounds_self_of_lt bound]
    simp
  · rw [Array.getElem?_setIfInBounds_ne (Ne.symm written)]
    by_cases same : other = place
    · subst same
      rw [Array.getElem?_setIfInBounds_self_of_lt bound] at there
      cases there
      exact reach slot hslot before
    · rw [Array.getElem?_setIfInBounds_ne (Ne.symm same)] at there
      exact linked other held value' there slot hslot before

theorem linked_replicate (size : Nat) : Linked (Array.replicate size none) := by
  intro place key value there
  rw [Array.getElem?_replicate] at there
  split at there <;> cases there

/-! ## Crowded tables -/

theorem isCrowded_eq_false_iff :
    table.isCrowded = false ↔ (table.count + 1) * 4 ≤ table.capacity * 3 := by
  unfold isCrowded
  rw [decide_eq_false_iff_not, gt_iff_lt, Nat.not_lt]

theorem insert_of_crowded (crowded : table.isCrowded = true) (key value : Int32) :
    table.insert key value = table.grow.place key value := by
  unfold insert
  rw [if_pos crowded]

theorem insert_of_calm (calm : table.isCrowded = false) (key value : Int32) :
    table.insert key value = table.place key value := by
  unfold insert
  rw [if_neg (ne_true_of_eq_false calm)]

/-! ## Representations -/

/-- A sound table with the entries of a map. -/
structure Represents (table : ProbeTable) (contents : Int32 → Option Int32) : Prop
    extends table.Sound where
  agrees : ∀ key value, (key, value) ∈ table.toList ↔ contents key = some value

namespace Represents

theorem lists (h : table.Represents contents) : Lists table.toList contents :=
  ⟨h.distinct, h.agrees⟩

/-- **A search never gets lost**: it ends at the key's entry, or at a free slot with nothing free
between the key's home and it. -/
theorem search_cases (h : table.Represents contents) (key : Int32) :
    (∃ place value, table.search key = .entry place value ∧ contents key = some value ∧
        table.slots[place]? = some (some (key, value))) ∨
      ∃ place, table.search key = .free place ∧ contents key = none ∧
        table.slots[place]? = some none ∧
        Passed table.slots key (homeIn table.capacity key)
          (stepsFrom table.capacity (homeIn table.capacity key) place) := by
  cases found : contents key with
  | some value =>
    obtain ⟨place, there⟩ := mem_entriesOf.1 ((h.agrees key value).2 found)
    exact .inl ⟨place, value, h.linked.search_eq_entry h.unique there, rfl, there⟩
  | none =>
    obtain ⟨free, vacant⟩ := h.vacant
    have absent : ∀ (place : Nat) (value : Int32),
        table.slots[place]? ≠ some (some (key, value)) := by
      intro place value there
      have known := (h.agrees key value).1 (mem_entriesOf.2 ⟨place, there⟩)
      rw [found] at known
      cases known
    obtain ⟨place, ends, reached, passed⟩ := search_eq_free absent vacant
    exact .inr ⟨place, ends, rfl, reached, passed⟩

theorem search_ne_lost (h : table.Represents contents) (key : Int32) :
    table.search key ≠ .lost := by
  rcases h.search_cases key with ⟨_, _, ends, _⟩ | ⟨_, ends, _⟩ <;> rw [ends] <;> simp

/-- A table gives what the map has. -/
theorem get? (h : table.Represents contents) (key : Int32) : table.get? key = contents key := by
  unfold ProbeTable.get?
  rcases h.search_cases key with ⟨_, _, ends, found, _⟩ | ⟨_, ends, found, _⟩ <;>
    rw [ends, found]

theorem ofSlots {size : Nat} (power : size.isPowerOfTwo) (fewest : fewestSlots ≤ size) :
    (ofSlots size).Represents fun _ => none := by
  have none : (ProbeTable.ofSlots size).toList = [] := by
    simp [ProbeTable.ofSlots, toList]
  refine ⟨⟨?_, ?_, ?_, ?_, ?_, ?_⟩, ?_⟩
  · rw [capacity_ofSlots]
    exact power
  · rw [capacity_ofSlots]
    exact fewest
  · rw [none]
    rfl
  · exact Nat.zero_le _
  · rw [none]
    exact List.nodup_nil
  · exact linked_replicate size
  · rw [none]
    simp

/-- As many slots that list another map. -/
theorem of_size (h : table.Represents contents) {count : Nat} {others : Int32 → Option Int32}
    (size : slots.size = table.capacity) (listed : Lists (entriesOf slots) others)
    (counted : count = (entriesOf slots).length) (roomy : count * 4 ≤ table.capacity * 3)
    (linked : Linked slots) : Represents ⟨slots, count⟩ others where
  power := by
    show slots.size.isPowerOfTwo
    rw [size]
    exact h.power
  fewest := by
    show fewestSlots ≤ slots.size
    rw [size]
    exact h.fewest
  counted := counted
  roomy := by
    show count * 4 ≤ slots.size * 3
    rw [size]
    exact roomy
  distinct := listed.distinct
  linked := linked
  agrees := listed.agrees

/-- **Writing an entry** where a search for its key ends updates the map. -/
theorem place (h : table.Represents contents) (key value : Int32)
    (room : contents key = none → (table.count + 1) * 4 ≤ table.capacity * 3) :
    (table.place key value).1 = contents key ∧
      (table.place key value).2.Represents (Function.update contents key (some value)) := by
  unfold ProbeTable.place
  rcases h.search_cases key with ⟨place, previous, ends, found, there⟩ |
      ⟨place, ends, absent, vacant, passed⟩
  · rw [ends, found]
    refine ⟨rfl, ?_⟩
    have bound := lt_size_of_getElem? there
    have before := entriesOf_perm there
    have after := entriesOf_set bound (some (key, value))
    have lists := (h.lists.perm before).tail.cons (Function.update_self ..) value
    rw [Function.update_idem] at lists
    refine h.of_size Array.size_setIfInBounds (lists.perm after.symm) ?_ h.roomy ?_
    · rw [after.length_eq, h.counted]
      exact before.length_eq
    · exact h.linked.fill bound (h.linked place key previous there)
  · rw [ends, absent]
    refine ⟨rfl, ?_⟩
    have bound := lt_size_of_getElem? vacant
    have before := entriesOf_perm vacant
    have after := entriesOf_set bound (some (key, value))
    have listed := ((h.lists.perm before).cons absent value).perm after.symm
    refine h.of_size Array.size_setIfInBounds listed ?_ (room absent) ?_
    · rw [after.length_eq, h.counted, show table.toList.length = _ from before.length_eq]
      rfl
    · refine h.linked.fill bound ?_
      intro slot hslot near free
      obtain ⟨held, value, used, -⟩ := passed slot hslot near
      rw [free] at used
      cases used

theorem count_eq (h : table.Represents contents) {other : ProbeTable}
    (h' : other.Represents contents) : other.count = table.count := by
  rw [h'.counted, h.counted]
  exact (h'.lists.perm_of h.lists).length_eq

/-- Placing the entries of the remaining slots one by one. -/
theorem place_all (todo : List Slot) {placed : Int32 → Option Int32}
    (h : table.Represents placed)
    (whole : Lists (todo.filterMap id ++ table.toList) contents)
    (room : ((todo.filterMap id).length + table.count) * 4 ≤ table.capacity * 3) :
    let grown := todo.foldl (fun grown slot =>
      match slot with
      | some (key, value) => (grown.place key value).2
      | none => grown) table
    grown.Represents contents ∧ grown.capacity = table.capacity := by
  induction todo generalizing table placed with
  | nil => exact ⟨⟨h.toSound, whole.agrees⟩, rfl⟩
  | cons slot todo ih =>
    cases slot with
    | none => exact ih h whole room
    | some entry =>
      obtain ⟨key, value⟩ := entry
      simp only [List.filterMap_cons_some (f := id) rfl, List.cons_append,
        List.length_cons] at whole room
      have absent : placed key = none := by
        have fresh := (List.nodup_cons.1 whole.distinct).1
        cases found : placed key with
        | none => rfl
        | some old =>
          have member := List.mem_append_right (todo.filterMap id) ((h.agrees key old).2 found)
          exact absurd (List.mem_map.2 ⟨_, member, rfl⟩) fresh
      obtain ⟨-, after⟩ := h.place key value fun _ => by omega
      have written := after.lists.perm_of (h.lists.cons absent value)
      have counted : (table.place key value).2.count = table.count + 1 := by
        rw [after.counted, h.counted]
        exact written.length_eq
      have capacity := capacity_place table key value
      obtain ⟨grown, same⟩ := ih after
        (whole.perm (List.perm_middle.symm.trans (written.symm.append_left _)))
        (by rw [counted, capacity]; omega)
      exact ⟨grown, same.trans capacity⟩

/-- Placing the entries of some slots in twice as many. -/
theorem refill (h : table.Represents contents) {todo : List Slot}
    {placed : Int32 → Option Int32} (listed : Lists (todo.filterMap id) placed)
    (few : (todo.filterMap id).length ≤ table.count) :
    let grown := todo.foldl (fun grown slot =>
      match slot with
      | some (key, value) => (grown.place key value).2
      | none => grown) (ProbeTable.ofSlots (2 * table.capacity))
    grown.Represents placed ∧ grown.capacity = 2 * table.capacity := by
  have roomy := h.roomy
  have fewest := h.fewest
  have power : (2 * table.capacity).isPowerOfTwo := by
    rw [Nat.mul_comm]
    exact Nat.isPowerOfTwo_mul_two_of_isPowerOfTwo h.power
  have fresh := ofSlots power (by omega)
  have none : (ProbeTable.ofSlots (2 * table.capacity)).toList = [] := by
    simp [ProbeTable.ofSlots, toList]
  have whole : Lists (todo.filterMap id ++
      (ProbeTable.ofSlots (2 * table.capacity)).toList) placed := by
    rw [none, List.append_nil]
    exact listed
  have room : ((todo.filterMap id).length + 0) * 4 ≤
      (ProbeTable.ofSlots (2 * table.capacity)).capacity * 3 := by
    rw [capacity_ofSlots]
    omega
  obtain ⟨grown, capacity⟩ := place_all todo fresh whole room
  exact ⟨grown, capacity.trans (capacity_ofSlots _)⟩

/-- **Growing** keeps every entry and doubles the slots. -/
theorem grow (h : table.Represents contents) :
    table.grow.Represents contents ∧ table.grow.capacity = 2 * table.capacity := by
  unfold ProbeTable.grow
  rw [← Array.foldl_toList]
  exact h.refill h.lists (Nat.le_of_eq h.counted.symm)

/-- **Setting a value** grows the table first if it must. -/
theorem insert (h : table.Represents contents) (key value : Int32) :
    (table.insert key value).1 = contents key ∧
      (table.insert key value).2.Represents (Function.update contents key (some value)) := by
  cases crowded : table.isCrowded with
  | true =>
    obtain ⟨grown, capacity⟩ := h.grow
    have count := h.count_eq grown
    have roomy := h.roomy
    have positive := h.positive
    rw [insert_of_crowded crowded]
    refine grown.place key value fun _ => ?_
    omega
  | false =>
    rw [insert_of_calm crowded]
    exact h.place key value fun _ => isCrowded_eq_false_iff.1 crowded

/-- **Setting a value that can be stored** is not refused. -/
theorem put? (h : table.Represents contents) {value : Int32} (storable : value ≠ reserved)
    (key : Int32) :
    ∃ after, table.put? key value = some (contents key, after) ∧
      after.Represents (Function.update contents key (some value)) := by
  obtain ⟨previous, after⟩ := h.insert key value
  refine ⟨_, ?_, after⟩
  unfold ProbeTable.put?
  rw [if_neg storable, ← previous]

/-- **Removing an entry** closes the gap it leaves. -/
theorem erase (h : table.Represents contents) (key : Int32) :
    (table.erase key).1 = contents key ∧
      (table.erase key).2.Represents (Function.update contents key none) := by
  unfold ProbeTable.erase
  rcases h.search_cases key with ⟨place, value, ends, found, there⟩ | ⟨place, ends, absent, -, -⟩
  · rw [ends, found]
    refine ⟨rfl, ?_⟩
    obtain ⟨free, vacant⟩ := h.vacant
    obtain ⟨size, linked, closed⟩ :=
      (Gap.start h.linked vacant there).closeGap (Nat.le_add_left _ _)
    have before := entriesOf_perm there
    have listed := (h.lists.perm before).tail.perm closed.symm
    have counted : table.count = table.toList.length := h.counted
    have length : table.toList.length =
        (entriesOf (table.slots.setIfInBounds place none)).length + 1 := before.length_eq
    have roomy := h.roomy
    refine h.of_size size listed ?_ (by omega) linked
    show table.count - 1 = (entriesOf (closeGap table.slots table.slots.size place place)).length
    rw [closed.length_eq]
    omega
  · rw [ends, absent]
    refine ⟨rfl, ?_⟩
    rw [← absent, Function.update_eq_self]
    exact h

theorem clear (h : table.Represents contents) : table.clear.Represents fun _ => none :=
  ofSlots h.power h.fewest

end Represents

theorem le_slotsFor (entries : Nat) :
    max (entries * 4 / 3 + 1) fewestSlots ≤ slotsFor entries := by
  unfold slotsFor
  generalize max (entries * 4 / 3 + 1) fewestSlots = wanted
  have above := Nat.lt_log2_self (n := wanted - 1)
  show wanted ≤ 1 <<< ((wanted - 1).log2 + 1)
  rw [Nat.one_shiftLeft]
  omega

theorem represents_withRoomFor (entries : Nat) :
    (withRoomFor entries).Represents fun _ => none := by
  refine .ofSlots ⟨_, Nat.one_shiftLeft _⟩ ?_
  have enough := le_slotsFor entries
  omega

end ProbeTable

end DurableStore
