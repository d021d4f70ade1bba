import DurableStore.ObjectIds

/-!
The accounts of one space of ids.

A ledger's `Accounts` are in order with respect to the ids that were ever handed out, in this
process or an earlier one, and to the mark that a later start would begin above: all of them lie
below the mark and below the next fresh id.

* `Accounts.ofMark` — they are in order when a ledger starts above the mark;
* `Accounts.allocate` — an allocation below the mark keeps them in order, one above it does once the
  new mark is on disk, and giving the id up keeps them too;
* `Accounts.retain`, `Accounts.release`, `Accounts.markPersisted` — so does all else.
-/

namespace DurableStore

/-! ## Arithmetic of marks -/

theorem lt_add_one_of_ne_maxValue {id : Int32} (h : id ≠ Int32.maxValue) : id < id + 1 := by
  have top : id.toInt ≠ 2147483647 := fun same => h (Int32.toInt_inj.1 same)
  have above := id.toInt_lt
  have below := id.le_toInt
  have one : (1 : Int32).toInt = 1 := rfl
  rw [Int32.lt_iff_toInt_lt, Int32.toInt_add, one, Int.bmod_eq_of_le] <;> omega

theorem le_ofIntClamp_add (mark : Int32) :
    mark ≤ Int32.ofIntClamp (mark.toInt + reservationChunk) := by
  have below := mark.minValue_le_toInt
  have above := mark.toInt_le
  have chunk : reservationChunk = 1024 := rfl
  rw [Int32.le_iff_toInt_le]
  by_cases room : mark.toInt + reservationChunk ≤ Int32.maxValue.toInt
  · rw [Int32.toInt_ofIntClamp (by omega) room]
    omega
  · have full : Int32.ofIntClamp (mark.toInt + reservationChunk) = Int32.maxValue := by
      unfold Int32.ofIntClamp
      rw [dif_pos (by omega), dif_neg room]
    rw [full]
    exact above

namespace IdLedger

/-! ## Accounts -/

/-- Every id that was ever handed out lies below the mark on disk and below the next fresh id, and
the ids that may be handed out again are among them. -/
structure Accounts (ledger : IdLedger) (handed : ObjectId → Prop) (mark : Int32) : Prop where
  persisted : ledger.persistedUntil = mark
  reserved : mark ≤ ledger.reservedUntil
  start : firstId ≤ mark
  covered : ∀ id, handed id → id < mark
  used : ∀ id, handed id → id < ledger.nextFresh
  live : ∀ id, id ∈ ledger.live → handed id
  free : ∀ id ∈ ledger.free, handed id

variable {ledger after : IdLedger} {handed : ObjectId → Prop} {mark : Int32} {id other : ObjectId}

theorem mem_live_insert {references : Int32} :
    other ∈ ledger.live.insert id references ↔ other = id ∨ other ∈ ledger.live := by
  rw [Std.TreeMap.mem_insert, Std.LawfulEqCmp.compare_eq_iff_eq, eq_comm]

theorem mem_live_erase : other ∈ ledger.live.erase id ↔ other ≠ id ∧ other ∈ ledger.live := by
  rw [Std.TreeMap.mem_erase, ne_eq, Std.LawfulEqCmp.compare_eq_iff_eq, eq_comm]

theorem mem_live_of_getElem? {references : Int32} (h : ledger.live[id]? = some references) :
    id ∈ ledger.live := by
  rw [Std.TreeMap.mem_iff_isSome_getElem?, h]
  rfl

theorem firstId_le_ofMark (mark : Int32) : firstId ≤ (ofMark mark).nextFresh := by
  show firstId ≤ if mark < firstId then firstId else mark
  split
  next => exact Int32.le_refl firstId
  next high => exact Int32.not_lt.1 high

theorem nextFresh_ofMark (h : firstId ≤ mark) : (ofMark mark).nextFresh = mark :=
  if_neg (Int32.not_lt.2 h)

theorem Accounts.ofMark (covered : ∀ id, handed id → id < (IdLedger.ofMark mark).nextFresh) :
    (IdLedger.ofMark mark).Accounts handed (IdLedger.ofMark mark).nextFresh :=
  ⟨rfl, Int32.le_refl _, firstId_le_ofMark mark, covered, covered, fun id member => by
    exact absurd member Std.TreeMap.not_mem_emptyc, nofun⟩

/-- The ids handed out, with one more among them. -/
def With (handed : ObjectId → Prop) (id : ObjectId) (other : ObjectId) : Prop :=
  handed other ∨ other = id

/-! ## Allocating -/

theorem allocateFresh_eq_some {allocation : Allocation}
    (h : ledger.allocateFresh = (some allocation, after)) :
    allocation.id = ledger.nextFresh ∧ allocation.id < after.nextFresh ∧
      (allocation.advanced = false → after.nextFresh ≤ ledger.persistedUntil) ∧
      (allocation.advanced = true → after.nextFresh ≤ after.reservedUntil) ∧
      ledger.reservedUntil ≤ after.reservedUntil ∧ after.persistedUntil = ledger.persistedUntil ∧
      after.live = ledger.live.insert allocation.id 1 ∧ after.free = ledger.free ∧
      after.freeSet = ledger.freeSet := by
  unfold allocateFresh at h
  simp only at h
  split at h
  next => cases h
  next room =>
    cases h
    refine ⟨rfl, lt_add_one_of_ne_maxValue room, ?_, ?_, ?_, rfl, rfl, rfl, rfl⟩
    · intro still
      exact Int32.not_lt.1 (of_decide_eq_false still)
    · intro advanced
      split
      next => exact le_ofIntClamp_add _
      next enough => exact Int32.not_lt.1 fun lower => enough ⟨advanced, lower⟩
    · split
      next moved => exact Int32.le_trans (Int32.le_of_lt moved.2) (le_ofIntClamp_add _)
      next => exact Int32.le_refl _

/-- An id comes from the free list if that is asked for and can be, and else it is fresh. -/
theorem allocate_cases {needFresh : Bool} {allocation : Allocation}
    (got : ledger.allocate needFresh = (some allocation, after)) :
    (∃ rest, needFresh = false ∧ ledger.free = allocation.id :: rest ∧
        allocation.advanced = false ∧ after = { ledger with
          live := ledger.live.insert allocation.id 1
          free := rest
          freeSet := ledger.freeSet.erase allocation.id }) ∨
      ledger.allocateFresh = (some allocation, after) := by
  unfold allocate at got
  split at got
  next id rest free =>
    cases got
    exact .inl ⟨rest, rfl, free, rfl, rfl⟩
  next => exact .inr got

/-- An id that is handed out again was handed out before. -/
theorem Accounts.reuse (h : ledger.Accounts handed mark) {rest : List ObjectId}
    (free : ledger.free = id :: rest) (freeSet : Std.TreeSet ObjectId) :
    ({ ledger with live := ledger.live.insert id 1, free := rest, freeSet } : IdLedger).Accounts
      (With handed id) mark := by
  have before : handed id := h.free id (free ▸ List.mem_cons_self)
  have known {other : ObjectId} (either : With handed id other) : handed other := by
    rcases either with handed | rfl
    · exact handed
    · exact before
  refine ⟨h.persisted, h.reserved, h.start, fun other either => h.covered other (known either),
    fun other either => h.used other (known either), ?_,
    fun other member => .inl (h.free other (free ▸ List.mem_cons_of_mem _ member))⟩
  intro other member
  rcases mem_live_insert.1 member with rfl | live
  · exact .inr rfl
  · exact .inl (h.live other live)

/-- **An allocation keeps the accounts in order**, a fresh id lies above all that were handed out,
and one above the mark is handed out only once the mark has moved beyond it. -/
theorem Accounts.allocate (h : ledger.Accounts handed mark) {needFresh : Bool}
    {allocation : Allocation} (got : ledger.allocate needFresh = (some allocation, after)) :
    (needFresh = true → ∀ id, handed id → id < allocation.id) ∧
      (allocation.advanced = false → after.Accounts (With handed allocation.id) mark) ∧
      (allocation.advanced = true →
        (after.discard allocation.id).Accounts handed mark ∧
          after.markPersisted.Accounts (With handed allocation.id) after.reservedUntil) := by
  rcases allocate_cases got with ⟨rest, recycled, free, advanced, rfl⟩ | got
  · exact ⟨by simp [recycled], fun _ => h.reuse free _, by simp [advanced]⟩
  · obtain ⟨fresh, used, still, moved, grown, persisted, live, free, -⟩ :=
      allocateFresh_eq_some got
    have above : ∀ id, handed id → id < allocation.id := fun id before =>
      fresh ▸ h.used id before
    have used' : ∀ id, With handed allocation.id id → id < after.nextFresh := by
      rintro id (before | rfl)
      · exact Int32.lt_trans (above id before) used
      · exact used
    -- The ledger has the new id among the live ones before it is handed out.
    have live' : ∀ id, id ∈ after.live → With handed allocation.id id := by
      intro id member
      rw [live] at member
      rcases mem_live_insert.1 member with rfl | member
      · exact .inr rfl
      · exact .inl (h.live id member)
    have free' : ∀ id ∈ after.free, handed id := by
      rw [free]
      exact h.free
    have reserved : mark ≤ after.reservedUntil := Int32.le_trans h.reserved grown
    refine ⟨fun _ => above, fun below => ?_, fun advanced => ⟨?_, ?_⟩⟩
    · refine ⟨persisted.trans h.persisted, reserved, h.start, ?_, used', live',
        fun id member => .inl (free' id member)⟩
      rintro id (before | rfl)
      · exact h.covered id before
      · rw [← h.persisted]
        exact Int32.lt_of_lt_of_le used (still below)
    · refine ⟨persisted.trans h.persisted, reserved, h.start, h.covered,
        fun id before => used' id (.inl before), ?_, free'⟩
      intro id member
      -- The id that is given up is the only live one that was not handed out.
      obtain ⟨differs, member⟩ := mem_live_erase.1 member
      rcases live' id member with before | rfl
      · exact before
      · exact absurd rfl differs
    · exact ⟨rfl, Int32.le_refl _, Int32.le_trans h.start reserved,
        fun id either => Int32.lt_of_lt_of_le (used' id either) (moved advanced), used', live',
        fun id member => .inl (free' id member)⟩

/-! ## All else -/

theorem Accounts.markPersisted (h : ledger.Accounts handed mark) :
    ledger.markPersisted.Accounts handed ledger.reservedUntil :=
  ⟨rfl, Int32.le_refl _, Int32.le_trans h.start h.reserved,
    fun id before => Int32.lt_of_lt_of_le (h.covered id before) h.reserved, h.used, h.live, h.free⟩

/-- Another count of references to a live id. -/
theorem Accounts.recount (h : ledger.Accounts handed mark) (live : id ∈ ledger.live)
    (references : Int32) :
    ({ ledger with live := ledger.live.insert id references } : IdLedger).Accounts handed mark := by
  refine ⟨h.persisted, h.reserved, h.start, h.covered, h.used, ?_, h.free⟩
  intro other member
  rcases mem_live_insert.1 member with rfl | member
  · exact h.live other live
  · exact h.live other member

theorem Accounts.retain (h : ledger.Accounts handed mark) (id : ObjectId) :
    (ledger.retain id).2.Accounts handed mark := by
  unfold IdLedger.retain
  split
  next references found => exact h.recount (mem_live_of_getElem? found) _
  next => exact h

theorem Accounts.release (h : ledger.Accounts handed mark) (id : ObjectId) :
    (ledger.release id).2.Accounts handed mark := by
  unfold IdLedger.release
  split
  next references found =>
    have live := mem_live_of_getElem? found
    split
    next => exact h.recount live _
    next =>
      have rest : ∀ other, other ∈ ledger.live.erase id → handed other := by
        intro other member
        exact h.live other (mem_live_erase.1 member).2
      simp only
      split
      next => exact ⟨h.persisted, h.reserved, h.start, h.covered, h.used, rest, h.free⟩
      next =>
        refine ⟨h.persisted, h.reserved, h.start, h.covered, h.used, rest, ?_⟩
        intro other member
        rcases List.mem_cons.1 member with rfl | member
        · exact h.live other live
        · exact h.free other member
  next => exact h

end IdLedger

/-! ## Both spaces -/

namespace ObjectIds

variable {ids : ObjectIds}

@[simp] theorem ledger_withLedger (ids : ObjectIds) (space : IdSpace) (ledger : IdLedger) :
    (ids.withLedger space ledger).ledger space = ledger := by
  cases space <;> rfl

theorem ledger_withLedger_of_ne (ids : ObjectIds) {space other : IdSpace} (differs : other ≠ space)
    (ledger : IdLedger) : (ids.withLedger space ledger).ledger other = ids.ledger other := by
  cases space <;> cases other <;> first | rfl | exact absurd rfl differs

@[simp] theorem ledger_markPersisted (ids : ObjectIds) (space : IdSpace) :
    ids.markPersisted.ledger space = (ids.ledger space).markPersisted := by
  cases space <;> rfl

theorem allocate_eq_ok {needFresh : Bool} {space : IdSpace} {allocation : IdLedger.Allocation}
    {after : ObjectIds} (h : ids.allocate needFresh space = (.ok allocation, after)) :
    ∃ ledger, (ids.ledger space).allocate needFresh = (some allocation, ledger) ∧
      after = ids.withLedger space ledger := by
  unfold allocate at h
  cases allocates : (ids.ledger space).allocate needFresh with
  | mk outcome ledger =>
    rw [allocates] at h
    cases outcome with
    | none => cases h
    | some allocation => cases h; exact ⟨ledger, rfl, rfl⟩

/-- An exhausted space changes nothing. -/
theorem allocate_eq_error {needFresh : Bool} {space : IdSpace} {fault : Fault}
    {after : ObjectIds} (h : ids.allocate needFresh space = (.error fault, after)) :
    after = ids := by
  unfold allocate at h
  cases allocates : (ids.ledger space).allocate needFresh with
  | mk outcome ledger =>
    rw [allocates] at h
    cases outcome with
    | none => cases h; rfl
    | some allocation => cases h

end ObjectIds

end DurableStore
