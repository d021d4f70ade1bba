import DurableStore.Proofs.ObjectIds.Accounts

/-!
A ledger stays sound, whatever it is asked.

`IdLedger.Sound start ledger` ties the fields of a ledger together: no free id is live, the list of
the free ids has each of them once and is what the index says, all ids held lie between `start` and
the next fresh id, and the marks follow one another.  It says nothing about who asked for what, so
every operation keeps it for every id, live or not.

Seen from outside the operations have in common that no id below the next fresh one is held after
them that was not held before (`IdLedger.Follows`).  An id that was given up therefore stays given
up.  `Sound.allocate`, `Sound.discard`, `Sound.retain`, `Sound.release` and `Sound.markPersisted` say
both of each operation.
-/

namespace DurableStore

namespace IdLedger

variable {ledger after : IdLedger} {start : Int32} {id : ObjectId}

/-! ## Counts of references -/

/-- A count that cannot go any higher stays where it is. -/
theorem one_le_ofIntClamp_add {references : Int32} (h : 1 ≤ references) :
    1 ≤ Int32.ofIntClamp (references.toInt + 1) := by
  have one : (1 : Int32).toInt = 1 := rfl
  have top : Int32.maxValue.toInt = 2147483647 := rfl
  have bottom : Int32.minValue.toInt = -2147483648 := rfl
  rw [Int32.le_iff_toInt_le, one] at h ⊢
  by_cases room : references.toInt + 1 ≤ Int32.maxValue.toInt
  · rw [Int32.toInt_ofIntClamp (by omega) room]
    omega
  · unfold Int32.ofIntClamp
    rw [dif_pos (by omega), dif_neg room, top]
    omega

theorem one_le_sub_one {references : Int32} (h : 1 < references) : 1 ≤ references - 1 := by
  have one : (1 : Int32).toInt = 1 := rfl
  have above := references.toInt_lt
  rw [Int32.lt_iff_toInt_lt, one] at h
  rw [Int32.le_iff_toInt_le, Int32.toInt_sub, one, Int.bmod_eq_of_le] <;> omega

/-! ## Sound ledgers -/

/-- An id is held if it is live or free. -/
def Held (ledger : IdLedger) (id : ObjectId) : Prop :=
  id ∈ ledger.live ∨ id ∈ ledger.free

/-- The fields of a ledger that began at `start` agree with one another. -/
structure Sound (start : Int32) (ledger : IdLedger) : Prop where
  /-- No free id is live. -/
  apart : ∀ id ∈ ledger.free, id ∉ ledger.live
  distinct : ledger.free.Nodup
  indexed : ∀ id, id ∈ ledger.freeSet ↔ id ∈ ledger.free
  above : ∀ id, ledger.Held id → start ≤ id
  below : ∀ id, ledger.Held id → id < ledger.nextFresh
  begun : start ≤ ledger.nextFresh
  persisted : ledger.persistedUntil ≤ ledger.reservedUntil
  covered : ledger.nextFresh ≤ ledger.reservedUntil
  /-- A live id is referenced. -/
  referenced : ∀ (id : ObjectId) (references : Int32),
    ledger.live[id]? = some references → 1 ≤ references

/-- The ids below the next fresh one that `after` holds were held before. -/
structure Follows (ledger after : IdLedger) : Prop where
  nextFresh : ledger.nextFresh ≤ after.nextFresh
  held : ∀ id < ledger.nextFresh, after.Held id → ledger.Held id

theorem Follows.refl (ledger : IdLedger) : ledger.Follows ledger :=
  ⟨Int32.le_refl _, fun _ _ held => held⟩

namespace Sound

theorem ofMark (mark : Int32) : (IdLedger.ofMark mark).Sound (max mark firstId) := by
  have first : max mark firstId = (IdLedger.ofMark mark).nextFresh := by
    show (if mark ≤ firstId then firstId else mark) = if mark < firstId then firstId else mark
    split
    next low =>
      split
      next => rfl
      next high => exact Int32.le_antisymm (Int32.not_lt.1 high) low
    next high => rw [if_neg fun low => high (Int32.le_of_lt low)]
  have nothing (id : ObjectId) : ¬ (IdLedger.ofMark mark).Held id := by
    rintro (live | free)
    · exact Std.TreeMap.not_mem_emptyc live
    · cases free
  rw [first]
  refine ⟨nofun, List.nodup_nil, ?_, fun id held => absurd held (nothing id),
    fun id held => absurd held (nothing id), Int32.le_refl _, Int32.le_refl _, Int32.le_refl _,
    nofun⟩
  intro id
  exact iff_of_false Std.TreeSet.not_mem_emptyc List.not_mem_nil

/-- Ids that are held may be arranged anew, the marks left as they are. -/
theorem arrange (sound : ledger.Sound start) {live : Std.TreeMap ObjectId Int32}
    {free : List ObjectId} {freeSet : Std.TreeSet ObjectId}
    (held : ∀ id, id ∈ live ∨ id ∈ free → ledger.Held id) (apart : ∀ id ∈ free, id ∉ live)
    (distinct : free.Nodup) (indexed : ∀ id, id ∈ freeSet ↔ id ∈ free)
    (referenced : ∀ (id : ObjectId) (references : Int32),
      live[id]? = some references → 1 ≤ references) :
    ({ ledger with live, free, freeSet } : IdLedger).Sound start ∧
      ledger.Follows { ledger with live, free, freeSet } :=
  ⟨⟨apart, distinct, indexed, fun id h => sound.above id (held id h),
    fun id h => sound.below id (held id h), sound.begun, sound.persisted, sound.covered,
    referenced⟩, Int32.le_refl _, fun id _ h => held id h⟩

theorem referenced_insert (sound : ledger.Sound start) {counted : Int32} (positive : 1 ≤ counted)
    (other : ObjectId) (references : Int32)
    (found : (ledger.live.insert id counted)[other]? = some references) : 1 ≤ references := by
  rw [Std.TreeMap.getElem?_insert] at found
  split at found
  next => exact Option.some.inj found ▸ positive
  next => exact sound.referenced other references found

theorem referenced_erase (sound : ledger.Sound start) (other : ObjectId) (references : Int32)
    (found : (ledger.live.erase id)[other]? = some references) : 1 ≤ references := by
  rw [Std.TreeMap.getElem?_erase] at found
  split at found
  next => cases found
  next => exact sound.referenced other references found

/-- Another count of references to a live id. -/
theorem recount (sound : ledger.Sound start) (live : id ∈ ledger.live) {references : Int32}
    (positive : 1 ≤ references) :
    ({ ledger with live := ledger.live.insert id references } : IdLedger).Sound start ∧
      ledger.Follows { ledger with live := ledger.live.insert id references } := by
  have known : ∀ other, other ∈ ledger.live.insert id references → other ∈ ledger.live := by
    intro other member
    rcases mem_live_insert.1 member with rfl | member
    · exact live
    · exact member
  exact sound.arrange (fun other => Or.imp_left (known other))
    (fun other free member => sound.apart other free (known other member)) sound.distinct
    sound.indexed (sound.referenced_insert positive)

/-- **Giving an id up**, in whatever state it is; one that was live is held no more. -/
theorem discard (sound : ledger.Sound start) (id : ObjectId) :
    (ledger.discard id).Sound start ∧ ledger.Follows (ledger.discard id) ∧
      (id ∈ ledger.live → ¬ (ledger.discard id).Held id) := by
  have known (other : ObjectId) (member : other ∈ ledger.live.erase id) : other ∈ ledger.live :=
    (mem_live_erase.1 member).2
  obtain ⟨rest, follows⟩ := sound.arrange (fun other => Or.imp_left (known other))
    (fun other free member => sound.apart other free (known other member)) sound.distinct
    sound.indexed sound.referenced_erase
  refine ⟨rest, follows, ?_⟩
  rintro live (member | free)
  · exact (mem_live_erase.1 member).1 rfl
  · exact sound.apart id free live

/-- **Adding a reference.** -/
theorem retain (sound : ledger.Sound start) (id : ObjectId) :
    (ledger.retain id).2.Sound start ∧ ledger.Follows (ledger.retain id).2 := by
  unfold IdLedger.retain
  split
  next references found =>
    exact sound.recount (mem_live_of_getElem? found)
      (one_le_ofIntClamp_add (sound.referenced id references found))
  next => exact ⟨sound, .refl ledger⟩

/-- The last reference to an id gone, it is free and no longer live. -/
theorem vacate (sound : ledger.Sound start) (live : id ∈ ledger.live) :
    ({ ledger with
        live := ledger.live.erase id
        free := id :: ledger.free
        freeSet := ledger.freeSet.insert id } : IdLedger).Sound start ∧
      ledger.Follows { ledger with
        live := ledger.live.erase id
        free := id :: ledger.free
        freeSet := ledger.freeSet.insert id } := by
  refine sound.arrange ?_ ?_ ?_ ?_ sound.referenced_erase
  · rintro other (member | member)
    · exact .inl (mem_live_erase.1 member).2
    · rcases List.mem_cons.1 member with rfl | free
      · exact .inl live
      · exact .inr free
  · intro other member remaining
    obtain ⟨differs, remaining⟩ := mem_live_erase.1 remaining
    rcases List.mem_cons.1 member with rfl | free
    · exact differs rfl
    · exact sound.apart other free remaining
  · exact List.nodup_cons.2 ⟨fun free => sound.apart id free live, sound.distinct⟩
  · intro other
    rw [Std.TreeSet.mem_insert, Std.LawfulEqCmp.compare_eq_iff_eq, List.mem_cons, sound.indexed,
      eq_comm]

/-- **Dropping a reference**, the last one or another. -/
theorem release (sound : ledger.Sound start) (id : ObjectId) :
    (ledger.release id).2.Sound start ∧ ledger.Follows (ledger.release id).2 := by
  unfold IdLedger.release
  split
  next references found =>
    have live := mem_live_of_getElem? found
    split
    next more => exact sound.recount live (one_le_sub_one more)
    next =>
      simp only
      split
      next =>
        obtain ⟨rest, follows, -⟩ := sound.discard id
        exact ⟨rest, follows⟩
      next => exact sound.vacate live
  next => exact ⟨sound, .refl ledger⟩

/-- **The reservation reaching the disk.** -/
theorem markPersisted (sound : ledger.Sound start) :
    ledger.markPersisted.Sound start ∧ ledger.Follows ledger.markPersisted :=
  ⟨{ sound with persisted := Int32.le_refl _ }, Int32.le_refl _, fun _ _ held => held⟩

end Sound

/-! ## Handing out ids -/

namespace Sound

variable {allocation : Allocation}

/-- The first free id is live and no longer free. -/
theorem reuse (sound : ledger.Sound start) {rest : List ObjectId}
    (free : ledger.free = id :: rest) :
    ({ ledger with
        live := ledger.live.insert id 1
        free := rest
        freeSet := ledger.freeSet.erase id } : IdLedger).Sound start ∧
      ledger.Follows { ledger with
        live := ledger.live.insert id 1
        free := rest
        freeSet := ledger.freeSet.erase id } := by
  obtain ⟨unlisted, distinct⟩ : id ∉ rest ∧ rest.Nodup :=
    List.nodup_cons.1 (free ▸ sound.distinct)
  have first : id ∈ ledger.free := free ▸ List.mem_cons_self
  have known (other : ObjectId) (member : other ∈ rest) : other ∈ ledger.free :=
    free ▸ List.mem_cons_of_mem _ member
  refine sound.arrange ?_ ?_ distinct ?_ (sound.referenced_insert (Int32.le_refl 1))
  · rintro other (live | member)
    · rcases mem_live_insert.1 live with rfl | live
      · exact .inr first
      · exact .inl live
    · exact .inr (known other member)
  · intro other member live
    rcases mem_live_insert.1 live with rfl | live
    · exact unlisted member
    · exact sound.apart other (known other member) live
  · intro other
    rw [Std.TreeSet.mem_erase, ne_eq, Std.LawfulEqCmp.compare_eq_iff_eq, sound.indexed, free,
      List.mem_cons]
    constructor
    · rintro ⟨differs, rfl | member⟩
      · exact absurd rfl differs
      · exact member
    · intro member
      refine ⟨?_, .inr member⟩
      rintro rfl
      exact unlisted member

/-- The next fresh id is live, and the one above it is next. -/
theorem fresh (sound : ledger.Sound start)
    (got : ledger.allocateFresh = (some allocation, after)) :
    after.Sound start ∧ ledger.Follows after := by
  obtain ⟨next, used, still, moved, grown, persisted, live, free, freeSet⟩ :=
    allocateFresh_eq_some got
  have reserved : ledger.persistedUntil ≤ after.reservedUntil :=
    Int32.le_trans sound.persisted grown
  have covered : after.nextFresh ≤ after.reservedUntil := by
    cases advanced : allocation.advanced with
    | false => exact Int32.le_trans (still advanced) reserved
    | true => exact moved advanced
  have held : ∀ id, after.Held id → id = allocation.id ∨ ledger.Held id := by
    unfold Held
    rw [live, free]
    rintro id (member | member)
    · exact (mem_live_insert.1 member).imp_right .inl
    · exact .inr (.inr member)
  have below : ∀ id < ledger.nextFresh, id ≠ allocation.id := by
    rintro id before rfl
    exact Int32.lt_irrefl (next ▸ before)
  refine ⟨⟨?_, free ▸ sound.distinct, ?_, ?_, ?_, ?_, persisted ▸ reserved, covered, ?_⟩, ?_, ?_⟩
  · rw [free, live]
    intro id member there
    rcases mem_live_insert.1 there with rfl | there
    · exact below allocation.id (sound.below _ (.inr member)) rfl
    · exact sound.apart id member there
  · rw [free, freeSet]
    exact sound.indexed
  · intro id h
    rcases held id h with rfl | h
    · exact next ▸ sound.begun
    · exact sound.above id h
  · intro id h
    rcases held id h with rfl | h
    · exact used
    · exact Int32.lt_trans (sound.below id h) (next ▸ used)
  · exact Int32.le_trans sound.begun (Int32.le_of_lt (next ▸ used))
  · rw [live]
    exact sound.referenced_insert (Int32.le_refl 1)
  · exact Int32.le_of_lt (next ▸ used)
  · intro id before h
    rcases held id h with rfl | h
    · exact absurd rfl (below _ before)
    · exact h

/-- **Handing out an id** that is not live, whether it was held or not. -/
theorem allocate (sound : ledger.Sound start) {needFresh : Bool}
    (got : ledger.allocate needFresh = (some allocation, after)) :
    after.Sound start ∧ ledger.Follows after ∧ allocation.id ∉ ledger.live ∧
      (allocation.id = ledger.nextFresh ∨
        needFresh = false ∧ ledger.free ≠ [] ∧ ledger.Held allocation.id) ∧
      allocation.id < after.nextFresh ∧ after.live = ledger.live.insert allocation.id 1 := by
  rcases allocate_cases got with ⟨rest, recycled, free, -, rfl⟩ | got
  · obtain ⟨rest, follows⟩ := sound.reuse free
    have member : allocation.id ∈ ledger.free := free ▸ List.mem_cons_self
    exact ⟨rest, follows, sound.apart _ member,
      .inr ⟨recycled, List.ne_nil_of_mem member, .inr member⟩, sound.below _ (.inr member), rfl⟩
  · obtain ⟨rest, follows⟩ := sound.fresh got
    obtain ⟨next, used, -, -, -, -, live, -⟩ := allocateFresh_eq_some got
    refine ⟨rest, follows, ?_, .inl next, used, live⟩
    intro member
    exact Int32.lt_irrefl (next ▸ sound.below _ (.inl member))

end Sound

end IdLedger

end DurableStore
