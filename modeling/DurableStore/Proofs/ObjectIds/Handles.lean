import DurableStore.Proofs.ObjectIds.Restarts
import DurableStore.Proofs.ObjectIds.Soundness
import DurableStore.Proofs.Storage.Operations

/-!
What one handle does to the ids that it holds.

An allocation that fails gives its id up again, so the ledgers hold what they held before
(`Storage.allocateId_error`), though their marks may have moved.  The ids `Track` those that the
handle handed out: their ledgers are sound, and all that was handed out lies below the next fresh
id.  Every request keeps this (`ObjectIds.Tracks.serve`), whatever the disk is like.
-/

namespace DurableStore

open ObjectIds (handedIn)

/-! ## Ledgers that hold the same -/

namespace IdLedger

variable {ledger after : IdLedger} {start : Int32} {allocation : Allocation} {needFresh : Bool}

/-- The second ledger holds the ids of the first: the same ones are live, with as many references,
and the same ones may be handed out again, in the same order. -/
structure Agrees (ledger after : IdLedger) : Prop where
  live : ∀ id, after.isLive id = ledger.isLive id
  references : ∀ id : ObjectId, after.live[id]? = ledger.live[id]?
  free : after.free = ledger.free
  freeSet : after.freeSet = ledger.freeSet

theorem Agrees.of_references (references : ∀ id : ObjectId, after.live[id]? = ledger.live[id]?)
    (free : after.free = ledger.free) (freeSet : after.freeSet = ledger.freeSet) :
    ledger.Agrees after := by
  refine ⟨fun id => ?_, references, free, freeSet⟩
  unfold isLive
  rw [Std.TreeMap.contains_eq_isSome_getElem?, Std.TreeMap.contains_eq_isSome_getElem?,
    references]

theorem Agrees.refl (ledger : IdLedger) : ledger.Agrees ledger :=
  ⟨fun _ => rfl, fun _ => rfl, rfl, rfl⟩

/-- An id that lies above the mark on disk is fresh, so giving it up leaves what was held. -/
theorem Agrees.of_given_up (sound : ledger.Sound start)
    (got : ledger.allocate needFresh = (some allocation, after))
    (advanced : allocation.advanced = true) : ledger.Agrees (after.discard allocation.id) := by
  rcases allocate_cases got with ⟨rest, -, -, still, -⟩ | got
  · rw [still] at advanced
    cases advanced
  · obtain ⟨next, -, -, -, -, -, live, free, freeSet⟩ := allocateFresh_eq_some got
    refine .of_references (fun id => ?_) free freeSet
    show (after.live.erase allocation.id)[id]? = ledger.live[id]?
    rw [live, Std.TreeMap.getElem?_erase, Std.TreeMap.getElem?_insert]
    by_cases same : allocation.id = id
    · -- The id was not live before, or it would lie below the next fresh one.
      subst same
      have unknown : allocation.id ∉ ledger.live := fun member =>
        Int32.lt_irrefl (next ▸ sound.below _ (.inl member))
      rw [if_pos Std.ReflCmp.compare_self, Std.TreeMap.getElem?_eq_none unknown]
    · have differs : compare allocation.id id ≠ .eq := fun equal =>
        same (Std.LawfulEqCmp.compare_eq_iff_eq.1 equal)
      rw [if_neg differs, if_neg differs]

/-- With no free id a fresh one is handed out, asked for or not. -/
theorem allocate_of_free (needFresh : Bool) (nothing : ledger.free = []) :
    ledger.allocate needFresh = ledger.allocate true := by
  cases needFresh with
  | true => rfl
  | false =>
    unfold allocate
    rw [nothing]

end IdLedger

/-! ## Ids in step with a log -/

namespace ObjectIds

variable {ids after : ObjectIds} {log : List (IdSpace × ObjectId)} {space : IdSpace}
  {ledger : IdLedger} {allocation : IdLedger.Allocation} {needFresh : Bool}

/-- Both ledgers are sound, and the ids of the log lie below their next fresh ids. -/
structure Tracks (ids : ObjectIds) (log : List (IdSpace × ObjectId)) : Prop where
  sound : ∀ space, ∃ start, (ids.ledger space).Sound start
  below : ∀ space id, handedIn log space id → id < (ids.ledger space).nextFresh

theorem Tracks.of_marks (h : ∀ space, ∃ mark, ids.ledger space = .ofMark mark) :
    ids.Tracks [] := by
  refine ⟨fun space => ?_, nofun⟩
  obtain ⟨mark, starts⟩ := h space
  rw [starts]
  exact ⟨_, .ofMark mark⟩

/-- A ledger is followed by another one. -/
theorem Tracks.withLedger (h : ids.Tracks log) {start : Int32} (sound : ledger.Sound start)
    (follows : (ids.ledger space).Follows ledger) : (ids.withLedger space ledger).Tracks log := by
  refine ⟨fun other => ?_, fun other id before => ?_⟩
  · by_cases same : other = space
    · subst same
      rw [ledger_withLedger]
      exact ⟨start, sound⟩
    · rw [ledger_withLedger_of_ne ids same]
      exact h.sound other
  · by_cases same : other = space
    · subst same
      rw [ledger_withLedger]
      exact Int32.lt_of_lt_of_le (h.below other id before) follows.nextFresh
    · rw [ledger_withLedger_of_ne ids same]
      exact h.below other id before

theorem Tracks.markPersisted (h : ids.Tracks log) : ids.markPersisted.Tracks log := by
  refine ⟨fun space => ?_, fun space => ?_⟩
  · obtain ⟨start, sound⟩ := h.sound space
    rw [ledger_markPersisted]
    exact ⟨start, sound.markPersisted.1⟩
  · rw [ledger_markPersisted]
    exact h.below space

theorem Tracks.discard (h : ids.Tracks log) (id : ObjectId) (space : IdSpace) :
    (ids.discard id space).Tracks log := by
  obtain ⟨start, sound⟩ := h.sound space
  obtain ⟨sound', follows, -⟩ := sound.discard id
  exact h.withLedger sound' follows

theorem Tracks.retain (h : ids.Tracks log) (id : ObjectId) (space : IdSpace) :
    (ids.retain id space).2.Tracks log := by
  obtain ⟨start, sound⟩ := h.sound space
  obtain ⟨sound', follows⟩ := sound.retain id
  exact h.withLedger sound' follows

theorem Tracks.release (h : ids.Tracks log) (id : ObjectId) (space : IdSpace) :
    (ids.release id space).2.Tracks log := by
  obtain ⟨start, sound⟩ := h.sound space
  obtain ⟨sound', follows⟩ := sound.release id
  exact h.withLedger sound' follows

/-- One more id is handed out. -/
theorem Tracks.append (h : ids.Tracks log) {id : ObjectId}
    (below : id < (ids.ledger space).nextFresh) : ids.Tracks (log ++ [(space, id)]) := by
  refine ⟨h.sound, fun other earlier before => ?_⟩
  rcases List.mem_append.1 before with before | last
  · exact h.below other earlier before
  · cases List.mem_singleton.1 last
    exact below

/-- **An allocation** hands out an id below the next fresh one, and the last next fresh one if that
is asked for or no other is there; one that may be given up leaves what was held. -/
theorem Tracks.allocate (h : ids.Tracks log)
    (got : ids.allocate needFresh space = (.ok allocation, after)) :
    after.Tracks log ∧ allocation.id < (after.ledger space).nextFresh ∧
      (needFresh = true ∨ (ids.ledger space).free = [] →
        allocation.id = (ids.ledger space).nextFresh) ∧
      (allocation.advanced = true →
        ∀ other, (ids.ledger other).Agrees ((after.discard allocation.id space).ledger other)) := by
  obtain ⟨ledger, allocated, rfl⟩ := allocate_eq_ok got
  obtain ⟨start, sound⟩ := h.sound space
  obtain ⟨sound', follows, -, kind, used, -⟩ := sound.allocate allocated
  refine ⟨h.withLedger sound' follows, ?_, ?_, ?_⟩
  · rw [ledger_withLedger]
    exact used
  · intro unforced
    rcases kind with fresh | ⟨recycled, free, -⟩
    · exact fresh
    · rcases unforced with asked | nothing
      · rw [recycled] at asked
        cases asked
      · exact absurd nothing free
  · intro advanced other
    unfold ObjectIds.discard
    by_cases same : other = space
    · subst same
      rw [ledger_withLedger, ledger_withLedger]
      exact .of_given_up sound allocated advanced
    · rw [ledger_withLedger_of_ne _ same, ledger_withLedger_of_ne ids same]
      exact .refl _

end ObjectIds

/-! ## Serving requests -/

namespace Storage

variable {storage later : Storage} {disk after : FileSystem} {log : List (IdSpace × ObjectId)}
  {needFresh : Bool} {space : IdSpace}

theorem persistIds_ids (storage : Storage) (disk : FileSystem) :
    (storage.persistIds disk).2.1.ids = storage.ids := by
  obtain ⟨power, idFile, writes⟩ := persistIds_storage storage disk
  rw [writes]

/-- **An allocation that fails** leaves every ledger with what it held. -/
theorem allocateId_error (tracks : storage.ids.Tracks log) {fault : Fault}
    (refused : storage.allocateId disk needFresh space = (.error fault, later, after)) :
    later.ids.Tracks log ∧
      ∀ other, (storage.ids.ledger other).Agrees (later.ids.ledger other) := by
  rcases allocateId_cases storage disk needFresh space with
    ⟨fault', given⟩ | ⟨allocation, ids, got, ⟨-, given⟩ | ⟨advanced, persisted⟩⟩
  · rw [given] at refused
    cases refused
    exact ⟨tracks, fun other => .refl _⟩
  · rw [given] at refused
    cases refused
  · obtain ⟨tracks', -, -, agrees⟩ := tracks.allocate got
    rcases persisted with ⟨_, written, _, writes, given⟩ | ⟨_, _, -, given⟩
    · rw [given] at refused
      cases refused
      have same : written.ids = ids := by
        have kept := persistIds_ids { storage with ids } disk
        rwa [writes] at kept
      simp only [same]
      exact ⟨tracks'.discard allocation.id space, agrees advanced⟩
    · rw [given] at refused
      cases refused

/-- **An allocation that succeeds** hands out an id below the next fresh one. -/
theorem allocateId_ok (tracks : storage.ids.Tracks log) {id : ObjectId}
    (given : storage.allocateId disk needFresh space = (.ok id, later, after)) :
    later.ids.Tracks (log ++ [(space, id)]) ∧
      (needFresh = true ∨ (storage.ids.ledger space).free = [] →
        id = (storage.ids.ledger space).nextFresh) := by
  rcases allocateId_cases storage disk needFresh space with
    ⟨fault, refused⟩ | ⟨allocation, ids, got, rest⟩
  · rw [refused] at given
    cases given
  obtain ⟨tracks', used, fresh, -⟩ := tracks.allocate got
  rcases rest with ⟨-, same⟩ | ⟨-, ⟨_, _, _, -, same⟩ | ⟨written, _, writes, same⟩⟩
  · rw [same] at given
    cases given
    exact ⟨tracks'.append used, fresh⟩
  · rw [same] at given
    cases given
  · rw [same] at given
    cases given
    have kept := persistIds_ids { storage with ids } disk
    rw [writes] at kept
    simp only at kept
    simp only [kept]
    exact ⟨(tracks'.append used).markPersisted, fresh⟩

/-- With no free id a fresh one is handed out, asked for or not. -/
theorem allocateId_of_free (storage : Storage) (disk : FileSystem) (needFresh : Bool)
    (nothing : (storage.ids.ledger space).free = []) :
    storage.allocateId disk needFresh space = storage.allocateId disk true space := by
  unfold allocateId takeId ObjectIds.allocate
  rw [IdLedger.allocate_of_free needFresh nothing]

end Storage

/-- **Every request** keeps the ids in step with the log of those that were handed out. -/
theorem ObjectIds.Tracks.serve {storage : Storage} {log : List (IdSpace × ObjectId)}
    (h : storage.ids.Tracks log) (disk : FileSystem) (request : Request) :
    (storage.serve disk request).2.1.ids.Tracks
      (log ++ Service.issued request (storage.serve disk request).1) := by
  cases request with
  | allocateId needFresh space =>
    cases allocates : storage.allocateId disk needFresh space with
    | mk result rest =>
      obtain ⟨later, after⟩ := rest
      simp only [Storage.serve, allocates]
      cases result with
      | error fault =>
        simp only [Service.issued, List.append_nil]
        exact (Storage.allocateId_error h allocates).1
      | ok id => exact (Storage.allocateId_ok h allocates).1
  | retainId id space =>
    simp only [Service.issued, List.append_nil]
    exact h.retain id space
  | releaseId id space =>
    simp only [Service.issued, List.append_nil]
    exact h.release id space
  | setWriteState state =>
    obtain ⟨writeState, later⟩ := Storage.setWriteState_snd storage state
    simp only [Storage.serve, Service.issued, List.append_nil, later]
    exact h
  | armPower | resetPower =>
    simp only [Service.issued, List.append_nil]
    exact h

end DurableStore
