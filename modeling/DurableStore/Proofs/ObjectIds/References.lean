import DurableStore.Proofs.ObjectIds.Calls
import DurableStore.Proofs.ObjectIds.Handles

/-!
How long a shared id stays live.

A `Tenure` begins when an id is handed out and ends when it is handed out again.  It has the numbers
of references that were added and dropped, and of those that were lost because the count in the
ledger could not go higher.  A `Watch` follows the calls and keeps the tenure of one id.  Every call
other than giving the id up keeps the count equal to the references that were not lost
(`Watch.Counts.perform`), so the id is live as long as there are more references than lost ones.  It
outlives all of them exactly unless some were lost and as many are left (`shared_id_outlives_iff`),
which takes more references than can be counted (`shared_id_recycled`).
-/

namespace DurableStore

/-! ## Counts of references -/

/-- The highest count of references. -/
def mostCounted : Int := 2147483647

namespace IdLedger

variable {ledger after : IdLedger} {start : Int32} {id other : ObjectId}
  {live : Std.TreeMap ObjectId Int32}

/-- The count of an id, 0 if it is not live. -/
def counted (live : Std.TreeMap ObjectId Int32) (id : ObjectId) : Int :=
  (live[id]?).elim 0 Int32.toInt

theorem counted_insert (live : Std.TreeMap ObjectId Int32) (id : ObjectId) (references : Int32)
    (other : ObjectId) :
    counted (live.insert id references) other =
      if other = id then references.toInt else counted live other := by
  unfold counted
  rw [Std.TreeMap.getElem?_insert]
  simp only [Std.LawfulEqCmp.compare_eq_iff_eq, eq_comm (a := id)]
  split <;> rfl

theorem counted_erase (live : Std.TreeMap ObjectId Int32) (id other : ObjectId) :
    counted (live.erase id) other = if other = id then 0 else counted live other := by
  unfold counted
  rw [Std.TreeMap.getElem?_erase]
  simp only [Std.LawfulEqCmp.compare_eq_iff_eq, eq_comm (a := id)]
  split <;> rfl

theorem isLive_iff_counted (sound : ledger.Sound start) (id : ObjectId) :
    ledger.isLive id = true ↔ 0 < counted ledger.live id := by
  unfold isLive counted
  rw [Std.TreeMap.contains_eq_isSome_getElem?]
  cases found : ledger.live[id]? with
  | none => simp
  | some references =>
    have positive := Int32.le_iff_toInt_le.1 (sound.referenced id references found)
    exact iff_of_true rfl (Int.lt_of_lt_of_le Int.zero_lt_one positive)

theorem counted_nonneg (sound : ledger.Sound start) (id : ObjectId) :
    0 ≤ counted ledger.live id := by
  unfold counted
  cases found : ledger.live[id]? with
  | none => exact Int.le_refl 0
  | some references =>
    have positive := Int32.le_iff_toInt_le.1 (sound.referenced id references found)
    exact Int.le_of_lt (Int.lt_of_lt_of_le Int.zero_lt_one positive)

theorem toInt_one_more {references : Int32} (positive : 1 ≤ references) :
    (Int32.ofIntClamp (references.toInt + 1)).toInt = min (references.toInt + 1) mostCounted := by
  have one : (1 : Int32).toInt = 1 := rfl
  have top : Int32.maxValue.toInt = 2147483647 := rfl
  have bottom : Int32.minValue.toInt = -2147483648 := rfl
  rw [Int32.le_iff_toInt_le, one] at positive
  unfold mostCounted
  by_cases room : references.toInt + 1 ≤ Int32.maxValue.toInt
  · rw [Int32.toInt_ofIntClamp (by omega) room]
    omega
  · unfold Int32.ofIntClamp
    rw [dif_pos (by omega), dif_neg room, top]
    omega

theorem retain_fst (ledger : IdLedger) (id : ObjectId) :
    (ledger.retain id).1 = ledger.isLive id := by
  unfold retain isLive
  rw [Std.TreeMap.contains_eq_isSome_getElem?]
  split
  next found => rw [found]; rfl
  next found => rw [found]; rfl

theorem release_fst (ledger : IdLedger) (id : ObjectId) :
    (ledger.release id).1 = ledger.isLive id := by
  unfold release isLive
  rw [Std.TreeMap.contains_eq_isSome_getElem?]
  split
  next found =>
    rw [found]
    split
    next => rfl
    next =>
      simp only
      split <;> rfl
  next found => rw [found]; rfl

/-- A reference to a live id is counted unless the count is full. -/
theorem counted_retain (sound : ledger.Sound start) (id other : ObjectId) :
    counted (ledger.retain id).2.live other =
      if other = id ∧ ledger.isLive id = true then min (counted ledger.live id + 1) mostCounted
      else counted ledger.live other := by
  unfold retain isLive
  rw [Std.TreeMap.contains_eq_isSome_getElem?]
  cases found : ledger.live[id]? with
  | none => simp
  | some references =>
    have count : counted ledger.live id = references.toInt := by
      unfold counted
      rw [found]
      rfl
    simp only [counted_insert, toInt_one_more (sound.referenced id references found), count,
      Option.isSome_some, and_true]

/-- A reference to a live id is taken off the count. -/
theorem counted_release (sound : ledger.Sound start) (id other : ObjectId) :
    counted (ledger.release id).2.live other =
      if other = id ∧ ledger.isLive id = true then counted ledger.live id - 1
      else counted ledger.live other := by
  unfold release isLive
  rw [Std.TreeMap.contains_eq_isSome_getElem?]
  cases found : ledger.live[id]? with
  | none => simp
  | some references =>
    have one : (1 : Int32).toInt = 1 := rfl
    have positive := Int32.le_iff_toInt_le.1 (sound.referenced id references found)
    have above := references.toInt_lt
    have count : counted ledger.live id = references.toInt := by
      unfold counted
      rw [found]
      rfl
    simp only [Option.isSome_some, and_true, count]
    split
    next more =>
      rw [Int32.lt_iff_toInt_lt, one] at more
      have less : (references - 1).toInt = references.toInt - 1 := by
        rw [Int32.toInt_sub, one, Int.bmod_eq_of_le] <;> omega
      rw [counted_insert, less]
    next last =>
      rw [Int32.lt_iff_toInt_lt, one] at last
      rw [one] at positive
      have erased : counted (ledger.live.erase id) other =
          if other = id then references.toInt - 1 else counted ledger.live other := by
        rw [counted_erase, show references.toInt - 1 = 0 by omega]
      split
      next => exact erased
      next => exact erased

theorem counted_allocate (sound : ledger.Sound start) {needFresh : Bool} {allocation : Allocation}
    (got : ledger.allocate needFresh = (some allocation, after)) (other : ObjectId) :
    counted after.live other =
      if other = allocation.id then 1 else counted ledger.live other := by
  obtain ⟨-, -, -, -, -, live⟩ := sound.allocate got
  rw [live, counted_insert]
  rfl

/-- The last reference gone, the id is the next to be handed out again. -/
theorem free_release_last (sound : ledger.Sound start) (last : counted ledger.live id = 1) :
    (ledger.release id).2.free = id :: ledger.free := by
  unfold counted at last
  unfold release
  cases found : ledger.live[id]? with
  | none =>
    rw [found] at last
    cases last
  | some references =>
    rw [found] at last
    have final : ¬ 1 < references := by
      rw [Int32.lt_iff_toInt_lt, show references.toInt = 1 from last]
      decide
    have unlisted : ¬ ledger.freeSet.contains id = true := fun listed =>
      sound.apart id ((sound.indexed id).1 listed) (mem_live_of_getElem? found)
    simp only [if_neg final, if_neg unlisted]

end IdLedger

/-! ## Tenures -/

/-- What has been done with an id since it was handed out. -/
structure Tenure where
  /-- How many references were added to the live id. -/
  retained : Nat := 0
  /-- How many references to the live id were dropped. -/
  released : Nat := 0
  /-- How many references were added when the count was full. -/
  lost : Nat := 0
  /-- The most references that there were. -/
  peak : Int := 1
  deriving DecidableEq

namespace Tenure

/-- How many references there are: the first one and those added, without those dropped. -/
def references (tenure : Tenure) : Int :=
  1 + tenure.retained - tenure.released

/-- A reference is added. -/
def retain (tenure : Tenure) : Tenure :=
  { tenure with
    retained := tenure.retained + 1
    lost := if tenure.references - tenure.lost = mostCounted then tenure.lost + 1 else tenure.lost
    peak := max tenure.peak (tenure.references + 1) }

/-- A reference is dropped. -/
def release (tenure : Tenure) : Tenure :=
  { tenure with released := tenure.released + 1 }

/-- The count that was reached at most, and that references are lost when it is full. -/
structure Bounded (tenure : Tenure) : Prop where
  full : tenure.references - tenure.lost ≤ mostCounted
  peak : tenure.references ≤ tenure.peak
  lost : tenure.lost = 0 ↔ tenure.peak ≤ mostCounted

variable {tenure : Tenure}

theorem Bounded.first : ({} : Tenure).Bounded :=
  ⟨by decide, by decide, by decide⟩

theorem Bounded.retain (h : tenure.Bounded) : tenure.retain.Bounded := by
  obtain ⟨full, peak, lost⟩ := h
  unfold Tenure.retain
  split
  next reached => constructor <;> simp only [references] at * <;> omega
  next => constructor <;> simp only [references] at * <;> omega

theorem Bounded.release (h : tenure.Bounded) : tenure.release.Bounded := by
  obtain ⟨full, peak, lost⟩ := h
  unfold Tenure.release
  constructor <;> simp only [references] at * <;> omega

end Tenure

/-! ## Watching an id -/

namespace ObjectIds

/-- The ids, and what has been done with one of them since it was handed out last, if it was. -/
structure Watch where
  ids : ObjectIds
  tenure : Option Tenure := none

namespace Watch

/-- What a call does while the id `id` of the space `home` is watched. -/
def perform (id : ObjectId) (home : IdSpace) (watch : Watch) : Call → Watch
  | .allocate needFresh space =>
    match watch.ids.allocate needFresh space with
    | (.ok allocation, ids) =>
      { ids, tenure := if space = home ∧ allocation.id = id then some {} else watch.tenure }
    | (.error _, ids) => { watch with ids }
  | .markPersisted => { watch with ids := watch.ids.markPersisted }
  | .discard other space => { watch with ids := watch.ids.discard other space }
  | .retain other space =>
    let (live, ids) := watch.ids.retain other space
    { ids
      tenure := if space = home ∧ other = id ∧ live then watch.tenure.map .retain
        else watch.tenure }
  | .release other space =>
    let (live, ids) := watch.ids.release other space
    { ids
      tenure := if space = home ∧ other = id ∧ live then watch.tenure.map .release
        else watch.tenure }

/-- What one call after another does. -/
def performAll (id : ObjectId) (home : IdSpace) (watch : Watch) (calls : List Call) : Watch :=
  calls.foldl (perform id home) watch

/-- The ledgers are sound, and the count of the id is what is left of its tenure. -/
structure Counts (id : ObjectId) (home : IdSpace) (watch : Watch) : Prop where
  tracks : watch.ids.Tracks []
  bounded : ∀ tenure, watch.tenure = some tenure → tenure.Bounded
  counted : ∀ tenure, watch.tenure = some tenure →
    IdLedger.counted (watch.ids.ledger home).live id = tenure.references - tenure.lost

variable {id : ObjectId} {home : IdSpace} {watch : Watch}

theorem Counts.ofMarks (marks : IdSpace → Int32) :
    Counts id home { ids := .ofMarks (marks .dataFile) (marks .separateFiles) } := by
  refine ⟨.of_marks fun space => ?_, nofun, nofun⟩
  cases space <;> exact ⟨_, rfl⟩

/-- A call that does not touch the count of the id. -/
theorem Counts.pass (h : watch.Counts id home) {ids : ObjectIds} (tracks : ids.Tracks [])
    (same : IdLedger.counted (ids.ledger home).live id =
      IdLedger.counted (watch.ids.ledger home).live id) :
    Counts id home { watch with ids } :=
  ⟨tracks, h.bounded, fun tenure there => same.trans (h.counted tenure there)⟩

/-- A call that changes the count of the id and its tenure alike. -/
theorem Counts.change (h : watch.Counts id home) {ids : ObjectIds} (tracks : ids.Tracks [])
    {change : Tenure → Tenure} (bounded : ∀ tenure, tenure.Bounded → (change tenure).Bounded)
    (alike : ∀ tenure, tenure.Bounded →
      IdLedger.counted (watch.ids.ledger home).live id = tenure.references - tenure.lost →
      IdLedger.counted (ids.ledger home).live id =
        (change tenure).references - (change tenure).lost) :
    Counts id home { ids, tenure := watch.tenure.map change } := by
  refine ⟨tracks, fun tenure there => ?_, fun tenure there => ?_⟩
  · obtain ⟨before, was, rfl⟩ := Option.map_eq_some_iff.1 there
    exact bounded before (h.bounded before was)
  · obtain ⟨before, was, rfl⟩ := Option.map_eq_some_iff.1 there
    exact alike before (h.bounded before was) (h.counted before was)

theorem Counts.allocate (h : watch.Counts id home) (needFresh : Bool) (space : IdSpace) :
    (watch.perform id home (.allocate needFresh space)).Counts id home := by
  cases given : watch.ids.allocate needFresh space with
  | mk result ids =>
    cases result with
    | error fault =>
      simp only [perform, given, allocate_eq_error given]
      exact h
    | ok allocation =>
      simp only [perform, given]
      obtain ⟨tracks, -⟩ := h.tracks.allocate given
      obtain ⟨ledger, got, rfl⟩ := allocate_eq_ok given
      by_cases here : space = home
      · subst here
        obtain ⟨start, sound⟩ := h.tracks.sound space
        have count := IdLedger.counted_allocate sound got id
        by_cases same : allocation.id = id
        · -- A new tenure begins.
          rw [if_pos ⟨rfl, same⟩]
          rw [if_pos same.symm] at count
          refine ⟨tracks, ?_, ?_⟩
          · rintro _ ⟨⟩
            exact .first
          · rintro _ ⟨⟩
            rw [ledger_withLedger, count]
            rfl
        · rw [if_neg fun both => same both.2]
          refine h.pass tracks ?_
          rw [ledger_withLedger, count, if_neg (Ne.symm same)]
      · rw [if_neg fun both => here both.1]
        refine h.pass tracks ?_
        rw [ledger_withLedger_of_ne _ (Ne.symm here)]

/-- A call that counts the references to `other` anew, if it is live. -/
theorem Counts.recount (h : watch.Counts id home) {other : ObjectId} {space : IdSpace}
    {ledger : IdLedger} {live : Bool} {count : Int} {change : Tenure → Tenure}
    (tracks : (watch.ids.withLedger space ledger).Tracks [])
    (counts : ∀ x, IdLedger.counted ledger.live x =
      if x = other ∧ live = true then count else IdLedger.counted (watch.ids.ledger space).live x)
    (bounded : ∀ tenure, tenure.Bounded → (change tenure).Bounded)
    (alike : ∀ tenure, tenure.Bounded →
      IdLedger.counted (watch.ids.ledger space).live other = tenure.references - tenure.lost →
      count = (change tenure).references - (change tenure).lost) :
    Counts id home
      { ids := watch.ids.withLedger space ledger
        tenure := if space = home ∧ other = id ∧ live = true then watch.tenure.map change
          else watch.tenure } := by
  by_cases here : space = home
  · subst here
    have later := ledger_withLedger watch.ids space ledger
    by_cases same : id = other ∧ live = true
    · obtain ⟨rfl, there⟩ := same
      rw [if_pos ⟨rfl, rfl, there⟩]
      refine h.change tracks bounded fun tenure within before => ?_
      rw [later, counts, if_pos ⟨rfl, there⟩]
      exact alike tenure within before
    · rw [if_neg fun all => same ⟨all.2.1.symm, all.2.2⟩]
      refine h.pass tracks ?_
      rw [later, counts, if_neg same]
  · rw [if_neg fun all => here all.1]
    refine h.pass tracks ?_
    rw [ledger_withLedger_of_ne _ (Ne.symm here)]

theorem Counts.retain (h : watch.Counts id home) (other : ObjectId) (space : IdSpace) :
    (watch.perform id home (.retain other space)).Counts id home := by
  obtain ⟨start, sound⟩ := h.tracks.sound space
  have counts := IdLedger.counted_retain sound other
  rw [← IdLedger.retain_fst] at counts
  refine h.recount (h.tracks.retain other space) counts (fun _ => .retain) ?_
  intro tenure bounded before
  have full := bounded.full
  rw [before]
  unfold Tenure.retain
  split <;> simp only [Tenure.references] at * <;> omega

theorem Counts.release (h : watch.Counts id home) (other : ObjectId) (space : IdSpace) :
    (watch.perform id home (.release other space)).Counts id home := by
  obtain ⟨start, sound⟩ := h.tracks.sound space
  have counts := IdLedger.counted_release sound other
  rw [← IdLedger.release_fst] at counts
  refine h.recount (h.tracks.release other space) counts (fun _ => .release) ?_
  intro tenure _ before
  rw [before]
  simp only [Tenure.release, Tenure.references]
  omega

theorem Counts.discard (h : watch.Counts id home) {other : ObjectId} {space : IdSpace}
    (apart : Call.discard other space ≠ .discard id home) :
    (watch.perform id home (.discard other space)).Counts id home := by
  refine h.pass (h.tracks.discard other space) ?_
  unfold ObjectIds.discard
  by_cases here : space = home
  · subst here
    rw [ledger_withLedger]
    have differs : id ≠ other := by
      rintro rfl
      exact apart rfl
    exact (IdLedger.counted_erase _ other id).trans (if_neg differs)
  · rw [ledger_withLedger_of_ne _ (Ne.symm here)]

/-- **Every call keeps the count**, other than giving the id up. -/
theorem Counts.perform (h : watch.Counts id home) {call : Call} (kept : call ≠ .discard id home) :
    (watch.perform id home call).Counts id home := by
  cases call with
  | allocate needFresh space => exact h.allocate needFresh space
  | retain other space => exact h.retain other space
  | release other space => exact h.release other space
  | discard other space => exact h.discard kept
  | markPersisted =>
    refine h.pass h.tracks.markPersisted ?_
    rw [ledger_markPersisted]
    rfl

theorem Counts.performAll (h : watch.Counts id home) {calls : List Call}
    (kept : .discard id home ∉ calls) : (watch.performAll id home calls).Counts id home := by
  induction calls generalizing watch with
  | nil => exact h
  | cons call rest ih =>
    rw [List.mem_cons, not_or] at kept
    exact ih (h.perform (Ne.symm kept.1)) kept.2

end Watch

/-! ## Outliving the references -/

/-- The id outlives its references: it is live, can be retained and released, and is not handed out
as long as there are any, and only so long. -/
structure Outlives (id : ObjectId) (space : IdSpace) (tenure : Tenure) (ids : ObjectIds) :
    Prop where
  live : ids.isLive id space = true ↔ 0 < tenure.references
  retain : (ids.retain id space).1 = false ↔ tenure.references = 0
  release : (ids.release id space).1 = false ↔ tenure.references = 0
  kept : 0 < tenure.references → ∀ needFresh allocation after,
    ids.allocate needFresh space = (.ok allocation, after) → allocation.id ≠ id

/-- What is true of every id, references lost or not. -/
structure OutlivesCounted (id : ObjectId) (space : IdSpace) (tenure : Tenure) (ids : ObjectIds) :
    Prop where
  lost : tenure.lost ≤ tenure.references
  live : ids.isLive id space = true ↔ tenure.lost < tenure.references
  retain : (ids.retain id space).1 = ids.isLive id space
  release : (ids.release id space).1 = ids.isLive id space
  kept : tenure.lost < tenure.references → ∀ needFresh allocation after,
    ids.allocate needFresh space = (.ok allocation, after) → allocation.id ≠ id

theorem Watch.Counts.outlivesCounted {id : ObjectId} {home : IdSpace} {watch : Watch}
    (h : watch.Counts id home) {tenure : Tenure} (there : watch.tenure = some tenure) :
    OutlivesCounted id home tenure watch.ids := by
  obtain ⟨start, sound⟩ := h.tracks.sound home
  have count := h.counted tenure there
  have live : watch.ids.isLive id home = true ↔ tenure.lost < tenure.references := by
    refine (IdLedger.isLive_iff_counted sound id).trans ?_
    rw [count]
    omega
  refine ⟨?_, live, IdLedger.retain_fst _ _, IdLedger.release_fst _ _, ?_⟩
  · have positive := IdLedger.counted_nonneg sound id
    omega
  · rintro more needFresh allocation after given rfl
    obtain ⟨ledger, got, -⟩ := allocate_eq_ok given
    obtain ⟨-, -, idle, -⟩ := sound.allocate got
    exact idle (live.2 more)

theorem OutlivesCounted.outlives_iff {id : ObjectId} {space : IdSpace} {tenure : Tenure}
    {ids : ObjectIds} (h : OutlivesCounted id space tenure ids) :
    Outlives id space tenure ids ↔ tenure.lost = 0 ∨ tenure.lost < tenure.references := by
  obtain ⟨lost, live, retain, release, kept⟩ := h
  constructor
  · intro outlives
    by_contra exhausted
    rw [not_or] at exhausted
    have some : 0 < tenure.references := by omega
    exact exhausted.2 (live.1 (outlives.live.2 some))
  · intro fine
    have same : tenure.lost < tenure.references ↔ 0 < tenure.references := by omega
    have dead : ids.isLive id space = false ↔ tenure.references = 0 := by
      rw [Bool.eq_false_iff, ne_eq, live]
      omega
    exact ⟨live.trans same, by rw [retain, dead], by rw [release, dead],
      fun some => kept (same.2 some)⟩

/-- **A shared id outlives its references** exactly unless some were lost and as many are left.  It
always outlives those that were not lost, and none are lost as long as there are at most
`mostCounted`. -/
theorem shared_id_outlives_iff (marks : IdSpace → Int32) {id : ObjectId} {space : IdSpace}
    {calls : List Call} (kept : .discard id space ∉ calls) {watch : Watch}
    (watched : Watch.performAll id space
      { ids := .ofMarks (marks .dataFile) (marks .separateFiles) } calls = watch)
    {tenure : Tenure} (there : watch.tenure = some tenure) :
    (tenure.lost = 0 ↔ tenure.peak ≤ mostCounted) ∧
      OutlivesCounted id space tenure watch.ids ∧
      (Outlives id space tenure watch.ids ↔
        tenure.lost = 0 ∨ tenure.lost < tenure.references) := by
  subst watched
  have counts := (Watch.Counts.ofMarks marks).performAll kept
  have outlives := counts.outlivesCounted there
  exact ⟨(counts.bounded tenure there).lost, outlives, outlives.outlives_iff⟩

/-- An id is shared while others are handed out, given up and asked about. -/
def sharedCalls : List Call :=
  [.allocate true .dataFile, .retain 1 .dataFile, .allocate false .dataFile, .discard 2 .dataFile,
    .release 1 .dataFile, .retain 7 .dataFile, .release 1 .separateFiles]

theorem shared_id_outlives_iff_sharedCalls :
    .discard 1 .dataFile ∉ sharedCalls ∧ ∃ watch,
      Watch.performAll 1 .dataFile { ids := .ofMarks 0 0 } sharedCalls = watch ∧
      watch.tenure = some { retained := 1, released := 1, peak := 2 } ∧
      watch.ids.isLive 1 .dataFile = true ∧
      Outlives 1 .dataFile { retained := 1, released := 1, peak := 2 } watch.ids := by
  have kept : .discard 1 .dataFile ∉ sharedCalls := by decide
  have there : (Watch.performAll 1 .dataFile { ids := .ofMarks 0 0 } sharedCalls).tenure =
      some { retained := 1, released := 1, peak := 2 } := by
    decide +kernel
  obtain ⟨-, -, outlives⟩ := shared_id_outlives_iff (fun _ => 0) kept rfl there
  have outlives := outlives.2 (.inl rfl)
  exact ⟨kept, _, rfl, there, outlives.live.2 (by decide), outlives⟩

/-! ## Lost references -/

namespace Watch

variable {id : ObjectId} {home : IdSpace} {watch : Watch} {tenure : Tenure}

theorem Counts.tenure_retain (h : watch.Counts id home) (there : watch.tenure = some tenure)
    (rest : tenure.lost < tenure.references) :
    (watch.perform id home (.retain id home)).tenure = tenure.retain := by
  have outlives := h.outlivesCounted there
  have answer : (watch.ids.retain id home).1 = true := outlives.retain.trans (outlives.live.2 rest)
  simp only [Watch.perform, answer, there, and_self, if_true, Option.map_some]

theorem Counts.tenure_release (h : watch.Counts id home) (there : watch.tenure = some tenure)
    (rest : tenure.lost < tenure.references) :
    (watch.perform id home (.release id home)).tenure = tenure.release := by
  have outlives := h.outlivesCounted there
  have answer : (watch.ids.release id home).1 = true :=
    outlives.release.trans (outlives.live.2 rest)
  simp only [Watch.perform, answer, there, and_self, if_true, Option.map_some]

/-- References are added one after another. -/
theorem Counts.retain_replicate (h : watch.Counts id home) (there : watch.tenure = some tenure)
    (rest : tenure.lost < tenure.references) (more : Nat) :
    ∃ tenure' : Tenure,
      (watch.performAll id home (.replicate more (.retain id home))).tenure = tenure' ∧
      tenure'.retained = tenure.retained + more ∧ tenure'.released = tenure.released ∧
      tenure'.references - tenure'.lost =
        min (tenure.references - tenure.lost + more) mostCounted := by
  have full := (h.bounded tenure there).full
  induction more generalizing watch tenure with
  | zero => exact ⟨tenure, there, rfl, rfl, by omega⟩
  | succ more ih =>
    have next := h.tenure_retain there rest
    have count : tenure.retain.references - tenure.retain.lost =
        min (tenure.references - tenure.lost + 1) mostCounted := by
      unfold Tenure.retain
      split <;> simp only [Tenure.references] at * <;> omega
    have most : mostCounted = 2147483647 := rfl
    obtain ⟨tenure', last, retained, released, left⟩ :=
      ih (h.retain id home) next (by omega) (by omega)
    refine ⟨tenure', last, ?_, released, ?_⟩
    · rw [retained]
      simp only [Tenure.retain]
      omega
    · omega

/-- References are dropped one after another, as many as are counted. -/
theorem Counts.release_replicate (h : watch.Counts id home) (there : watch.tenure = some tenure)
    (fewer : Nat) (within : fewer ≤ tenure.references - tenure.lost) :
    ∃ tenure' : Tenure,
      (watch.performAll id home (.replicate fewer (.release id home))).tenure = tenure' ∧
      tenure'.retained = tenure.retained ∧ tenure'.released = tenure.released + fewer ∧
      tenure'.lost = tenure.lost := by
  induction fewer generalizing watch tenure with
  | zero => exact ⟨tenure, there, rfl, rfl, rfl⟩
  | succ fewer ih =>
    have next := h.tenure_release there (by omega)
    obtain ⟨tenure', last, retained, released, lost⟩ :=
      ih (h.release id home) next (by simp only [Tenure.release, Tenure.references] at *; omega)
    refine ⟨tenure', last, retained, ?_, lost⟩
    rw [released]
    simp only [Tenure.release]
    omega

/-- One more reference than can be counted, and all but two dropped again. -/
theorem Counts.overshare (h : watch.Counts id home) (there : watch.tenure = some {}) {more : Nat}
    (full : (more : Int) + 1 = mostCounted) :
    ∃ before tenure,
      watch.performAll id home
        (.replicate (more + 1) (.retain id home) ++ .replicate more (.release id home)) = before ∧
      before.Counts id home ∧ before.tenure = some tenure ∧ tenure.references = 2 ∧
      tenure.lost = 1 := by
  have first : ({} : Tenure).references - ({} : Tenure).lost = 1 := rfl
  obtain ⟨shared, there, retained, released, left⟩ :=
    h.retain_replicate there (by decide) (more + 1)
  have kept : Call.discard id home ∉ List.replicate (more + 1) (Call.retain id home) := by simp
  have kept' : Call.discard id home ∉ List.replicate more (Call.release id home) := by simp
  have counts := h.performAll kept
  -- The highest count is too large a number to be looked into.
  generalize mostCounted = most at full left
  obtain ⟨last, there, retained', released', lost⟩ :=
    counts.release_replicate there more (by omega)
  have counts := counts.performAll kept'
  have references : shared.references = most + 1 := by
    rw [Tenure.references, retained, released]
    show 1 + (((0 + (more + 1) : Nat) : Int)) - ((0 : Nat) : Int) = _
    omega
  refine ⟨_, last, List.foldl_append, counts, there, ?_, by omega⟩
  unfold Tenure.references at references ⊢
  omega

end Watch

/-- An id is handed out, a reference is added `more + 1` times, and as many are dropped. -/
def overshared (more : Nat) : List Call :=
  .allocate true .dataFile ::
    (.replicate (more + 1) (.retain 1 .dataFile) ++ .replicate more (.release 1 .dataFile) ++
      [.release 1 .dataFile])

theorem discard_not_mem_overshared (more : Nat) :
    .discard 1 .dataFile ∉ overshared more := by
  simp [overshared]

/-- An id that is first among the free ones is handed out again. -/
theorem allocate_free {ids : ObjectIds} {space : IdSpace} {id : ObjectId} {rest : List ObjectId}
    (free : (ids.ledger space).free = id :: rest) :
    (ids.allocate false space).1 = .ok ⟨id, false⟩ := by
  unfold allocate IdLedger.allocate
  rw [free]

/-- With one reference lost, the id is handed out again while it is still referenced. -/
theorem recycled_of_overshared (more : Nat) (full : (more : Int) + 1 = mostCounted) :
    ∃ watch tenure, Watch.performAll 1 .dataFile { ids := .new } (overshared more) = watch ∧
      watch.Counts 1 .dataFile ∧ watch.tenure = some tenure ∧ tenure.references = 1 ∧
      tenure.lost = 1 ∧ (watch.ids.allocate false .dataFile).1 = .ok ⟨1, false⟩ := by
  have begun : Watch.Counts 1 .dataFile { ids := .new } := .ofMarks fun _ => firstId
  have counts := begun.allocate true .dataFile
  have first : (Watch.perform 1 .dataFile { ids := .new } (.allocate true .dataFile)).tenure =
      some {} := by decide +kernel
  obtain ⟨before, tenure, performed, counts, there, references, lost⟩ :=
    counts.overshare first full
  have count := counts.counted tenure there
  have gone := counts.tenure_release there (by omega)
  obtain ⟨start, sound⟩ := counts.tracks.sound .dataFile
  have free : ((before.ids.release 1 .dataFile).2.ledger .dataFile).free =
      1 :: (before.ids.ledger .dataFile).free :=
    IdLedger.free_release_last sound (by omega)
  refine ⟨Watch.perform 1 .dataFile before (.release 1 .dataFile), tenure.release, ?_,
    counts.release 1 .dataFile, gone, ?_, lost, allocate_free free⟩
  · rw [← performed]
    unfold overshared Watch.performAll
    rw [List.foldl_cons, List.foldl_append]
    rfl
  · simp only [Tenure.release, Tenure.references] at references ⊢
    omega

/-- **A reference is lost** when there are more than `mostCounted`: once as many are dropped as were
added, the id is handed out again although the first reference to it is left. -/
theorem shared_id_recycled :
    .discard 1 .dataFile ∉ overshared 2147483646 ∧ ∃ watch tenure,
      Watch.performAll 1 .dataFile { ids := .new } (overshared 2147483646) = watch ∧
      watch.tenure = some tenure ∧ tenure.references = 1 ∧
      watch.ids.isLive 1 .dataFile = false ∧
      (watch.ids.allocate false .dataFile).1 = .ok ⟨1, false⟩ ∧
      ¬ Outlives 1 .dataFile tenure watch.ids := by
  obtain ⟨watch, tenure, performed, counts, there, references, lost, recycled⟩ :=
    recycled_of_overshared 2147483646 (by decide)
  have outlives := counts.outlivesCounted there
  refine ⟨discard_not_mem_overshared _, watch, tenure, performed, there, references, ?_, recycled,
    ?_⟩
  · rw [Bool.eq_false_iff, ne_eq, outlives.live]
    omega
  · rw [outlives.outlives_iff]
    omega

end ObjectIds

end DurableStore
