import DurableStore.Proofs.ObjectIds.Soundness
import DurableStore.Proofs.ProbeTable.Contents

/-!
A live id is never handed out, whatever the caller does.

A caller may make any `Call` on any id.  A `Register` follows the calls: it has the ids themselves
and a `Page` for each space, on which stand the counts of references as they are kept, in a probe
table that refuses one value, and which ids were handed out and which were given up while they were
live.  A call that the table refuses has no outcome.

`Page.Matches` says what a page and the ledger of its space have to do with each other.  Every call
has an outcome and keeps it (`Register.InOrder.perform`), so a series of calls does, and what the
ledger hands out next is read off the page (`live_never_handed_out`).
-/

namespace DurableStore

namespace ObjectIds

/-! ## Pages -/

/-- What is noted about one space beside its ledger. -/
structure Page where
  /-- The counts of references where they are kept. -/
  counts : ProbeTable := .empty
  /-- The ids that were handed out. -/
  handed : List ObjectId := []
  /-- The ids that were given up while they were live. -/
  burned : List ObjectId := []

namespace Page

/-- Sets the count of an id, unless the table refuses it. -/
def recount? (page : Page) (id : ObjectId) (references : Int32) : Option Page :=
  (page.counts.put? id references).map fun (_, counts) => { page with counts }

/-- Removes the count of an id. -/
def erase (page : Page) (id : ObjectId) : Page :=
  { page with counts := (page.counts.erase id).2 }

/-- An id is handed out. -/
def allocate? (page : Page) (id : ObjectId) : Option Page :=
  (page.recount? id 1).map fun page => { page with handed := page.handed ++ [id] }

/-- An id is given up. -/
def discard (page : Page) (live : Bool) (id : ObjectId) : Page :=
  { page.erase id with burned := if live then page.burned ++ [id] else page.burned }

/-- A reference is added to an id, if it has a count. -/
def retain? (page : Page) (id : ObjectId) : Option Page :=
  match page.counts.get? id with
  | some references => page.recount? id (Int32.ofIntClamp (references.toInt + 1))
  | none => some page

/-- A reference to an id is dropped, if it has a count. -/
def release? (page : Page) (id : ObjectId) : Option Page :=
  match page.counts.get? id with
  | some references =>
    if 1 < references then page.recount? id (references - 1) else some (page.erase id)
  | none => some page

/-- A page and the ledger of its space, which began at `start`. -/
structure Matches (page : Page) (start : Int32) (ledger : IdLedger) : Prop where
  sound : ledger.Sound start
  counts : page.counts.Represents fun id => ledger.live[id]?
  handed : ∀ id ∈ page.handed, id < ledger.nextFresh
  burned : ∀ id ∈ page.burned, id < ledger.nextFresh ∧ ¬ ledger.Held id

namespace Matches

variable {page : Page} {start : Int32} {ledger after : IdLedger} {id : ObjectId}

theorem ofMark (mark : Int32) : ({} : Page).Matches (max mark firstId) (.ofMark mark) where
  sound := .ofMark mark
  counts := ProbeTable.represents_withRoomFor _
  handed := nofun
  burned := nofun

/-- Ids stay given up while the ledger moves on. -/
theorem follow (h : page.Matches start ledger) (sound : after.Sound start)
    (follows : ledger.Follows after) {counts : ProbeTable}
    (represents : counts.Represents fun id => after.live[id]?) :
    { page with counts }.Matches start after where
  sound := sound
  counts := represents
  handed := fun id member => Int32.lt_of_lt_of_le (h.handed id member) follows.nextFresh
  burned := by
    intro id member
    obtain ⟨before, gone⟩ := h.burned id member
    exact ⟨Int32.lt_of_lt_of_le before follows.nextFresh,
      fun held => gone (follows.held id before held)⟩

/-- A count that stands for references is not refused. -/
theorem recount? (h : page.Matches start ledger) (sound : after.Sound start)
    (follows : ledger.Follows after) {references : Int32} (positive : 1 ≤ references)
    (live : after.live = ledger.live.insert id references) :
    ∃ noted, page.recount? id references = some noted ∧ noted.Matches start after := by
  have storable : references ≠ ProbeTable.reserved := by
    rintro rfl
    exact absurd positive (by decide)
  obtain ⟨counts, stored, represents⟩ := h.counts.put? storable id
  refine ⟨{ page with counts }, ?_, h.follow sound follows ?_⟩
  · unfold Page.recount?
    rw [stored]
    rfl
  · convert represents using 1
    funext other
    rw [live, Std.TreeMap.getElem?_insert, Function.update_apply]
    simp only [Std.LawfulEqCmp.compare_eq_iff_eq, eq_comm (a := id)]

theorem erase (h : page.Matches start ledger) (sound : after.Sound start)
    (follows : ledger.Follows after) (id : ObjectId) (live : after.live = ledger.live.erase id) :
    (page.erase id).Matches start after := by
  refine h.follow sound follows ?_
  convert (h.counts.erase id).2 using 1
  funext other
  rw [live, Std.TreeMap.getElem?_erase, Function.update_apply]
  simp only [Std.LawfulEqCmp.compare_eq_iff_eq, eq_comm (a := id)]

theorem allocate (h : page.Matches start ledger) {needFresh : Bool}
    {allocation : IdLedger.Allocation}
    (got : ledger.allocate needFresh = (some allocation, after)) :
    ∃ noted, page.allocate? allocation.id = some noted ∧ noted.Matches start after := by
  obtain ⟨sound, follows, -, -, used, live⟩ := h.sound.allocate got
  obtain ⟨noted, stored, fits⟩ := h.recount? sound follows (Int32.le_refl 1) live
  refine ⟨{ noted with handed := noted.handed ++ [allocation.id] }, ?_,
    { fits with handed := ?_ }⟩
  · unfold Page.allocate?
    rw [stored]
    rfl
  · intro id member
    rcases List.mem_append.1 member with before | last
    · exact fits.handed id before
    · exact List.mem_singleton.1 last ▸ used

theorem discard (h : page.Matches start ledger) (id : ObjectId) :
    (page.discard (ledger.isLive id) id).Matches start (ledger.discard id) := by
  obtain ⟨sound, follows, gone⟩ := h.sound.discard id
  have fits := h.erase sound follows id rfl
  refine { fits with burned := ?_ }
  unfold Page.discard
  intro other member
  cases live : ledger.isLive id with
  | false =>
    rw [live] at member
    exact fits.burned other member
  | true =>
    rw [live] at member
    rcases List.mem_append.1 member with before | last
    · exact fits.burned other before
    · have live : id ∈ ledger.live := live
      rw [List.mem_singleton.1 last]
      exact ⟨h.sound.below id (.inl live), gone live⟩

theorem retain (h : page.Matches start ledger) (id : ObjectId) :
    ∃ noted, page.retain? id = some noted ∧ noted.Matches start (ledger.retain id).2 := by
  obtain ⟨sound, follows⟩ := h.sound.retain id
  have known : page.counts.get? id = ledger.live[id]? := h.counts.get? id
  unfold Page.retain?
  rw [known]
  unfold IdLedger.retain at sound follows ⊢
  cases found : ledger.live[id]? with
  | none => exact ⟨page, rfl, h⟩
  | some references =>
    rw [found] at sound follows
    have positive := IdLedger.one_le_ofIntClamp_add (h.sound.referenced id references found)
    exact h.recount? sound follows positive rfl

theorem release (h : page.Matches start ledger) (id : ObjectId) :
    ∃ noted, page.release? id = some noted ∧ noted.Matches start (ledger.release id).2 := by
  obtain ⟨sound, follows⟩ := h.sound.release id
  have known : page.counts.get? id = ledger.live[id]? := h.counts.get? id
  unfold Page.release?
  rw [known]
  unfold IdLedger.release at sound follows ⊢
  cases found : ledger.live[id]? with
  | none => exact ⟨page, rfl, h⟩
  | some references =>
    simp only [found] at sound follows ⊢
    by_cases more : 1 < references
    · simp only [if_pos more] at sound follows ⊢
      exact h.recount? sound follows (IdLedger.one_le_sub_one more) rfl
    · simp only [if_neg more] at sound follows ⊢
      refine ⟨page.erase id, rfl, h.erase sound follows id ?_⟩
      split <;> rfl

theorem markPersisted (h : page.Matches start ledger) :
    page.Matches start ledger.markPersisted := by
  obtain ⟨sound, follows⟩ := h.sound.markPersisted
  exact h.follow sound follows h.counts

end Matches

end Page

/-! ## Calls -/

/-- A call that may change the ids. -/
inductive Call where
  | allocate (needFresh : Bool) (space : IdSpace)
  | markPersisted
  | discard (id : ObjectId) (space : IdSpace)
  | retain (id : ObjectId) (space : IdSpace)
  | release (id : ObjectId) (space : IdSpace)
  deriving DecidableEq, Repr

/-- The ids, and a page for each space. -/
structure Register where
  ids : ObjectIds
  page : IdSpace → Page

namespace Register

/-- Nothing was done yet to ids that begin above the marks. -/
def ofMarks (marks : IdSpace → Int32) : Register :=
  { ids := .ofMarks (marks .dataFile) (marks .separateFiles), page := fun _ => {} }

/-- The ids as a call left them, and a new page for its space. -/
def turn (register : Register) (ids : ObjectIds) (space : IdSpace) (page : Page) : Register :=
  { ids, page := Function.update register.page space page }

/-- What a call leaves, unless a table of counts refuses it. -/
def perform (register : Register) : Call → Option Register
  | .allocate needFresh space =>
    match register.ids.allocate needFresh space with
    | (.ok allocation, ids) =>
      ((register.page space).allocate? allocation.id).map (register.turn ids space)
    | (.error _, ids) => some { register with ids }
  | .markPersisted => some { register with ids := register.ids.markPersisted }
  | .discard id space =>
    let live := register.ids.isLive id space
    some (register.turn (register.ids.discard id space) space
      ((register.page space).discard live id))
  | .retain id space =>
    ((register.page space).retain? id).map
      (register.turn (register.ids.retain id space).2 space)
  | .release id space =>
    ((register.page space).release? id).map
      (register.turn (register.ids.release id space).2 space)

/-- What one call after another leaves. -/
def performAll (register : Register) : List Call → Option Register
  | [] => some register
  | call :: rest => (register.perform call).bind (·.performAll rest)

/-- The page of each space matches its ledger, which began at `start`. -/
def InOrder (start : IdSpace → Int32) (register : Register) : Prop :=
  ∀ space, (register.page space).Matches (start space) (register.ids.ledger space)

variable {register : Register} {start : IdSpace → Int32}

theorem inOrder_ofMarks (marks : IdSpace → Int32) :
    (ofMarks marks).InOrder fun space => max (marks space) firstId := by
  intro space
  cases space <;> exact .ofMark _

/-- Only the space a call is about has to be looked at. -/
theorem InOrder.turn (h : register.InOrder start) {space : IdSpace} {page : Page}
    {ledger : IdLedger} (one : page.Matches (start space) ledger) :
    (register.turn (register.ids.withLedger space ledger) space page).InOrder start := by
  intro other
  show (Function.update register.page space page other).Matches (start other)
    ((register.ids.withLedger space ledger).ledger other)
  by_cases same : other = space
  · subst same
    rw [Function.update_self, ledger_withLedger]
    exact one
  · rw [Function.update_of_ne same, ledger_withLedger_of_ne _ same]
    exact h other

/-- **No call is refused**, and every call keeps the pages in order. -/
theorem InOrder.perform (h : register.InOrder start) (call : Call) :
    ∃ after, register.perform call = some after ∧ after.InOrder start := by
  cases call with
  | allocate needFresh space =>
    cases given : register.ids.allocate needFresh space with
    | mk result ids =>
      cases result with
      | ok allocation =>
        obtain ⟨ledger, got, rfl⟩ := allocate_eq_ok given
        obtain ⟨page, noted, one⟩ := (h space).allocate got
        simp only [Register.perform, given, noted, Option.map_some]
        exact ⟨_, rfl, h.turn one⟩
      | error fault =>
        simp only [Register.perform, given, allocate_eq_error given]
        exact ⟨_, rfl, h⟩
  | markPersisted =>
    refine ⟨_, rfl, fun space => ?_⟩
    rw [ledger_markPersisted]
    exact (h space).markPersisted
  | discard id space => exact ⟨_, rfl, h.turn ((h space).discard id)⟩
  | retain id space =>
    obtain ⟨page, noted, one⟩ := (h space).retain id
    simp only [Register.perform, noted, Option.map_some]
    exact ⟨_, rfl, h.turn one⟩
  | release id space =>
    obtain ⟨page, noted, one⟩ := (h space).release id
    simp only [Register.perform, noted, Option.map_some]
    exact ⟨_, rfl, h.turn one⟩

theorem InOrder.performAll (h : register.InOrder start) (calls : List Call) :
    ∃ after, register.performAll calls = some after ∧ after.InOrder start := by
  induction calls generalizing register with
  | nil => exact ⟨register, rfl, h⟩
  | cons call rest ih =>
    obtain ⟨next, performed, order⟩ := h.perform call
    obtain ⟨after, performed', order'⟩ := ih order
    refine ⟨after, ?_, order'⟩
    unfold Register.performAll
    rw [performed]
    exact performed'

end Register

/-- **A live id is never handed out**, whatever was called before: no call is refused, the ledger of
each space is sound and its counts are what the table has, and the id that is handed out next is
not live, was not given up while it was live and, if it is fresh, lies above all that were handed
out before. -/
theorem live_never_handed_out (marks : IdSpace → Int32) (calls : List Call) :
    ∃ register, (Register.ofMarks marks).performAll calls = some register ∧ ∀ space,
      (register.ids.ledger space).Sound (max (marks space) firstId) ∧
      ((register.page space).counts.Represents fun id =>
        (register.ids.ledger space).live[id]?) ∧
      ∀ needFresh allocation after,
        register.ids.allocate needFresh space = (.ok allocation, after) →
          register.ids.isLive allocation.id space = false ∧
          allocation.id ∉ (register.page space).burned ∧
          (needFresh = true ∨ (register.ids.ledger space).free = [] →
            ∀ earlier ∈ (register.page space).handed, earlier < allocation.id) := by
  obtain ⟨register, performed, order⟩ := (Register.inOrder_ofMarks marks).performAll calls
  refine ⟨register, performed, fun space => ?_⟩
  have h := order space
  refine ⟨h.sound, h.counts, ?_⟩
  intro needFresh allocation after given
  obtain ⟨ledger, got, -⟩ := allocate_eq_ok given
  obtain ⟨-, -, idle, origin, -, -⟩ := h.sound.allocate got
  refine ⟨?_, ?_, ?_⟩
  · exact Bool.eq_false_iff.2 idle
  · intro burned
    obtain ⟨before, gone⟩ := h.burned _ burned
    rcases origin with fresh | ⟨-, -, held⟩
    · exact Int32.lt_irrefl (fresh ▸ before)
    · exact gone held
  · intro required earlier member
    rcases origin with fresh | ⟨recycled, some, -⟩
    · exact fresh ▸ h.handed earlier member
    · rcases required with required | none
      · rw [recycled] at required
        cases required
      · exact absurd none some

/-- A mark that was never written, and one just below the last id. -/
def oddMarks : IdSpace → Int32
  | .dataFile => Int32.minValue
  | .separateFiles => Int32.maxValue - 2

/-- Ids released twice, given up when free, live or never handed out, and asked for when none is
left. -/
def oddCalls : List Call :=
  [.allocate true .dataFile, .allocate false .dataFile, .release 1 .dataFile, .discard 1 .dataFile,
    .release 1 .dataFile, .discard 2 .dataFile, .release 2 .dataFile, .retain 7 .dataFile,
    .discard (-5) .separateFiles, .allocate false .separateFiles, .markPersisted,
    .allocate true .separateFiles, .allocate true .separateFiles,
    .retain (Int32.maxValue - 1) .separateFiles, .release (Int32.maxValue - 1) .separateFiles]

theorem live_never_handed_out_odd :
    ∃ register, (Register.ofMarks oddMarks).performAll oddCalls = some register ∧
      (register.page .dataFile).handed = [1, 2] ∧ (register.page .dataFile).burned = [2] ∧
      ∃ allocation after, register.ids.allocate true .dataFile = (.ok allocation, after) ∧
        register.ids.isLive allocation.id .dataFile = false ∧
        allocation.id ∉ (register.page .dataFile).burned ∧
        ∀ earlier ∈ (register.page .dataFile).handed, earlier < allocation.id := by
  obtain ⟨register, performed, sound⟩ := live_never_handed_out oddMarks oddCalls
  obtain ⟨-, -, next⟩ := sound .dataFile
  have noted : ((Register.ofMarks oddMarks).performAll oddCalls).map (fun register =>
      ((register.page .dataFile).handed, (register.page .dataFile).burned)) =
        some ([1, 2], [2]) := by
    decide +kernel
  have granted : ((Register.ofMarks oddMarks).performAll oddCalls).map (fun register =>
      (register.ids.allocate true .dataFile).1.isOk) = some true := by
    decide +kernel
  rw [performed, Option.map_some, Option.some.injEq] at noted granted
  obtain ⟨handed, burned⟩ := Prod.ext_iff.1 noted
  refine ⟨register, performed, handed, burned, ?_⟩
  cases given : register.ids.allocate true .dataFile with
  | mk result after =>
    cases result with
    | error fault =>
      rw [given] at granted
      cases granted
    | ok allocation =>
      obtain ⟨idle, kept, above⟩ := next true allocation after given
      exact ⟨allocation, after, rfl, idle, kept, above (.inl rfl)⟩

end ObjectIds

end DurableStore
