import DurableStore.Proofs.BlockFile.Reopening

/-!
One block file across failures, crashes and recoveries.

A `Logbook` is a block file that is appended to, scanned, recovered and cleared, loses its power and
gets it back, and whose process may be gone and another one open and recover it; and with it what
its users were told: which blocks were acknowledged since it was last cleared, and where.  It is
`Faithful` when the file holds these blocks, a remnant of another one apart that no scan takes for a
block, and the open file knows where that would start.  Every event keeps it faithful
(`faithful_step`) as long as no power loss hits an empty payload between its header and itself, whose
header alone is a block.  Hence `acknowledged_found`.
-/

namespace DurableStore

open FileSystem

/-! ## Where blocks stand -/

/-- Every block of a row stands in its place. -/
theorem blockOf_prefix_drop (offset : Nat) {payloads : List Bytes} {found : Found}
    (member : found ∈ placed offset payloads) (rest : Bytes) :
    blockOf found.payload <+: (row payloads ++ rest).drop (found.offset - offset) := by
  induction payloads generalizing offset with
  | nil => cases member
  | cons payload later ih =>
    rw [row_cons, List.append_assoc]
    rcases List.mem_cons.1 member with rfl | member
    · show blockOf payload <+: _
      rw [Nat.sub_self, List.drop_zero]
      exact List.prefix_append _ _
    · -- The blocks behind the first one start where that ends.
      have behind := (placed_within member).1
      have onward : found.offset - offset = (blockOf payload).length +
          (found.offset - (offset + headerLength + payload.length)) := by
        rw [length_blockOf]
        omega
      rw [onward, ← List.drop_drop, List.drop_left]
      exact ih _ member

theorem FileSystem.AltersOnly.resolve {id : FileId} {before after : FileSystem}
    (h : AltersOnly id before after) (path : Path) : after.resolve path = before.resolve path := by
  obtain ⟨entries, contents⟩ := after
  obtain rfl : entries = before.entries := h.entries
  rfl

/-! ## Logbooks -/

/-- A block file, and what its users were told. -/
structure Logbook where
  disk : FileSystem
  power : PowerSwitch
  /-- The file as it is open, if it is. -/
  blocks : Option BlockFile
  /-- The blocks whose appends were acknowledged since the file was last cleared, with the offsets
  that were returned. -/
  acknowledged : List Found := []

namespace Logbook

/-- What happens to a block file. -/
inductive Event where
  /-- A payload is appended, be it too long or not. -/
  | append (payload : Bytes)
  | scan (policy : Policy) (asked : List Mismatch)
  | recover (policy : Policy) (asked : List Mismatch)
  | clear
  /-- A loss of power is scheduled. -/
  | arm (countdown : Nat)
  /-- The power is restored. -/
  | reset
  /-- The process is gone, and another one opens the file and recovers it. -/
  | reopen (syncWrites : Bool) (countdown : Nat) (policy : Policy) (asked : List Mismatch)

/-- What an append acknowledges. -/
def acknowledges (payload : Bytes) : Except Fault Nat → List Found
  | .ok offset => [⟨offset, payload⟩]
  | .error _ => []

/-- A payload is appended to the open file. -/
def append (logbook : Logbook) (blocks : BlockFile) (payload : Bytes) : Logbook :=
  let appended := blocks.append payload logbook.power logbook.disk
  { disk := appended.disk, power := appended.power, blocks := some appended.blocks,
    acknowledged := logbook.acknowledged ++ acknowledges payload appended.result }

/-- The open file is recovered. -/
def recover (logbook : Logbook) (blocks : BlockFile) (policy : Policy) (asked : List Mismatch) :
    Logbook :=
  let recovered := blocks.recover policy asked logbook.disk
  { logbook with disk := recovered.disk, blocks := some recovered.blocks }

/-- The open file is cleared. -/
def clear (logbook : Logbook) (blocks : BlockFile) : Logbook :=
  let (result, blocks, disk) := blocks.clear logbook.disk
  { logbook with
    disk
    blocks := some blocks
    acknowledged := if result.isOk then [] else logbook.acknowledged }

/-- Another process opens the file and recovers it; without that it does not use it. -/
def reopen (logbook : Logbook) (path : Path) (limit : Nat) (syncWrites : Bool) (countdown : Nat)
    (policy : Policy) (asked : List Mismatch) : Logbook :=
  let power := PowerSwitch.ofCountdown countdown
  match BlockFile.openAt logbook.disk path limit syncWrites with
  | (.error _, disk) => { logbook with disk, power, blocks := none }
  | (.ok blocks, disk) =>
    let recovered := blocks.recover policy asked disk
    { logbook with
      disk := recovered.disk
      power
      blocks := if recovered.result.isOk then some recovered.blocks else none }

/-- What an event does; without an open file there is nothing to append to. -/
def step (path : Path) (limit : Nat) (logbook : Logbook) : Event → Logbook
  | .append payload =>
    match logbook.blocks with
    | some blocks => logbook.append blocks payload
    | none => logbook
  | .scan _ _ => logbook
  | .recover policy asked =>
    match logbook.blocks with
    | some blocks => logbook.recover blocks policy asked
    | none => logbook
  | .clear =>
    match logbook.blocks with
    | some blocks => logbook.clear blocks
    | none => logbook
  | .arm countdown => { logbook with power := logbook.power.arm countdown }
  | .reset => { logbook with power := logbook.power.reset }
  | .reopen syncWrites countdown policy asked =>
    logbook.reopen path limit syncWrites countdown policy asked

/-- What a series of events does. -/
def run (path : Path) (limit : Nat) (logbook : Logbook) (events : List Event) : Logbook :=
  events.foldl (step path limit) logbook

/-- Whether an append was answered with a loss of power. -/
def lostPower : Except Fault Nat → Bool
  | .ok _ => false
  | .error fault => fault.isPowerLoss

/-- Whether the event is an append of the empty payload that found the power on and lost it, between
the header and the payload. -/
def cutsEmpty (logbook : Logbook) : Event → Bool
  | .append payload =>
    payload.isEmpty && logbook.power.isOn && logbook.blocks.any fun blocks =>
      lostPower (blocks.append payload logbook.power logbook.disk).result
  | _ => false

/-- Whether none of the events cuts an empty payload off. -/
def uncut (path : Path) (limit : Nat) : Logbook → List Event → Bool
  | _, [] => true
  | logbook, event :: rest =>
    !logbook.cutsEmpty event && uncut path limit (logbook.step path limit event) rest

/-! ## Faithful logbooks -/

/-- The payloads of the acknowledged blocks. -/
def payloads (logbook : Logbook) : List Bytes :=
  logbook.acknowledged.map Found.payload

/-- The file holds what was acknowledged, and perhaps a remnant that no scan takes for a block. -/
structure Agrees (path : Path) (limit : Nat) (id : FileId) (torn : Option Bytes)
    (logbook : Logbook) : Prop where
  resolves : logbook.disk.resolve path = .ok (.file id)
  stores : logbook.disk.Stores id limit logbook.payloads torn
  placed : logbook.acknowledged = placed 0 logbook.payloads
  plain : torn ≠ some []
  handle : ∀ blocks, logbook.blocks = some blocks →
    blocks.limit = limit ∧ blocks.Intact logbook.disk id logbook.payloads torn

/-- It does so with some remnant or none. -/
def Faithful (path : Path) (limit : Nat) (id : FileId) (logbook : Logbook) : Prop :=
  ∃ torn, logbook.Agrees path limit id torn

variable {path : Path} {limit : Nat} {id : FileId} {logbook : Logbook} {blocks : BlockFile}
  {torn : Option Bytes}

theorem plain_none : (none : Option Bytes) ≠ some [] := by
  simp

/-- The open file was changed, and holds what was acknowledged. -/
theorem Agrees.of_intact (h : logbook.Agrees path limit id torn) {disk : FileSystem}
    {power : PowerSwitch} {blocks' : BlockFile} {acknowledged : List Found} {torn' : Option Bytes}
    (alters : AltersOnly id logbook.disk disk) (same : blocks'.limit = limit)
    (intact : blocks'.Intact disk id (acknowledged.map Found.payload) torn')
    (places : acknowledged = DurableStore.placed 0 (acknowledged.map Found.payload))
    (plain : torn' ≠ some []) :
    Agrees path limit id torn' { disk, power, blocks := some blocks', acknowledged } := by
  refine ⟨?_, ?_, places, plain, ?_⟩
  · rw [alters.resolve]
    exact h.resolves
  · subst same
    exact intact.stores
  · intro blocks there
    cases there
    exact ⟨same, intact⟩

theorem payloads_append (logbook : Logbook) (offset : Nat) (payload : Bytes) :
    (logbook.acknowledged ++ [(⟨offset, payload⟩ : Found)]).map Found.payload =
      logbook.payloads ++ [payload] := by
  simp [payloads]

/-- A failed append leaves at most a remnant that no scan takes for a block. -/
theorem plain_of_failed (plain : torn ≠ some []) {payload : Bytes} {fault : Fault}
    {torn' : Option Bytes} (there : logbook.blocks = some blocks)
    (uncut : logbook.cutsEmpty (.append payload) = false)
    (failed : (blocks.append payload logbook.power logbook.disk).result = .error fault)
    (left : torn' = torn ∨ torn' ≠ some [] ∨
      torn' = some payload ∧ logbook.power.isOn = true ∧
        fault = .powerLoss (some blocks.path)) : torn' ≠ some [] := by
  rcases left with rfl | apart | ⟨rfl, on, rfl⟩
  · exact plain
  · exact apart
  · -- The power went behind the header, so the payload is not empty.
    intro empty
    obtain rfl : payload = [] := Option.some.inj empty
    have cut : logbook.cutsEmpty (.append []) = true := by
      simp only [cutsEmpty, on, there, Option.any_some, failed]
      rfl
    rw [uncut] at cut
    cases cut

theorem faithful_append (h : logbook.Faithful path limit id) (there : logbook.blocks = some blocks)
    {payload : Bytes} (uncut : logbook.cutsEmpty (.append payload) = false) :
    (logbook.append blocks payload).Faithful path limit id := by
  obtain ⟨torn, agrees⟩ := h
  obtain ⟨same, intact⟩ := agrees.handle blocks there
  have course := BlockFile.append_course intact payload logbook.power
  obtain ⟨alters, same'⟩ := course.alters
  unfold append
  rcases course.outcome intact with ⟨offset, ok, intact'⟩ | ⟨fault, torn', failed, intact', left⟩
  · -- One more block is acknowledged, where the row ended.
    have ends := course.offset_eq ok
    simp only [ok]
    refine ⟨none, agrees.of_intact alters (same'.trans same) ?_ ?_ plain_none⟩
    · rw [acknowledges, payloads_append]
      exact intact'
    · rw [acknowledges, payloads_append, placed_append, Nat.zero_add, ← agrees.placed, ends]
      rfl
  · simp only [failed, acknowledges, List.append_nil]
    exact ⟨torn', agrees.of_intact alters (same'.trans same) intact' agrees.placed
      (plain_of_failed agrees.plain there uncut failed left)⟩

/-- A recovery leaves the acknowledged blocks and no remnant, and a file that is too large for it as
it is. -/
theorem recover_cases (blocks : BlockFile) (h : logbook.Agrees path limit id torn)
    (bounded : limit ≤ Config.largestBlockLimit) (same : blocks.limit = limit)
    (writes : blocks.file.writable? = some id) (policy : Policy) (asked : List Mismatch) :
    (∃ after, blocks.recover policy asked logbook.disk =
        { result := .ok (.ofRow logbook.payloads torn), asked,
          blocks := { blocks with tornTail := none }, disk := after } ∧
      AltersOnly id logbook.disk after ∧
      ({ blocks with tornTail := none } : BlockFile).Intact after id logbook.payloads none) ∨
    ∃ fault, blocks.recover policy asked logbook.disk =
        { result := .error fault, asked, blocks, disk := logbook.disk } := by
  subst same
  rcases Nat.lt_or_ge logbook.disk.memory.bytes (logbook.disk.length id) with large | small
  · exact .inr (blocks.recover_of_lt_length (OpenFile.target_of_writable? writes) large policy
      asked)
  · have recovered := BlockFile.recover_of_stores blocks bounded writes h.stores small policy asked
    rw [legible_of_ne _ h.plain] at recovered
    exact .inl recovered

theorem faithful_recover (h : logbook.Faithful path limit id)
    (there : logbook.blocks = some blocks) (policy : Policy) (asked : List Mismatch) :
    (logbook.recover blocks policy asked).Faithful path limit id := by
  obtain ⟨torn, agrees⟩ := h
  obtain ⟨same, intact⟩ := agrees.handle blocks there
  have bounded : limit ≤ Config.largestBlockLimit := same ▸ intact.bounded
  unfold recover
  rcases recover_cases blocks agrees bounded same intact.writes policy asked with
    ⟨after, recovered, alters, intact'⟩ | ⟨fault, failed⟩
  · rw [recovered]
    exact ⟨none, agrees.of_intact alters same intact' agrees.placed plain_none⟩
  · rw [failed]
    exact ⟨torn, agrees.of_intact (.refl id _) same intact agrees.placed agrees.plain⟩

theorem faithful_clear (h : logbook.Faithful path limit id)
    (there : logbook.blocks = some blocks) : (logbook.clear blocks).Faithful path limit id := by
  obtain ⟨torn, agrees⟩ := h
  obtain ⟨same, intact⟩ := agrees.handle blocks there
  have near : ¬0 > OpenFile.largestOffset := by decide
  have alters := altersOnly_edit logbook.disk id (·.resize 0)
  have cleared : blocks.clear logbook.disk =
      (.ok (), { blocks with tornTail := none }, logbook.disk.edit id (·.resize 0)) := by
    unfold BlockFile.clear
    simp only [BlockFile.setLength_eq intact.writes, if_neg near]
  have intact' : ({ blocks with tornTail := none } : BlockFile).Intact
      (logbook.disk.edit id (·.resize 0)) id [] none := by
    refine ⟨intact.bounded, intact.writes, ⟨alters.size ▸ agrees.stores.there, ?_, by simp, by simp⟩,
      fun _ => rfl, by simp⟩
    rw [content_edit agrees.stores.there, Content.toBytes_resize]
    rfl
  unfold clear
  rw [cleared]
  exact ⟨none, agrees.of_intact alters same intact' rfl plain_none⟩

theorem faithful_reopen (h : logbook.Faithful path limit id)
    (bounded : limit ≤ Config.largestBlockLimit) (syncWrites : Bool) (countdown : Nat)
    (policy : Policy) (asked : List Mismatch) :
    (logbook.reopen path limit syncWrites countdown policy asked).Faithful path limit id := by
  obtain ⟨torn, agrees⟩ := h
  have opens := BlockFile.openAt_of_resolve agrees.resolves limit syncWrites
  unfold reopen
  rw [opens]
  rcases recover_cases (.fresh path limit id syncWrites) agrees bounded rfl rfl policy asked with
    ⟨after, recovered, alters, intact⟩ | ⟨fault, failed⟩
  · simp only [recovered]
    exact ⟨none, agrees.of_intact alters rfl intact agrees.placed plain_none⟩
  · simp only [failed]
    refine ⟨torn, agrees.resolves, agrees.stores, agrees.placed, agrees.plain, ?_⟩
    intro blocks there
    cases there

theorem faithful_step (h : logbook.Faithful path limit id)
    (bounded : limit ≤ Config.largestBlockLimit) {event : Event}
    (uncut : logbook.cutsEmpty event = false) :
    (logbook.step path limit event).Faithful path limit id := by
  cases event with
  | append payload =>
    unfold step
    cases there : logbook.blocks with
    | none => exact h
    | some blocks => exact faithful_append h there uncut
  | scan policy asked => exact h
  | recover policy asked =>
    unfold step
    cases there : logbook.blocks with
    | none => exact h
    | some blocks => exact faithful_recover h there policy asked
  | clear =>
    unfold step
    cases there : logbook.blocks with
    | none => exact h
    | some blocks => exact faithful_clear h there
  | arm countdown =>
    obtain ⟨torn, agrees⟩ := h
    exact ⟨torn, agrees.resolves, agrees.stores, agrees.placed, agrees.plain, agrees.handle⟩
  | reset =>
    obtain ⟨torn, agrees⟩ := h
    exact ⟨torn, agrees.resolves, agrees.stores, agrees.placed, agrees.plain, agrees.handle⟩
  | reopen syncWrites countdown policy asked =>
    exact faithful_reopen h bounded syncWrites countdown policy asked

theorem faithful_run (h : logbook.Faithful path limit id)
    (bounded : limit ≤ Config.largestBlockLimit) {events : List Event}
    (uncut : logbook.uncut path limit events = true) :
    (logbook.run path limit events).Faithful path limit id := by
  -- Event by event; each one finds the logbook that the ones before it left.
  induction events generalizing logbook with
  | nil => exact h
  | cons event rest ih =>
    rw [Logbook.uncut, Bool.and_eq_true, Bool.not_eq_true'] at uncut
    exact ih (faithful_step h bounded uncut.1) uncut.2

/-! ## What the file tells -/

/-- Scans and recoveries succeed under every policy without asking it, skip nothing and find these
blocks. -/
structure Tells (blocks : BlockFile) (disk : FileSystem) (acknowledged : List Found) : Prop where
  scanned : ∀ policy asked, ∃ recovery, blocks.scan policy asked disk = (.ok recovery, asked) ∧
    recovery.found = acknowledged ∧ recovery.skipped = 0
  recovered : ∀ policy asked, ∃ recovery blocks' disk', blocks.recover policy asked disk =
      { result := .ok recovery, asked, blocks := blocks', disk := disk' } ∧
    recovery.found = acknowledged ∧ recovery.skipped = 0

theorem Agrees.found_eq (h : logbook.Agrees path limit id torn) :
    (Recovery.ofRow logbook.payloads torn).found = logbook.acknowledged := by
  show DurableStore.placed 0 (legible logbook.payloads torn) = logbook.acknowledged
  rw [legible_of_ne _ h.plain]
  exact h.placed.symm

theorem Agrees.tells (h : logbook.Agrees path limit id torn)
    (bounded : limit ≤ Config.largestBlockLimit) (same : blocks.limit = limit)
    (writes : blocks.file.writable? = some id)
    (holds : logbook.disk.length id ≤ logbook.disk.memory.bytes) :
    Tells blocks logbook.disk logbook.acknowledged := by
  subst same
  refine ⟨?_, ?_⟩
  · intro policy asked
    have scanned := BlockFile.scan_of_stores blocks bounded (OpenFile.target_of_writable? writes)
      h.stores holds policy asked
    exact ⟨_, scanned, h.found_eq, rfl⟩
  · intro policy asked
    obtain ⟨after, recovered, -⟩ :=
      BlockFile.recover_of_stores blocks bounded writes h.stores holds policy asked
    exact ⟨_, _, after, recovered, h.found_eq, rfl⟩

/-- The logbook of a file that was just opened and is empty. -/
def begun (blocks : BlockFile) (disk : FileSystem) (power : PowerSwitch) : Logbook :=
  { disk, power, blocks := some blocks }

theorem faithful_begun {disk after : FileSystem} {syncWrites : Bool}
    (bounded : limit ≤ Config.largestBlockLimit)
    (opens : BlockFile.openAt disk path limit syncWrites = (.ok blocks, after))
    (target : blocks.file.target = .file id) (there : id < after.contents.size)
    (empty : after.length id = 0) (power : PowerSwitch) :
    (begun blocks after power).Faithful path limit id := by
  obtain ⟨id', rfl, resolves, -⟩ := BlockFile.openAt_eq_ok opens
  cases target
  have content : after.content id = [] := by
    refine List.eq_nil_of_length_eq_zero ?_
    rw [FileSystem.length_content]
    exact empty
  have stores : after.Stores id limit [] none := ⟨there, content, by simp, by simp⟩
  refine ⟨none, resolves, stores, rfl, plain_none, ?_⟩
  intro blocks opened
  cases opened
  exact ⟨rfl, bounded, rfl, stores, fun _ => rfl, nofun⟩

/-- **Acknowledged blocks are found.**  Whatever happens to a block file that starts empty: every
block that was acknowledged since it was last cleared stands where its append said, and as long as
memory can hold the file, every scan and every recovery finds exactly these blocks, be it in the
process that wrote them or in one that opens the file after a crash. -/
theorem acknowledged_found (config : Config) (sound : config.problem? = none)
    {disk after : FileSystem} {syncWrites : Bool}
    (opens : BlockFile.openAt disk path config.blockLimit syncWrites = (.ok blocks, after))
    (target : blocks.file.target = .file id) (there : id < after.contents.size)
    (empty : after.length id = 0) (power : PowerSwitch) {events : List Event}
    (uncut : (begun blocks after power).uncut path config.blockLimit events = true) :
    let logbook := (begun blocks after power).run path config.blockLimit events
    (∀ found ∈ logbook.acknowledged,
        blockOf found.payload <+: (logbook.disk.content id).drop found.offset) ∧
      (logbook.disk.length id ≤ logbook.disk.memory.bytes →
        (∀ opened, logbook.blocks = some opened →
            Tells opened logbook.disk logbook.acknowledged) ∧
          ∀ syncs, ∃ reopened, BlockFile.openAt logbook.disk path config.blockLimit syncs =
              (.ok reopened, logbook.disk) ∧
            Tells reopened logbook.disk logbook.acknowledged) := by
  have bounded := ((Config.problem?_eq_none_iff config).1 sound).2.2.1
  have begins := faithful_begun bounded opens target there empty power
  obtain ⟨torn, agrees⟩ := faithful_run begins bounded uncut
  intro logbook
  refine ⟨?_, ?_⟩
  · intro found member
    rw [agrees.stores.content]
    rw [agrees.placed] at member
    exact blockOf_prefix_drop 0 member _
  · intro holds
    refine ⟨?_, ?_⟩
    · intro opened open_
      obtain ⟨same, intact⟩ := agrees.handle opened open_
      exact agrees.tells bounded same intact.writes holds
    · intro syncs
      exact ⟨.fresh path config.blockLimit id syncs,
        BlockFile.openAt_of_resolve agrees.resolves config.blockLimit syncs,
        agrees.tells bounded rfl rfl holds⟩

/-- A limit that is soon exceeded. -/
def smallBlocks : Config :=
  { Config.testing with blockLimit := 4, inlineLimit := 4 }

/-- A new file is cleared, loses the power behind a header, in front of one, and behind one again,
is opened by another process, and refuses a payload. -/
def stormy : List Event :=
  [.append [0], .clear, .append [1], .arm 2, .append [2], .append [2], .reset, .append [3], .arm 4,
    .append [], .append [4], .reopen true 2 .fail [], .append [5], .recover .skip [], .reset,
    .append [1, 2, 3, 4, 5], .scan .fail [], .append [6]]

/-- The blocks that were acknowledged in the end. -/
def stormyAcknowledged : List Found :=
  [⟨0, [1]⟩, ⟨17, [3]⟩, ⟨34, []⟩, ⟨50, [6]⟩]

/-- The empty file that another process finds when it opens it for the first time. -/
def stormyBegun : Logbook :=
  begun (.fresh ⟨["blocks"]⟩ 4 0) (BlockFile.openAt .empty ⟨["blocks"]⟩ 4 false).2 .disarmed

theorem acknowledged_found_stormy :
    stormyBegun.uncut ⟨["blocks"]⟩ 4 stormy = true ∧
      (stormyBegun.run ⟨["blocks"]⟩ 4 stormy).acknowledged = stormyAcknowledged ∧
      ∃ reopened,
        BlockFile.openAt (stormyBegun.run ⟨["blocks"]⟩ 4 stormy).disk ⟨["blocks"]⟩ 4 true =
          (.ok reopened, (stormyBegun.run ⟨["blocks"]⟩ 4 stormy).disk) ∧
        Tells reopened (stormyBegun.run ⟨["blocks"]⟩ 4 stormy).disk stormyAcknowledged := by
  have opens : BlockFile.openAt .empty ⟨["blocks"]⟩ smallBlocks.blockLimit false =
      (.ok (.fresh ⟨["blocks"]⟩ 4 0), (BlockFile.openAt .empty ⟨["blocks"]⟩ 4 false).2) :=
    Prod.ext (toOption_eq_some.1 (by decide +kernel)) rfl
  have uncut : stormyBegun.uncut ⟨["blocks"]⟩ 4 stormy = true := by decide +kernel
  have acknowledged :
      (stormyBegun.run ⟨["blocks"]⟩ 4 stormy).acknowledged = stormyAcknowledged := by
    decide +kernel
  have small : (stormyBegun.run ⟨["blocks"]⟩ 4 stormy).disk.length 0 ≤
      (stormyBegun.run ⟨["blocks"]⟩ 4 stormy).disk.memory.bytes := by
    decide +kernel
  obtain ⟨-, told⟩ := acknowledged_found smallBlocks (by decide) opens rfl
    (by decide +kernel) (by decide +kernel) .disarmed uncut
  obtain ⟨reopened, reopens, tells⟩ := (told small).2 true
  refine ⟨uncut, acknowledged, reopened, reopens, ?_⟩
  rw [← acknowledged]
  exact tells

end Logbook

end DurableStore
