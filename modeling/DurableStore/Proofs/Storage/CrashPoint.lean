import DurableStore.Proofs.BlockFile.Reopening
import DurableStore.Proofs.Storage.PowerLoss
import Mathlib.Logic.Function.Basic

/-!
The append at which the power goes.

Blocks are appended through one storage to any of the files that are open on it (`Ledgers`), and all
of these files share one countdown, while each remembers its own torn block.  An append whose
payload is too long asks nobody; any other uses two checks as long as the power lasts.  So a
countdown of `n` completes exactly `(n - 1) / 2` of them.  If `n` is odd, the next one loses the
power in front of its header and writes nothing.  If `n` is even, it loses it behind its header, and
what stood in the file in front of that header is still there (`Lends.attempt_broken`).  From then
on nothing is written at all (`attempt_of_tripped`).

`Reached` says where a run stands: one attempt leads from one such state to the next
(`Reached.step`), hence every run ends in one (`reached_after`), and `crash_point` reads off what
became of every single attempt.
-/

namespace DurableStore

open FileSystem PowerSwitch

namespace BlockFile

/-! ## Appends that write nothing -/

theorem append_of_long {blocks : BlockFile} {payload : Bytes}
    (long : blocks.limit < payload.length) (power : PowerSwitch) (disk : FileSystem) :
    blocks.append payload power disk =
      { result := .error (.oversizedBlock payload.length blocks.limit), blocks, power, disk } := by
  have refused : stamp blocks.limit payload =
      .error (.oversizedBlock payload.length blocks.limit) := if_neg (by omega)
  unfold append appendHeader
  rw [refused]

theorem append_of_off {blocks : BlockFile} {payload : Bytes} {power : PowerSwitch}
    (fits : payload.length ≤ blocks.limit) (off : power.isOn = false) (disk : FileSystem) :
    blocks.append payload power disk =
      { result := .error (.powerLoss (some blocks.path)), blocks, power := .tripped, disk } := by
  unfold append appendHeader
  rw [stamp_of_le fits]
  simp only [check, off, afterCheck_of_off off]
  rfl

/-- A change elsewhere leaves a file what it keeps. -/
theorem Keeps.of_altersOnly {blocks : BlockFile} {before after : FileSystem} {id other : FileId}
    {kept : Bytes} (h : blocks.Keeps before id kept) (alters : AltersOnly other before after)
    (apart : id ≠ other) : blocks.Keeps after id kept := by
  have same := alters.others id apart
  exact ⟨h.writes, alters.size ▸ h.there, same ▸ h.front, fun whole => same ▸ h.whole whole,
    h.marked⟩

end BlockFile

/-! ## Files that share a storage -/

/-- A storage and the block files that are open on it, and which blocks were acknowledged, the
latest last. -/
structure Ledgers (ι : Type) where
  storage : Storage
  files : ι → BlockFile
  disk : FileSystem
  acknowledged : List (ι × Found) := []

namespace Ledgers

variable {ι : Type}

/-- The attempts whose payload is within the limit of its file. -/
def fitting (ledgers : Ledgers ι) (attempts : List (ι × Bytes)) : List (ι × Bytes) :=
  attempts.filter fun attempt => attempt.2.length ≤ (ledgers.files attempt.1).limit

/-- What was asked for when a block was acknowledged. -/
def request (acknowledged : ι × Found) : ι × Bytes :=
  (acknowledged.1, acknowledged.2.payload)

/-- The payloads among these that go to the file `id`. -/
def payloadsOf (ids : ι → FileId) (id : FileId) (written : List (ι × Bytes)) : List Bytes :=
  (written.filter fun block => ids block.1 = id).map Prod.snd

/-- What stands in each file once these blocks are written behind what it kept. -/
def standing (ids : ι → FileId) (kept : FileId → Bytes) (written : List (ι × Bytes))
    (id : FileId) : Bytes :=
  kept id ++ row (payloadsOf ids id written)

/-- Every open file keeps certain bytes.  A file may be open more than once, but not while one of
those who have it open remembers a torn block: the others do not know of it. -/
structure Lends (ledgers : Ledgers ι) (ids : ι → FileId) (kept : FileId → Bytes) : Prop where
  keeps : ∀ file, (ledgers.files file).Keeps ledgers.disk (ids file) (kept (ids file))
  shared : ∀ file other, file ≠ other → ids file = ids other →
    (ledgers.files file).tornTail = none

/-- The second state comes from the first by attempts to append: they leave the storage as it is but
for its power, and the files but for their torn blocks. -/
structure Follows (before after : Ledgers ι) : Prop where
  storage : ∃ power, after.storage = { before.storage with power }
  files : ∀ file, (after.files file).file = (before.files file).file ∧
    (after.files file).limit = (before.files file).limit

variable {ledgers start : Ledgers ι} {ids : ι → FileId} {kept : FileId → Bytes} {file : ι}
  {payload : Bytes}

/-! ## What stands in the files -/

theorem standing_append (ids : ι → FileId) (kept : FileId → Bytes) (front back : List (ι × Bytes)) :
    standing ids kept (front ++ back) = standing ids (standing ids kept front) back := by
  funext id
  simp [standing, payloadsOf]

theorem standing_here (ids : ι → FileId) (kept : FileId → Bytes) (file : ι) (payload : Bytes) :
    standing ids kept [(file, payload)] (ids file) = kept (ids file) ++ blockOf payload := by
  simp [standing, payloadsOf]

theorem standing_elsewhere (kept : FileId → Bytes) (payload : Bytes) {id : FileId}
    (apart : id ≠ ids file) : standing ids kept [(file, payload)] id = kept id := by
  simp [standing, payloadsOf, apart.symm]

/-- More blocks only add to what stands in a file. -/
theorem standing_front {front whole : List (ι × Bytes)} (isFront : front <+: whole) (id : FileId) :
    standing ids kept front id <+: standing ids kept whole id := by
  obtain ⟨back, rfl⟩ := isFront
  rw [standing_append]
  exact List.prefix_append _ _

theorem fitting_append (ledgers : Ledgers ι) (front back : List (ι × Bytes)) :
    ledgers.fitting (front ++ back) = ledgers.fitting front ++ ledgers.fitting back :=
  List.filter_append ..

/-- What needs room behind some attempts needed no more behind the first of them. -/
theorem length_standing_le (ledgers : Ledgers ι) (front back : List (ι × Bytes)) (count : Nat)
    (id : FileId) :
    (standing ids kept ((ledgers.fitting front).take count) id).length ≤
      (standing ids kept ((ledgers.fitting (front ++ back)).take count) id).length := by
  rw [fitting_append, List.take_append]
  exact (standing_front (List.prefix_append _ _) id).length_le

theorem fitting_of_fits (fits : payload.length ≤ (ledgers.files file).limit)
    (earlier : List (ι × Bytes)) :
    ledgers.fitting (earlier ++ [(file, payload)]) =
      ledgers.fitting earlier ++ [(file, payload)] := by
  simp [fitting, fits]

theorem fitting_of_long (long : (ledgers.files file).limit < payload.length)
    (earlier : List (ι × Bytes)) :
    ledgers.fitting (earlier ++ [(file, payload)]) = ledgers.fitting earlier := by
  simp [fitting, long]

/-! ## What attempts leave as it is -/

namespace Follows

theorem refl (ledgers : Ledgers ι) : ledgers.Follows ledgers :=
  ⟨⟨ledgers.storage.power, rfl⟩, fun _ => ⟨rfl, rfl⟩⟩

theorem trans {first second third : Ledgers ι} (h : first.Follows second)
    (h' : second.Follows third) : first.Follows third := by
  obtain ⟨power, stored⟩ := h.storage
  obtain ⟨power', stored'⟩ := h'.storage
  refine ⟨⟨power', ?_⟩, fun file => ?_⟩
  · rw [stored', stored]
  · exact ⟨(h'.files file).1.trans (h.files file).1, (h'.files file).2.trans (h.files file).2⟩

theorem checkWriting {before after : Ledgers ι} (h : before.Follows after)
    (permitted : before.storage.checkWriting = .ok ()) : after.storage.checkWriting = .ok () := by
  obtain ⟨power, stored⟩ := h.storage
  rw [stored]
  exact permitted

theorem path {before after : Ledgers ι} (h : before.Follows after) (file : ι) :
    (after.files file).path = (before.files file).path :=
  congrArg OpenFile.path (h.files file).1

end Follows

/-! ## Where a run stands -/

/-- What a storage whose switch was armed with `countdown` answers to an attempt that comes behind
`earlier`. -/
def answer (start : Ledgers ι) (ids : ι → FileId) (kept : FileId → Bytes) (countdown : Nat)
    (earlier : List (ι × Bytes)) (file : ι) (payload : Bytes) : Except Fault Nat :=
  if (start.files file).limit < payload.length then
    .error (.oversizedBlock payload.length (start.files file).limit)
  else if (start.fitting earlier).length < (countdown - 1) / 2 then
    .ok (standing ids kept (start.fitting earlier) (ids file)).length
  else .error (.powerLoss (some (start.files file).path))

/-- Where a run of attempts stands behind `earlier`, if its switch was armed with `countdown`. -/
structure Reached (start : Ledgers ι) (ids : ι → FileId) (kept : FileId → Bytes) (countdown : Nat)
    (earlier : List (ι × Bytes)) (ledgers : Ledgers ι) : Prop where
  follows : start.Follows ledgers
  /-- The first attempts that fit were acknowledged, half as many as there were checks to use. -/
  acknowledged : ledgers.acknowledged.map request =
    (start.fitting earlier).take ((countdown - 1) / 2)
  /-- What was acknowledged stands behind what the files kept at first, -/
  stands : ∀ file, standing ids kept (ledgers.acknowledged.map request) (ids file) <+:
    ledgers.disk.content (ids file)
  /-- and each block where it was acknowledged to be. -/
  placed : ∀ block ∈ ledgers.acknowledged, ∃ front, front.length = block.2.offset ∧
    front ++ blockOf block.2.payload <+:
      standing ids kept (ledgers.acknowledged.map request) (ids block.1)
  /-- Each attempt that fits used two checks, until none was left. -/
  power : 2 * (start.fitting earlier).length < countdown ∧
      ledgers.storage.power = .armed (countdown - 2 * (start.fitting earlier).length) ∧
      ledgers.Lends ids (standing ids kept (start.fitting earlier)) ∨
    countdown ≤ 2 * (start.fitting earlier).length ∧ ledgers.storage.power = .tripped

variable {countdown : Nat} {earlier : List (ι × Bytes)}

/-- An attempt that loses the power leaves what was acknowledged. -/
theorem Reached.lost (h : start.Reached ids kept countdown earlier ledgers)
    (fits : payload.length ≤ (start.files file).limit)
    (late : (countdown - 1) / 2 ≤ (start.fitting earlier).length) {after : Ledgers ι}
    (follows : ledgers.Follows after) (tripped : after.storage.power = .tripped)
    (same : after.acknowledged = ledgers.acknowledged)
    (stands : ∀ file, standing ids kept (ledgers.acknowledged.map request) (ids file) <+:
      after.disk.content (ids file)) :
    start.Reached ids kept countdown (earlier ++ [(file, payload)]) after := by
  refine ⟨h.follows.trans follows, ?_, same ▸ stands, same ▸ h.placed, .inr ⟨?_, tripped⟩⟩
  · rw [same, h.acknowledged, fitting_of_fits fits, List.take_append_of_le_length late]
  · rw [fitting_of_fits fits, List.length_append, List.length_singleton]
    omega

/-- An attempt that writes its block adds it to what was acknowledged. -/
theorem Reached.written (h : start.Reached ids kept countdown earlier ledgers)
    (fits : payload.length ≤ (start.files file).limit)
    (early : (start.fitting earlier).length < (countdown - 1) / 2) {after : Ledgers ι}
    (follows : ledgers.Follows after)
    (armed : after.storage.power =
      .armed (countdown - 2 * (start.fitting earlier).length - 2))
    (added : after.acknowledged = ledgers.acknowledged ++
      [(file, ⟨(standing ids kept (start.fitting earlier) (ids file)).length, payload⟩)])
    (lent : after.Lends ids
      (standing ids (standing ids kept (start.fitting earlier)) [(file, payload)])) :
    start.Reached ids kept countdown (earlier ++ [(file, payload)]) after := by
  have all : ledgers.acknowledged.map request = start.fitting earlier := by
    rw [h.acknowledged, List.take_of_length_le (Nat.le_of_lt early)]
  have all' : after.acknowledged.map request = start.fitting earlier ++ [(file, payload)] := by
    rw [added, List.map_append, all]
    rfl
  have count : (start.fitting (earlier ++ [(file, payload)])).length =
      (start.fitting earlier).length + 1 := by
    rw [fitting_of_fits fits, List.length_append, List.length_singleton]
  rw [← standing_append] at lent
  refine ⟨h.follows.trans follows, ?_, ?_, ?_, .inl ⟨?_, ?_, ?_⟩⟩
  · rw [all', fitting_of_fits fits, List.take_of_length_le]
    rw [List.length_append, List.length_singleton]
    exact early
  · intro other
    rw [all']
    exact (lent.keeps other).front
  · intro block member
    rw [all', standing_append]
    rw [added] at member
    rcases List.mem_append.1 member with member | member
    · obtain ⟨front, offset, stands⟩ := h.placed block member
      rw [all] at stands
      exact ⟨front, offset, stands.trans (List.prefix_append _ _)⟩
    · obtain rfl := List.mem_singleton.1 member
      exact ⟨_, rfl, standing_here ids _ file payload ▸ List.prefix_refl _⟩
  · rw [count]
    omega
  · rw [armed, count]
    exact congrArg PowerSwitch.armed (by omega)
  · rw [fitting_of_fits fits]
    exact lent

/-! ## One attempt -/

variable [DecidableEq ι]

/-- Appends a block to one of the files. -/
def attempt (ledgers : Ledgers ι) (file : ι) (payload : Bytes) : Except Fault Nat × Ledgers ι :=
  let appended := ledgers.storage.appendBlock (ledgers.files file) payload ledgers.disk
  (appended.result,
    { storage := appended.storage
      files := Function.update ledgers.files file appended.blocks
      disk := appended.disk
      acknowledged :=
        match appended.result with
        | .ok offset => ledgers.acknowledged ++ [(file, ⟨offset, payload⟩)]
        | .error _ => ledgers.acknowledged })

/-- Appends blocks one after another, whatever becomes of each. -/
def after (ledgers : Ledgers ι) (attempts : List (ι × Bytes)) : Ledgers ι :=
  attempts.foldl (fun ledgers attempt => (ledgers.attempt attempt.1 attempt.2).2) ledgers

theorem after_append_singleton (ledgers : Ledgers ι) (attempts : List (ι × Bytes)) (file : ι)
    (payload : Bytes) :
    ledgers.after (attempts ++ [(file, payload)]) =
      ((ledgers.after attempts).attempt file payload).2 := by
  simp [after]

theorem acknowledged_of_error {fault : Fault}
    (failed : (ledgers.attempt file payload).1 = .error fault) :
    (ledgers.attempt file payload).2.acknowledged = ledgers.acknowledged := by
  unfold attempt at failed ⊢
  simp only at failed ⊢
  rw [failed]

/-- An attempt that is permitted is an append to its file. -/
theorem attempt_of_append (permitted : ledgers.storage.checkWriting = .ok ())
    {appended : BlockFile.Appended}
    (appends : (ledgers.files file).append payload ledgers.storage.power ledgers.disk = appended) :
    ledgers.attempt file payload =
      (appended.result,
        { storage := { ledgers.storage with power := appended.power }
          files := Function.update ledgers.files file appended.blocks
          disk := appended.disk
          acknowledged :=
            match appended.result with
            | .ok offset => ledgers.acknowledged ++ [(file, ⟨offset, payload⟩)]
            | .error _ => ledgers.acknowledged }) := by
  unfold attempt
  rw [Storage.appendBlock_of_ok permitted, appends]

theorem follows_update {power : PowerSwitch} {disk : FileSystem} {acknowledged : List (ι × Found)}
    {blocks : BlockFile} (same : blocks.file = (ledgers.files file).file)
    (limit : blocks.limit = (ledgers.files file).limit) :
    ledgers.Follows
      { storage := { ledgers.storage with power }
        files := Function.update ledgers.files file blocks, disk, acknowledged } := by
  refine ⟨⟨power, rfl⟩, fun other => ?_⟩
  by_cases here : other = file
  · subst here
    simp [same, limit]
  · simp [Function.update_of_ne here]

/-- **An oversized payload** is refused, and nothing changes: it uses up no check. -/
theorem attempt_of_long (permitted : ledgers.storage.checkWriting = .ok ())
    (long : (ledgers.files file).limit < payload.length) :
    ledgers.attempt file payload =
      (.error (.oversizedBlock payload.length (ledgers.files file).limit), ledgers) := by
  rw [attempt_of_append permitted (BlockFile.append_of_long long _ _)]
  simp only [Function.update_eq_self]

theorem attempt_of_off (permitted : ledgers.storage.checkWriting = .ok ())
    (fits : payload.length ≤ (ledgers.files file).limit)
    (off : ledgers.storage.power.isOn = false) :
    ledgers.attempt file payload =
      (.error (.powerLoss (some (ledgers.files file).path)),
        { ledgers with storage := { ledgers.storage with power := .tripped } }) := by
  rw [attempt_of_append permitted (BlockFile.append_of_off fits off _)]
  simp only [Function.update_eq_self]

/-- **With the power gone** an attempt fails, and nothing changes. -/
theorem attempt_of_tripped (permitted : ledgers.storage.checkWriting = .ok ())
    (fits : payload.length ≤ (ledgers.files file).limit)
    (tripped : ledgers.storage.power = .tripped) :
    ledgers.attempt file payload =
      (.error (.powerLoss (some (ledgers.files file).path)), ledgers) := by
  rw [attempt_of_off permitted fits (by rw [tripped]; rfl), ← tripped]

section Lit

variable {remaining : Nat} (lent : ledgers.Lends ids kept)
  (permitted : ledgers.storage.checkWriting = .ok ())
  (fits : payload.length ≤ (ledgers.files file).limit)
  (room : (kept (ids file)).length + headerLength + payload.length ≤ OpenFile.largestOffset)

include lent permitted fits room

/-- **Two checks are left, and the second fails**: the header is written behind what the file
kept. -/
theorem Lends.attempt_broken (armed : ledgers.storage.power = .armed 2) :
    ∃ after, ledgers.attempt file payload =
        (.error (.powerLoss (some (ledgers.files file).path)), after) ∧
      ledgers.Follows after ∧ after.storage.power = .tripped ∧
      after.acknowledged = ledgers.acknowledged ∧
      AltersOnly (ids file) ledgers.disk after.disk ∧
      kept (ids file) <+: after.disk.content (ids file) := by
  have attempt := (lent.keeps file).attempt payload ledgers.storage.power
  generalize appends : (ledgers.files file).append payload ledgers.storage.power ledgers.disk =
    appended at attempt
  have whole := attempt_of_append permitted appends
  rw [armed] at attempt
  cases attempt with
  | oversized long => omega
  | dark _ off => cases off
  | uncut _ _ far => omega
  | crowded _ _ crowded => omega
  | complete _ _ still => cases still
  | broken _ _ _ content alters =>
    exact ⟨_, whole, follows_update rfl rfl, rfl, rfl, alters, content ▸ List.prefix_append _ _⟩

/-- **At least three checks are left**: two of them are used, and the block is written behind what
the file kept. -/
theorem Lends.attempt_complete (armed : ledgers.storage.power = .armed remaining)
    (lasts : 3 ≤ remaining) :
    ∃ after, ledgers.attempt file payload = (.ok (kept (ids file)).length, after) ∧
      ledgers.Follows after ∧ after.storage.power = .armed (remaining - 2) ∧
      after.acknowledged =
        ledgers.acknowledged ++ [(file, ⟨(kept (ids file)).length, payload⟩)] ∧
      AltersOnly (ids file) ledgers.disk after.disk ∧
      after.Lends ids (standing ids kept [(file, payload)]) := by
  have attempt := (lent.keeps file).attempt payload ledgers.storage.power
  generalize appends : (ledgers.files file).append payload ledgers.storage.power ledgers.disk =
    appended at attempt
  have whole := attempt_of_append permitted appends
  have first : (PowerSwitch.armed remaining).isOn = true := decide_eq_true (by omega)
  have once : (PowerSwitch.armed remaining).afterCheck = .armed (remaining - 1) :=
    if_pos (by omega)
  have second : (PowerSwitch.armed (remaining - 1)).isOn = true := decide_eq_true (by omega)
  have twice : (PowerSwitch.armed (remaining - 1)).afterCheck = .armed (remaining - 2) :=
    if_pos (by omega)
  rw [armed] at attempt
  cases attempt with
  | oversized long => omega
  | dark _ off => rw [first] at off; cases off
  | uncut _ _ far => omega
  | crowded _ _ crowded => omega
  | broken _ _ off => rw [once, second] at off; cases off
  | complete _ _ _ content alters =>
    refine ⟨_, whole, follows_update rfl rfl, ?_, rfl, alters, ?_, ?_⟩
    · simp only [once, twice]
    · intro other
      by_cases here : other = file
      · subst here
        rw [standing_here]
        simp only [Function.update_self]
        exact ⟨(lent.keeps other).writes, alters.size ▸ (lent.keeps other).there,
          content ▸ List.prefix_refl _, fun _ => content, nofun⟩
      simp only [Function.update_of_ne here]
      by_cases together : ids other = ids file
      · -- Whoever else has the file open remembers no torn block of it.
        have clean := lent.shared other file here together
        rw [together, standing_here]
        exact ⟨together ▸ (lent.keeps other).writes, alters.size ▸ (lent.keeps file).there,
          content ▸ List.prefix_refl _, fun _ => content, by simp [clean]⟩
      · rw [standing_elsewhere kept payload together]
        exact (lent.keeps other).of_altersOnly alters together
    · intro one other apart together
      by_cases here : one = file
      · subst here
        simp
      · simp only [Function.update_of_ne here]
        exact lent.shared one other apart together

end Lit

/-! ## One attempt after another -/

/-- **One more attempt.** -/
theorem Reached.step (h : start.Reached ids kept countdown earlier ledgers)
    (permitted : start.storage.checkWriting = .ok ())
    (room : (standing ids kept ((start.fitting (earlier ++ [(file, payload)])).take
      (countdown / 2)) (ids file)).length ≤ OpenFile.largestOffset) :
    (ledgers.attempt file payload).1 = start.answer ids kept countdown earlier file payload ∧
      ((start.files file).limit < payload.length → (ledgers.attempt file payload).2 = ledgers) ∧
      AltersOnly (ids file) ledgers.disk (ledgers.attempt file payload).2.disk ∧
      start.Reached ids kept countdown (earlier ++ [(file, payload)])
        (ledgers.attempt file payload).2 := by
  have permitted' := h.follows.checkWriting permitted
  have path := h.follows.path file
  have limit := (h.follows.files file).2
  unfold answer
  rcases Nat.lt_or_ge (start.files file).limit payload.length with long | fits
  · rw [attempt_of_long permitted' (limit ▸ long), limit, if_pos long]
    refine ⟨rfl, fun _ => rfl, .refl _ _, h.follows, ?_, h.stands, h.placed, ?_⟩
    · rw [fitting_of_long long]
      exact h.acknowledged
    · rw [fitting_of_long long]
      exact h.power
  have fits' : payload.length ≤ (ledgers.files file).limit := limit ▸ fits
  rw [if_neg (Nat.not_lt.2 fits)]
  refine and_congr_right' (and_iff_right fun long => absurd long (Nat.not_lt.2 fits)) |>.2 ?_
  rcases h.power with ⟨more, armed, lent⟩ | ⟨spent, tripped⟩
  case inr =>
    have late : (countdown - 1) / 2 ≤ (start.fitting earlier).length := by omega
    rw [attempt_of_tripped permitted' fits' tripped, path, if_neg (Nat.not_lt.2 late)]
    exact ⟨rfl, .refl _ _, h.lost fits late (.refl _) tripped rfl h.stands⟩
  -- The power is on so far, and everything that fits was acknowledged.
  have all : ledgers.acknowledged.map request = start.fitting earlier := by
    rw [h.acknowledged, List.take_of_length_le (by omega)]
  rcases Nat.lt_or_ge (2 * (start.fitting earlier).length + 1) countdown with two | one
  case inr =>
    have late : (countdown - 1) / 2 ≤ (start.fitting earlier).length := by omega
    have last : countdown - 2 * (start.fitting earlier).length = 1 := by omega
    have off : ledgers.storage.power.isOn = false := by
      rw [armed, last]
      rfl
    rw [attempt_of_off permitted' fits' off, path, if_neg (Nat.not_lt.2 late)]
    exact ⟨rfl, .refl _ _, h.lost fits late ⟨⟨_, rfl⟩, fun _ => ⟨rfl, rfl⟩⟩ rfl rfl h.stands⟩
  have room' : (standing ids kept (start.fitting earlier) (ids file)).length + headerLength +
      payload.length ≤ OpenFile.largestOffset := by
    rw [fitting_of_fits fits, List.take_of_length_le, standing_append, standing_here,
      List.length_append, length_blockOf] at room
    · omega
    · rw [List.length_append, List.length_singleton]
      omega
  rcases Nat.lt_or_ge (2 * (start.fitting earlier).length + 2) countdown with three | two
  case inr =>
    have late : (countdown - 1) / 2 ≤ (start.fitting earlier).length := by omega
    have last : countdown - 2 * (start.fitting earlier).length = 2 := by omega
    rw [last] at armed
    obtain ⟨after, attempted, follows, tripped, same, alters, front⟩ :=
      lent.attempt_broken permitted' fits' room' armed
    rw [attempted, path, if_neg (Nat.not_lt.2 late)]
    refine ⟨rfl, alters, h.lost fits late follows tripped same fun other => ?_⟩
    by_cases together : ids other = ids file
    · rw [together, all]
      exact front
    · rw [alters.others _ together]
      exact h.stands other
  have early : (start.fitting earlier).length < (countdown - 1) / 2 := by omega
  obtain ⟨after, attempted, follows, armed', added, alters, lent'⟩ :=
    lent.attempt_complete permitted' fits' room' armed (by omega)
  rw [attempted, if_pos early]
  exact ⟨rfl, alters, h.written fits early follows armed' added lent'⟩


section Run

variable {countdown : Nat} (fresh : start.acknowledged = []) (lent : start.Lends ids kept)
  (permitted : start.storage.checkWriting = .ok ()) (positive : 1 ≤ countdown)
  (armed : start.storage.power = .ofCountdown countdown)

include fresh lent permitted positive armed

theorem reached_after (earlier : List (ι × Bytes))
    (room : ∀ file, (standing ids kept ((start.fitting earlier).take (countdown / 2))
      (ids file)).length ≤ OpenFile.largestOffset) :
    start.Reached ids kept countdown earlier (start.after earlier) := by
  induction earlier using List.reverseRecOn with
  | nil =>
    have nothing : standing ids kept [] = kept := by
      funext id
      exact List.append_nil _
    refine ⟨.refl start, ?_, ?_, ?_, .inl ⟨positive, ?_, ?_⟩⟩
    · show start.acknowledged.map request = _
      rw [fresh]
      exact List.take_nil.symm
    · show ∀ file, standing ids kept (start.acknowledged.map request) (ids file) <+: _
      rw [fresh, List.map_nil, nothing]
      exact fun file => (lent.keeps file).front
    · show ∀ block ∈ start.acknowledged, _
      rw [fresh]
      exact nofun
    · exact armed.trans (if_neg (Nat.one_le_iff_ne_zero.1 positive))
    · show start.Lends ids (standing ids kept [])
      rw [nothing]
      exact lent
  | append_singleton earlier last ih =>
    obtain ⟨file, payload⟩ := last
    have reached := ih fun other =>
      Nat.le_trans (start.length_standing_le earlier _ _ (ids other)) (room other)
    rw [after_append_singleton]
    exact (reached.step permitted (room file)).2.2.2

/-- **The crash point is exact.**  Let a storage that takes writes be armed with a countdown, and
let blocks be appended through it to any of its files, one after another.  Then
* what is acknowledged are the first `(countdown - 1) / 2` attempts whose payload is within the
  limit of its file, and none behind these;
* each attempt is answered so: one that is too long is refused and changes nothing, so it uses up no
  check; of the others the first ones give the offset of their block, and all later ones fail with a
  loss of power that names their own file;
* an attempt that fails changes its own file at most, and in that file neither what it kept at first
  nor anything in front of the end of a block that was acknowledged.

No file may outgrow the largest offset of the system while the power lasts. -/
theorem crash_point (attempts : List (ι × Bytes))
    (room : ∀ file, (standing ids kept ((start.fitting attempts).take (countdown / 2))
      (ids file)).length ≤ OpenFile.largestOffset) :
    (start.after attempts).acknowledged.map request =
        (start.fitting attempts).take ((countdown - 1) / 2) ∧
      ∀ earlier file payload later, attempts = earlier ++ (file, payload) :: later →
        let before := start.after earlier
        let outcome := before.attempt file payload
        outcome.1 = start.answer ids kept countdown earlier file payload ∧
          ((start.files file).limit < payload.length → outcome.2 = before) ∧
          ∀ fault, outcome.1 = .error fault →
            AltersOnly (ids file) before.disk outcome.2.disk ∧
              kept (ids file) <+: outcome.2.disk.content (ids file) ∧
              ∀ block ∈ before.acknowledged, ids block.1 = ids file →
                ∃ front, front.length = block.2.offset ∧
                  front ++ blockOf block.2.payload <+: before.disk.content (ids file) ∧
                  front ++ blockOf block.2.payload <+: outcome.2.disk.content (ids file) := by
  have roomy (front back : List (ι × Bytes)) (split : attempts = front ++ back) (file : ι) :
      (standing ids kept ((start.fitting front).take (countdown / 2)) (ids file)).length ≤
        OpenFile.largestOffset :=
    Nat.le_trans (start.length_standing_le front back _ (ids file)) (split ▸ room file)
  have reached := reached_after fresh lent permitted positive armed
  refine ⟨(reached attempts room).acknowledged, ?_⟩
  intro earlier file payload later split before outcome
  have start' := reached earlier (roomy earlier _ split)
  have split' : attempts = (earlier ++ [(file, payload)]) ++ later := by simp [split]
  obtain ⟨answered, unchanged, alters, next⟩ := start'.step permitted (roomy _ later split' file)
  refine ⟨answered, unchanged, fun fault failed => ⟨alters, ?_, ?_⟩⟩
  · exact (List.prefix_append _ _).trans (next.stands file)
  · intro block member here
    obtain ⟨front, offset, stands⟩ := start'.placed block member
    rw [here] at stands
    refine ⟨front, offset, stands.trans (start'.stands file), stands.trans ?_⟩
    have stands' := next.stands file
    rw [acknowledged_of_error failed] at stands'
    exact stands'

end Run

/-! ## A countdown that two files share -/

/-- A disk with two files, which are empty. -/
def pairDisk : FileSystem :=
  { entries := [([], .directory), (["a"], .file 0), (["b"], .file 1)]
    contents := #[.ofBytes [], .ofBytes []] }

/-- Both files, open for payloads of at most two bytes on a storage whose fourth check fails. -/
def pair : Ledgers Bool :=
  { storage := storageOn (.ofCountdown 4)
    files := fun second =>
      if second then .fresh ⟨["b"]⟩ 2 1 else .fresh ⟨["a"]⟩ 2 0
    disk := pairDisk }

/-- Where the files of the pair are kept. -/
def pairIds (second : Bool) : FileId :=
  if second then 1 else 0

theorem lends_pair : pair.Lends pairIds fun _ => [] := by
  refine ⟨fun second => ?_, fun second _ _ _ => ?_⟩
  · cases second <;> exact ⟨rfl, by decide, List.nil_prefix, fun _ => by decide +kernel, nofun⟩
  · cases second <;> rfl

/-- One block is acknowledged; the power goes in the middle of the next one, which is in the other
file, and a payload that is too long in between does not count. -/
theorem crash_point_pair :
    let attempts := [(false, [1]), (true, [2, 3, 4]), (true, [5]), (false, [6])]
    pair.acknowledged = [] ∧ pair.Lends pairIds (fun _ => []) ∧
      pair.storage.checkWriting = .ok () ∧ 1 ≤ 4 ∧
      pair.storage.power = .ofCountdown 4 ∧
      (∀ file, (standing pairIds (fun _ => []) ((pair.fitting attempts).take (4 / 2))
        (pairIds file)).length ≤ OpenFile.largestOffset) ∧
      (pair.after attempts).acknowledged.map request = [(false, [1])] ∧
      ((pair.after [(false, [1]), (true, [2, 3, 4])]).attempt true [5]).1 =
        .error (.powerLoss (some ⟨["b"]⟩)) ∧
      ((pair.after [(false, [1]), (true, [2, 3, 4]), (true, [5])]).attempt false [6]).1 =
        .error (.powerLoss (some ⟨["a"]⟩)) := by
  intro attempts
  have room : ∀ file, (standing pairIds (fun _ => []) ((pair.fitting attempts).take (4 / 2))
      (pairIds file)).length ≤ OpenFile.largestOffset := by
    intro file
    cases file <;> decide +kernel
  obtain ⟨acknowledged, answers⟩ :=
    crash_point rfl lends_pair rfl (by decide) rfl attempts room
  have fitting : pair.fitting attempts = [(false, [1]), (true, [5]), (false, [6])] := by
    decide +kernel
  rw [fitting] at acknowledged
  refine ⟨rfl, lends_pair, rfl, by decide, rfl, room, acknowledged, ?_, ?_⟩
  · exact (answers [(false, [1]), (true, [2, 3, 4])] true [5] [(false, [6])] rfl).1
  · exact (answers [(false, [1]), (true, [2, 3, 4]), (true, [5])] false [6] [] rfl).1

end Ledgers

end DurableStore
