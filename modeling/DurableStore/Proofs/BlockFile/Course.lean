import DurableStore.BlockFile
import DurableStore.Proofs.Block.Row

/-!
The course of an append.

An open block file `Keeps` certain bytes when its file holds them, at most with something behind
them that a broken append left, and the open file remembers where that starts.  `Attempt` lists the
ways an append to it can end, whatever these bytes are (`Keeps.attempt`).

The file is `Intact` when these bytes are a row of blocks and what is behind them is the remnant of
one more.  An append keeps it intact however it ends: `Course` lists the ways (`append_course`), and
they come to one block more or to a failure that leaves at most a remnant (`Course.outcome`).
-/

namespace DurableStore

namespace FileSystem

/-! ## Changes to the bytes of one file -/

/-- The second disk differs from the first in the bytes of one file. -/
structure AltersOnly (id : FileId) (before after : FileSystem) : Prop where
  entries : after.entries = before.entries
  size : after.contents.size = before.contents.size
  others : ∀ other, other ≠ id → after.content other = before.content other
  memory : after.memory = before.memory

theorem AltersOnly.refl (id : FileId) (disk : FileSystem) : AltersOnly id disk disk :=
  ⟨rfl, rfl, fun _ _ => rfl, rfl⟩

theorem AltersOnly.trans {id : FileId} {first second third : FileSystem}
    (h : AltersOnly id first second) (h' : AltersOnly id second third) :
    AltersOnly id first third :=
  ⟨h'.entries.trans h.entries, h'.size.trans h.size,
    fun other differs => (h'.others other differs).trans (h.others other differs),
    h'.memory.trans h.memory⟩

theorem AltersOnly.find? {id : FileId} {before after : FileSystem} (h : AltersOnly id before after)
    (location : Location) : after.find? location = before.find? location := by
  unfold FileSystem.find?
  rw [h.entries]

theorem altersOnly_edit (disk : FileSystem) (id : FileId) (change : Content → Content) :
    AltersOnly id disk (disk.edit id change) :=
  ⟨rfl, by simp [edit], fun _ differs => content_edit_of_ne differs change, rfl⟩

/-- A file holds a row of blocks whose payloads are at most `limit` long, and behind it perhaps the
header of one more. -/
structure Stores (disk : FileSystem) (id : FileId) (limit : Nat) (payloads : List Bytes)
    (torn : Option Bytes) : Prop where
  there : id < disk.contents.size
  content : disk.content id = row payloads ++ remnant torn
  fit : ∀ payload ∈ payloads, payload.length ≤ limit
  tornFits : ∀ payload ∈ torn, payload.length ≤ limit

theorem Stores.of_content {before after : FileSystem} {id : FileId} {limit : Nat}
    {payloads : List Bytes} {torn : Option Bytes} (h : before.Stores id limit payloads torn)
    (size : before.contents.size ≤ after.contents.size)
    (same : after.content id = before.content id) : after.Stores id limit payloads torn :=
  ⟨Nat.lt_of_lt_of_le h.there size, same.trans h.content, h.fit, h.tornFits⟩

/-- A remnant that looks like a block is one. -/
theorem Stores.legible {disk : FileSystem} {id : FileId} {limit : Nat} {payloads : List Bytes}
    {torn : Option Bytes} (h : disk.Stores id limit payloads torn) (empty : torn = some []) :
    disk.Stores id limit (legible payloads torn) none := by
  subst empty
  refine ⟨h.there, ?_, ?_, by simp⟩
  · rw [h.content, row_remnant_empty]
    simp [remnant]
  · intro payload member
    rcases List.mem_append.1 member with member | member
    · exact h.fit payload member
    · simp [List.mem_singleton.1 member]

end FileSystem

namespace OpenFile

theorem target_of_writable? {file : OpenFile} {id : FileId} (h : file.writable? = some id) :
    file.target = .file id := by
  unfold writable? at h
  split at h
  next target =>
    split at h
    next => cases h; exact target
    next => cases h
  next => cases h

theorem length_of_writable? {file : OpenFile} {id : FileId} (h : file.writable? = some id)
    (disk : FileSystem) : file.length disk = (disk.content id).length := by
  unfold length
  rw [target_of_writable? h]
  simp

end OpenFile

namespace BlockFile

open FileSystem OpenFile

variable {blocks : BlockFile} {disk : FileSystem} {id : FileId} {payloads : List Bytes}
  {torn : Option Bytes} {kept : Bytes}

/-! ## The writes of an append -/

theorem setLength_eq {file : OpenFile} (writes : file.writable? = some id) (length : Nat) :
    file.setLength disk length =
      if length > largestOffset then
        (.error (.ioAt file.path .invalidInput s!"Failed to set length {length}"), disk)
      else (.ok (), disk.edit id (·.resize length)) := by
  unfold setLength
  rw [writes]

theorem append_eq {file : OpenFile} (writes : file.writable? = some id) (bytes : Bytes) :
    file.append disk bytes =
      if (disk.content id).length + bytes.length > largestOffset then
        (.error (.ioAt file.path .invalidInput "Append failed"), disk)
      else (.ok (disk.content id).length, disk.edit id (·.append bytes)) := by
  unfold OpenFile.append
  rw [writes]
  simp [Except.map]

theorem resize_of_le {bytes : Bytes} {length : Nat} (fits : length ≤ bytes.length) :
    bytes.resize length = bytes.take length := by
  have full : length - (bytes.take length).length = 0 := by
    rw [List.length_take]
    omega
  rw [Bytes.resize, full]
  exact List.append_nil _

theorem resize_row (payloads : List Bytes) (torn : Option Bytes) :
    Bytes.resize (row payloads ++ remnant torn) (row payloads).length = row payloads := by
  simp [Bytes.resize]

/-! ## The bytes that an append keeps -/

/-- The file holds the bytes `kept`, and behind them at most what a broken append left; the open
file knows where that starts. -/
structure Keeps (blocks : BlockFile) (disk : FileSystem) (id : FileId) (kept : Bytes) : Prop where
  writes : blocks.file.writable? = some id
  there : id < disk.contents.size
  front : kept <+: disk.content id
  whole : blocks.tornTail = none → disk.content id = kept
  marked : ∀ offset, blocks.tornTail = some offset → offset = kept.length

/-- How an append to such a file can end. -/
inductive Attempt (blocks : BlockFile) (payload : Bytes) (power : PowerSwitch) (disk : FileSystem)
    (id : FileId) (kept : Bytes) : Appended → Prop where
  /-- The payload is too long, and nothing is done. -/
  | oversized (long : blocks.limit < payload.length) :
      Attempt blocks payload power disk id kept
        { result := .error (.oversizedBlock payload.length blocks.limit), blocks, power, disk }
  /-- The power is gone before the header, and nothing is written. -/
  | dark (fits : payload.length ≤ blocks.limit) (off : power.isOn = false) :
      Attempt blocks payload power disk id kept
        { result := .error (.powerLoss (some blocks.path)), blocks, power := power.afterCheck,
          disk }
  /-- What is behind the kept bytes starts beyond the largest offset and cannot be cut off. -/
  | uncut {fault : Fault} {power' : PowerSwitch} (fits : payload.length ≤ blocks.limit)
      (on : power.isOn = true) (far : largestOffset < kept.length) :
      Attempt blocks payload power disk id kept
        { result := .error fault, blocks, power := power', disk }
  /-- The block has no room below the largest offset, and at most its header is written. -/
  | crowded {fault : Fault} {power' : PowerSwitch} {disk' : FileSystem} {left : Option Bytes}
      (fits : payload.length ≤ blocks.limit) (on : power.isOn = true)
      (room : largestOffset < kept.length + headerLength + payload.length)
      (content : disk'.content id = kept ++ remnant left)
      (half : left = none ∨ left = some payload ∧ payload ≠ [])
      (alters : AltersOnly id disk disk') :
      Attempt blocks payload power disk id kept
        { result := .error fault, blocks := { blocks with tornTail := some kept.length },
          power := power', disk := disk' }
  /-- The power goes between the header and the payload. -/
  | broken {disk' : FileSystem} (fits : payload.length ≤ blocks.limit) (on : power.isOn = true)
      (off : power.afterCheck.isOn = false)
      (content : disk'.content id = kept ++ remnant (some payload))
      (alters : AltersOnly id disk disk') :
      Attempt blocks payload power disk id kept
        { result := .error (.powerLoss (some blocks.path)),
          blocks := { blocks with tornTail := some kept.length },
          power := power.afterCheck.afterCheck, disk := disk' }
  /-- The block is written. -/
  | complete {disk' : FileSystem} (fits : payload.length ≤ blocks.limit) (on : power.isOn = true)
      (still : power.afterCheck.isOn = true)
      (content : disk'.content id = kept ++ blockOf payload) (alters : AltersOnly id disk disk') :
      Attempt blocks payload power disk id kept
        { result := .ok kept.length, blocks := { blocks with tornTail := none },
          power := power.afterCheck.afterCheck, disk := disk' }

/-- Cutting off what a broken append left comes back to the kept bytes, and it fails only where
nothing could be appended anyway. -/
theorem Keeps.cutTornTail (h : blocks.Keeps disk id kept) :
    (∃ fault, blocks.cutTornTail disk = (.error fault, disk) ∧ largestOffset < kept.length) ∨
      ∃ after, blocks.cutTornTail disk = (.ok (), after) ∧ AltersOnly id disk after ∧
        after.content id = kept := by
  unfold BlockFile.cutTornTail
  cases tail : blocks.tornTail with
  | none => exact .inr ⟨disk, rfl, .refl id disk, h.whole tail⟩
  | some offset =>
    obtain rfl := h.marked offset tail
    obtain ⟨rest, same⟩ := h.front
    simp only [setLength_eq h.writes]
    split
    next far => exact .inl ⟨_, rfl, far⟩
    next =>
      refine .inr ⟨_, rfl, altersOnly_edit disk id _, ?_⟩
      rw [content_edit h.there, Content.toBytes_resize]
      show Bytes.resize (disk.content id) kept.length = kept
      rw [← same, resize_of_le (by simp), List.take_left]

/-- **Every append ends in one of these ways**, whatever bytes the file keeps. -/
theorem Keeps.attempt (h : blocks.Keeps disk id kept) (payload : Bytes) (power : PowerSwitch) :
    Attempt blocks payload power disk id kept (blocks.append payload power disk) := by
  unfold BlockFile.append appendHeader
  rcases Nat.lt_or_ge blocks.limit payload.length with long | fits
  · have refused : stamp blocks.limit payload =
        .error (.oversizedBlock payload.length blocks.limit) := if_neg (by omega)
    rw [refused]
    exact .oversized long
  -- The power is looked at twice, before the header and before the payload.
  rw [stamp_of_le fits]
  cases on : power.isOn with
  | false =>
    simp only [PowerSwitch.check, on]
    exact .dark fits on
  | true =>
    simp only [PowerSwitch.check, on]
    rcases h.cutTornTail with ⟨fault, cut, far⟩ | ⟨bare, cut, toBare, bareContent⟩
    · simp only [cut]
      exact .uncut fits on far
    have marks : blocks.length bare = kept.length := by
      rw [← bareContent]
      exact length_of_writable? h.writes bare
    have there : id < bare.contents.size := toBare.size ▸ h.there
    simp only [cut, marks, append_eq h.writes, bareContent, take_blockOf,
      Header.length_encode_ofPayload, Bool.not_true, Bool.false_eq_true, if_false]
    -- From here on the mark is set, so a remnant does no harm.
    by_cases noHeader : kept.length + headerLength > largestOffset
    · simp only [if_pos noHeader]
      exact .crowded fits on (by omega) (by simpa [remnant] using bareContent) (.inl rfl) toBare
    simp only [if_neg noHeader]
    have begunContent : (bare.edit id (·.append (Header.ofPayload payload).encode)).content id =
        kept ++ remnant (some payload) := by
      rw [content_edit there, Content.toBytes_append]
      exact congrArg (· ++ _) bareContent
    have toBegun := toBare.trans
      (altersOnly_edit bare id (·.append (Header.ofPayload payload).encode))
    unfold appendPayload
    cases still : power.afterCheck.isOn with
    | false =>
      simp only [PowerSwitch.check, still]
      exact .broken fits on still begunContent toBegun
    | true =>
      have begunLength : ((bare.edit id (·.append (Header.ofPayload payload).encode)).content
          id).length = kept.length + headerLength := by
        rw [begunContent, List.length_append, remnant, Header.length_encode_ofPayload]
      simp only [PowerSwitch.check, still, append_eq h.writes, begunLength, force_eq, Bool.not_true,
        Bool.false_eq_true, if_false]
      by_cases noPayload : kept.length + headerLength + payload.length > largestOffset
      · simp only [if_pos noPayload]
        refine .crowded fits on noPayload begunContent (.inr ⟨rfl, ?_⟩) toBegun
        rintro rfl
        exact noHeader noPayload
      simp only [if_neg noPayload]
      refine .complete fits on still ?_ (toBegun.trans (altersOnly_edit _ id (·.append payload)))
      rw [content_edit (toBegun.size ▸ h.there), Content.toBytes_append, blockOf,
        ← List.append_assoc]
      exact congrArg (· ++ payload) begunContent

/-! ## Intact files -/

/-- The file holds a row of blocks, and the open file knows where a remnant behind it starts. -/
structure Intact (blocks : BlockFile) (disk : FileSystem) (id : FileId) (payloads : List Bytes)
    (torn : Option Bytes) : Prop where
  bounded : blocks.limit ≤ Config.largestBlockLimit
  writes : blocks.file.writable? = some id
  stores : disk.Stores id blocks.limit payloads torn
  whole : blocks.tornTail = none → torn = none
  marked : ∀ offset, blocks.tornTail = some offset → offset = (row payloads).length

/-- An intact file keeps its row. -/
theorem Intact.keeps (h : blocks.Intact disk id payloads torn) :
    blocks.Keeps disk id (row payloads) := by
  refine ⟨h.writes, h.stores.there, ?_, ?_, h.marked⟩
  · rw [h.stores.content]
    exact List.prefix_append _ _
  · intro unmarked
    rw [h.stores.content, h.whole unmarked]
    simp [remnant]

theorem Intact.of_content {after : FileSystem} (h : blocks.Intact disk id payloads torn)
    (size : disk.contents.size ≤ after.contents.size)
    (same : after.content id = disk.content id) : blocks.Intact after id payloads torn :=
  ⟨h.bounded, h.writes, h.stores.of_content size same, h.whole, h.marked⟩

/-- How an append to an intact file can end. -/
inductive Course (blocks : BlockFile) (payload : Bytes) (power : PowerSwitch) (disk : FileSystem)
    (id : FileId) (payloads : List Bytes) (torn : Option Bytes) : Appended → Prop where
  /-- The payload is too long, and nothing is done. -/
  | oversized (long : blocks.limit < payload.length) :
      Course blocks payload power disk id payloads torn
        { result := .error (.oversizedBlock payload.length blocks.limit), blocks, power, disk }
  /-- The power is gone before the header, and nothing is written. -/
  | dark (fits : payload.length ≤ blocks.limit) (off : power.isOn = false) :
      Course blocks payload power disk id payloads torn
        { result := .error (.powerLoss (some blocks.path)), blocks, power := power.afterCheck,
          disk }
  /-- The file would outgrow the largest offset. -/
  | crowded {fault : Fault} {blocks' : BlockFile} {power' : PowerSwitch} {disk' : FileSystem}
      {torn' : Option Bytes} (fits : payload.length ≤ blocks.limit) (on : power.isOn = true)
      (room : largestOffset < (row payloads).length + headerLength + payload.length)
      (intact : blocks'.Intact disk' id payloads torn') (alters : AltersOnly id disk disk')
      (same : blocks'.limit = blocks.limit ∧ blocks'.file = blocks.file)
      (plain : torn' = torn ∨ torn' ≠ some []) :
      Course blocks payload power disk id payloads torn
        { result := .error fault, blocks := blocks', power := power', disk := disk' }
  /-- The power goes between the header and the payload. -/
  | broken {blocks' : BlockFile} {disk' : FileSystem} (fits : payload.length ≤ blocks.limit)
      (on : power.isOn = true) (off : power.afterCheck.isOn = false)
      (intact : blocks'.Intact disk' id payloads (some payload)) (alters : AltersOnly id disk disk')
      (same : blocks'.limit = blocks.limit ∧ blocks'.file = blocks.file) :
      Course blocks payload power disk id payloads torn
        { result := .error (.powerLoss (some blocks.path)), blocks := blocks',
          power := power.afterCheck.afterCheck, disk := disk' }
  /-- The block is written. -/
  | complete {blocks' : BlockFile} {disk' : FileSystem} (fits : payload.length ≤ blocks.limit)
      (on : power.isOn = true) (still : power.afterCheck.isOn = true)
      (intact : blocks'.Intact disk' id (payloads ++ [payload]) none)
      (alters : AltersOnly id disk disk')
      (same : blocks'.limit = blocks.limit ∧ blocks'.file = blocks.file) :
      Course blocks payload power disk id payloads torn
        { result := .ok (row payloads).length, blocks := blocks',
          power := power.afterCheck.afterCheck, disk := disk' }

/-- An append that goes on marks where its block starts, so whatever it leaves there is intact. -/
theorem Intact.marking (h : blocks.Intact disk id payloads torn) {after : FileSystem}
    (alters : AltersOnly id disk after) (left : Option Bytes)
    (content : after.content id = row payloads ++ remnant left)
    (fits : ∀ payload ∈ left, payload.length ≤ blocks.limit) :
    ({ blocks with tornTail := some (row payloads).length } : BlockFile).Intact after id payloads
      left :=
  ⟨h.bounded, h.writes, ⟨alters.size ▸ h.stores.there, content, h.stores.fit, fits⟩, by simp,
    fun _ same => (Option.some.inj same).symm⟩

/-- An append that comes to its end leaves one more block. -/
theorem Intact.extended (h : blocks.Intact disk id payloads torn) {after : FileSystem}
    (alters : AltersOnly id disk after) {payload : Bytes} (fits : payload.length ≤ blocks.limit)
    (content : after.content id = row payloads ++ blockOf payload) :
    ({ blocks with tornTail := none } : BlockFile).Intact after id (payloads ++ [payload])
      none := by
  refine ⟨h.bounded, h.writes, ⟨alters.size ▸ h.stores.there, ?_, ?_, by simp⟩, fun _ => rfl, by simp⟩
  · simpa [remnant] using content
  · intro other member
    rcases List.mem_append.1 member with member | member
    · exact h.stores.fit other member
    · rw [List.mem_singleton.1 member]
      exact fits

/-- **Every append to an intact file takes one of the courses.** -/
theorem append_course (h : blocks.Intact disk id payloads torn) (payload : Bytes)
    (power : PowerSwitch) :
    Course blocks payload power disk id payloads torn (blocks.append payload power disk) := by
  have attempt := h.keeps.attempt payload power
  generalize blocks.append payload power disk = appended at attempt
  cases attempt with
  | oversized long => exact .oversized long
  | dark fits off => exact .dark fits off
  | uncut fits on far =>
    exact .crowded fits on (by omega) h (.refl id disk) ⟨rfl, rfl⟩ (.inl rfl)
  | @crowded fault power' disk' left fits on room content half alters =>
    refine .crowded fits on room (h.marking alters left content ?_) alters ⟨rfl, rfl⟩ (.inr ?_)
    · rcases half with rfl | ⟨rfl, -⟩
      · simp
      · simpa using fits
    · rcases half with rfl | ⟨rfl, nonempty⟩
      · simp
      · simpa using nonempty
  | broken fits on off content alters =>
    exact .broken fits on off (h.marking alters (some payload) content (by simpa using fits)) alters
      ⟨rfl, rfl⟩
  | complete fits on still content alters =>
    exact .complete fits on still (h.extended alters fits content) alters ⟨rfl, rfl⟩

/-! ## What every course comes to -/

namespace Course

variable {payload : Bytes} {power : PowerSwitch} {appended : Appended}

/-- An append leaves every file but its own alone and stays the same open file. -/
theorem alters (h : Course blocks payload power disk id payloads torn appended) :
    AltersOnly id disk appended.disk ∧ appended.blocks.limit = blocks.limit := by
  cases h with
  | oversized => exact ⟨.refl id disk, rfl⟩
  | dark => exact ⟨.refl id disk, rfl⟩
  | crowded _ _ _ _ alters same => exact ⟨alters, same.1⟩
  | broken _ _ _ _ alters same => exact ⟨alters, same.1⟩
  | complete _ _ _ _ alters same => exact ⟨alters, same.1⟩

/-- An append adds its block or fails.  The remnant of a failure is a block by itself only if one
was there before, or if the power went before an empty payload was written. -/
theorem outcome (h : Course blocks payload power disk id payloads torn appended)
    (intact : blocks.Intact disk id payloads torn) :
    (∃ offset, appended.result = .ok offset ∧
        appended.blocks.Intact appended.disk id (payloads ++ [payload]) none) ∨
      ∃ fault torn', appended.result = .error fault ∧
        appended.blocks.Intact appended.disk id payloads torn' ∧
        (torn' = torn ∨ torn' ≠ some [] ∨
          torn' = some payload ∧ power.isOn = true ∧ fault = .powerLoss (some blocks.path)) := by
  cases h with
  | oversized => exact .inr ⟨_, torn, rfl, intact, .inl rfl⟩
  | dark => exact .inr ⟨_, torn, rfl, intact, .inl rfl⟩
  | crowded _ _ _ intact' _ _ plain =>
    refine .inr ⟨_, _, rfl, intact', ?_⟩
    rcases plain with same | plain
    · exact .inl same
    · exact .inr (.inl plain)
  | broken _ on _ intact' => exact .inr ⟨_, _, rfl, intact', .inr (.inr ⟨rfl, on, rfl⟩)⟩
  | complete _ _ _ intact' => exact .inl ⟨_, rfl, intact'⟩

/-- A block that was written starts where the row ended. -/
theorem offset_eq (h : Course blocks payload power disk id payloads torn appended) {offset : Nat}
    (written : appended.result = .ok offset) : offset = (row payloads).length := by
  cases h with
  | oversized => cases written
  | dark => cases written
  | crowded => cases written
  | broken => cases written
  | complete => exact (Except.ok.inj written).symm

end Course

end BlockFile

end DurableStore
