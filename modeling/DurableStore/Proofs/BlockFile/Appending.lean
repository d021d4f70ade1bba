import DurableStore.Proofs.BlockFile.Consultation

/-!
Appending to a file that has been recovered, whatever is in it.

A recovery cuts off what breaks off and keeps all other bytes, damaged ones too, and blocks are
appended right behind them.  The open file `Keeps` these bytes, and what a broken append leaves
behind them is cut off before the next block.

* `Keeps.append` — an append leaves the bytes that are kept or adds its block to them;
* `Appends.keeps` — so blocks that were appended one after another, with failures between them,
  stand behind the kept bytes in a row;
* `scan_row_behind` — the kept bytes are cut into the same pieces when a row stands behind them;
* `scan_after_appends` — so a scan finds what the recovery found, and then what was appended, if the
  headers can announce it;
* `scan_after_appends_unannounced` — under a limit that no configuration may set, more can be
  appended than a header can announce, and no scan finds it.
-/

namespace DurableStore

/-! ## A row at the end of a trail -/

namespace Trail

variable {limit offset : Nat} {tail : Bytes} {whole : List Piece}

/-- One trail goes on where the other ends. -/
theorem append {kept kept' : Bytes} {whole' : List Piece}
    (h : Trail limit (kept' ++ tail) offset kept whole)
    (h' : Trail limit tail (offset + kept.length) kept' whole') :
    Trail limit tail offset (kept ++ kept') (whole ++ whole') := by
  induction h with
  | here offset => exact h'
  | @garbage offset stray kept whole nonempty long bars quiet resumes later ih =>
    rw [List.length_append, ← Nat.add_assoc] at h'
    rw [← List.append_assoc kept] at long bars resumes
    rw [List.append_assoc, List.cons_append]
    exact .garbage nonempty long bars quiet resumes (ih h')
  | @block offset header head payload kept whole read admissible announced later ih =>
    have sixteen : head.length = headerLength := Header.length_of_parse? read
    have total : offset + (head ++ (payload ++ kept)).length =
        offset + headerLength + payload.length + kept.length := by
      simp only [List.length_append]
      omega
    rw [total] at h'
    rw [List.append_assoc, List.append_assoc, List.cons_append]
    exact .block read admissible announced (ih h')

/-- A scan goes along a row block by block, whatever the limit is, if the headers can announce the
payloads. -/
theorem ofRow (limit offset : Nat) (tail : Bytes) {payloads : List Bytes}
    (fit : ∀ payload ∈ payloads, payload.length ≤ limit)
    (short : ∀ payload ∈ payloads, payload.length ≤ Config.largestBlockLimit) :
    Trail limit tail offset (row payloads) ((placed offset payloads).map Found.piece) := by
  induction payloads generalizing offset with
  | nil => exact .here offset
  | cons payload later ih =>
    have read := Header.parse?_encode (.ofPayload payload) [] rfl
    rw [List.append_nil] at read
    have small := short payload List.mem_cons_self
    have rest := ih (offset + headerLength + payload.length)
      (fun other member => fit other (List.mem_cons_of_mem _ member))
      (fun other member => short other (List.mem_cons_of_mem _ member))
    rw [row_cons, blockOf, List.append_assoc]
    exact .block read (Header.admissible_ofPayload_of_le small (fit payload List.mem_cons_self))
      (Header.length_ofPayload (Nat.le_refl _) small) rest

end Trail

/-- **With a row behind it**, what a scan called valid is scanned alike: a magic that stood half in
garbage and half in the row would overlap the one that the row starts with. -/
theorem scan_row_behind {limit : Nat} {policy : Policy} (stateless : policy.Stateless)
    {path : Path} {content : Bytes} {asked asked' : List Mismatch} {recovery : Recovery}
    (scanned : scan limit policy path content asked = (.ok recovery, asked'))
    {payloads : List Bytes} (some_payload : payloads ≠ [])
    (fit : ∀ payload ∈ payloads, payload.length ≤ limit)
    (short : ∀ payload ∈ payloads, payload.length ≤ Config.largestBlockLimit)
    (told : List Mismatch) :
    ∃ again told', scan limit policy path (content.take recovery.validLength ++ row payloads) told =
        (.ok again, told') ∧
      again.found = recovery.found ++
        placed (content.take recovery.validLength).length payloads ∧
      again.skipped = recovery.skipped ∧ again.tornAt = none := by
  obtain ⟨kept, tail, whole, tally, rfl, trail, -, judged, rfl⟩ := scan_trail scanned
  have valid : (kept ++ tail).take (Recovery.ofTrail kept tail tally).validLength = kept :=
    List.take_left
  obtain ⟨payload, later, rfl⟩ := List.exists_cons_of_ne_nil some_payload
  have front : magic <+: row (payload :: later) := by
    rw [row_cons, blockOf, Header.encode, Header.ofPayload]
    simp only [List.append_assoc]
    exact List.prefix_append magic _
  have long : headerLength ≤ (row (payload :: later)).length := by
    rw [row_cons, List.length_append, length_blockOf]
    omega
  -- The trail that the recovery went along, and then the blocks of the row.
  have row_trail := Trail.ofRow limit (0 + kept.length) [] fit short
  have onto := trail.onto front long
  have joined : Trail limit [] 0 (kept ++ row (payload :: later))
      (whole ++ (placed (0 + kept.length) (payload :: later)).map Found.piece) := by
    refine Trail.append ?_ row_trail
    rwa [List.append_nil]
  have scanned' := joined.scan (.inl rfl) policy path told
  have same := judge_stateless stateless path whole told asked
  rw [judged] at same
  rw [onto.judge_append, List.append_nil, Nat.zero_add] at scanned'
  rw [valid]
  -- A stateless policy judges the pieces of the trail as it did before.
  rcases front_judged : judge policy path whole told with ⟨fault | tally', told'⟩
  · rw [front_judged] at same
    cases same
  · rw [front_judged] at same scanned'
    cases same
    have blocks := judge_append policy path (placed kept.length (payload :: later)) [] told'
    rw [List.append_nil] at blocks
    simp only [blocks] at scanned'
    refine ⟨_, _, scanned', ?_, rfl, rfl⟩
    show tally.found ++ (placed kept.length (payload :: later) ++ []) = _
    rw [List.append_nil]
    rfl

namespace BlockFile

open FileSystem OpenFile

variable {blocks : BlockFile} {disk : FileSystem} {id : FileId} {kept : Bytes}

/-! ## One append -/

/-- What an append to a file that keeps certain bytes comes to. -/
inductive Adds (blocks : BlockFile) (id : FileId) (kept payload : Bytes) : Appended → Prop where
  /-- It fails, and the same bytes are kept. -/
  | refused {fault : Fault} {blocks' : BlockFile} {power' : PowerSwitch} {disk' : FileSystem}
      (keeps : blocks'.Keeps disk' id kept)
      (same : blocks'.file = blocks.file ∧ blocks'.limit = blocks.limit) :
      Adds blocks id kept payload
        { result := .error fault, blocks := blocks', power := power', disk := disk' }
  /-- The block is written behind them. -/
  | written {blocks' : BlockFile} {power' : PowerSwitch} {disk' : FileSystem}
      (fits : payload.length ≤ blocks.limit)
      (keeps : blocks'.Keeps disk' id (kept ++ blockOf payload))
      (clean : blocks'.tornTail = none)
      (same : blocks'.file = blocks.file ∧ blocks'.limit = blocks.limit) :
      Adds blocks id kept payload
        { result := .ok kept.length, blocks := blocks', power := power', disk := disk' }

/-- An append that goes on marks where its block starts. -/
theorem Keeps.marking (h : blocks.Keeps disk id kept) {after : FileSystem}
    (alters : AltersOnly id disk after) (front : kept <+: after.content id) :
    ({ blocks with tornTail := some kept.length } : BlockFile).Keeps after id kept :=
  ⟨h.writes, alters.size ▸ h.there, front, by simp, fun _ same => (Option.some.inj same).symm⟩

/-- **An append leaves the bytes that are kept**, or adds its block to them. -/
theorem Keeps.append (h : blocks.Keeps disk id kept) (payload : Bytes) (power : PowerSwitch) :
    Adds blocks id kept payload (blocks.append payload power disk) := by
  have attempt := h.attempt payload power
  generalize blocks.append payload power disk = appended at attempt
  cases attempt with
  | oversized => exact .refused h ⟨rfl, rfl⟩
  | dark => exact .refused h ⟨rfl, rfl⟩
  | uncut => exact .refused h ⟨rfl, rfl⟩
  | crowded _ _ _ content _ alters =>
    exact .refused (h.marking alters (content ▸ List.prefix_append _ _)) ⟨rfl, rfl⟩
  | broken _ _ _ content alters =>
    exact .refused (h.marking alters (content ▸ List.prefix_append _ _)) ⟨rfl, rfl⟩
  | complete fits _ _ content alters =>
    exact .written fits ⟨h.writes, alters.size ▸ h.there, content ▸ List.prefix_refl _,
      fun _ => content, by simp⟩ rfl ⟨rfl, rfl⟩

/-! ## One append after another -/

/-- Blocks are appended one after another, and attempts that fail come before one that does not.
The power is as it pleases at each of them. -/
inductive Appends : BlockFile → FileSystem → List Found → BlockFile → FileSystem → Prop where
  /-- No block was appended. -/
  | done (blocks : BlockFile) (disk : FileSystem) : Appends blocks disk [] blocks disk
  /-- A block is written at the offset that is returned. -/
  | written {blocks blocks' : BlockFile} {disk disk' : FileSystem} {payload : Bytes}
      {power : PowerSwitch} {offset : Nat} {later : List Found}
      (ok : (blocks.append payload power disk).result = .ok offset)
      (rest : Appends (blocks.append payload power disk).blocks
        (blocks.append payload power disk).disk later blocks' disk') :
      Appends blocks disk (⟨offset, payload⟩ :: later) blocks' disk'
  /-- An attempt fails. -/
  | refused {blocks blocks' : BlockFile} {disk disk' : FileSystem} {payload : Bytes}
      {power : PowerSwitch} {fault : Fault} {later : List Found}
      (failed : (blocks.append payload power disk).result = .error fault) (more : later ≠ [])
      (rest : Appends (blocks.append payload power disk).blocks
        (blocks.append payload power disk).disk later blocks' disk') :
      Appends blocks disk later blocks' disk'

/-- What was appended stands in a row behind the bytes that were there. -/
structure Extends (blocks : BlockFile) (id : FileId) (kept : Bytes) (written : List Found)
    (blocks' : BlockFile) (disk' : FileSystem) : Prop where
  keeps : blocks'.Keeps disk' id (kept ++ row (written.map Found.payload))
  placed : written = placed kept.length (written.map Found.payload)
  fit : ∀ found ∈ written, found.payload.length ≤ blocks.limit
  same : blocks'.file = blocks.file ∧ blocks'.limit = blocks.limit

/-- **Blocks appended one after another** stand in a row, and nothing is torn behind them. -/
theorem Appends.keeps {blocks' : BlockFile} {disk' : FileSystem} {written : List Found}
    (appends : Appends blocks disk written blocks' disk') (h : blocks.Keeps disk id kept) :
    Extends blocks id kept written blocks' disk' ∧
      (written ≠ [] ∨ blocks.tornTail = none → blocks'.tornTail = none) := by
  induction appends generalizing kept with
  | done blocks disk =>
    refine ⟨⟨?_, rfl, by simp, rfl, rfl⟩, ?_⟩
    · rwa [List.map_nil, row_nil, List.append_nil]
    · rintro (nonempty | clean)
      · exact absurd rfl nonempty
      · exact clean
  | @written blocks blocks' disk disk' payload power offset later ok rest ih =>
    have step := h.append payload power
    generalize blocks.append payload power disk = out at ok rest ih step
    cases step with
    | refused => cases ok
    | written fits keeps clean same =>
      cases ok
      obtain ⟨extended, whole⟩ := ih keeps
      refine ⟨⟨?_, ?_, ?_, ?_⟩, fun _ => whole (.inr clean)⟩
      · rw [List.map_cons, row_cons, ← List.append_assoc]
        exact extended.keeps
      · have placed := extended.placed
        rw [List.length_append, length_blockOf, ← Nat.add_assoc] at placed
        rw [List.map_cons, DurableStore.placed, ← placed]
      · intro found member
        rcases List.mem_cons.1 member with rfl | member
        · exact fits
        · exact same.2 ▸ extended.fit found member
      · exact ⟨extended.same.1.trans same.1, extended.same.2.trans same.2⟩
  | @refused blocks blocks' disk disk' payload power fault later failed more rest ih =>
    have step := h.append payload power
    generalize blocks.append payload power disk = out at failed rest ih step
    cases step with
    | written => cases failed
    | refused keeps same =>
      obtain ⟨extended, whole⟩ := ih keeps
      refine ⟨⟨extended.keeps, extended.placed, ?_, ?_⟩, fun _ => whole (.inl more)⟩
      · intro found member
        exact same.2 ▸ extended.fit found member
      · exact ⟨extended.same.1.trans same.1, extended.same.2.trans same.2⟩

/-! ## Scanning what was appended -/

/-- A recovery that succeeds keeps the bytes that it calls valid. -/
theorem keeps_of_recover {policy : Policy} {asked asked' : List Mismatch} {recovery : Recovery}
    {blocks' : BlockFile} {after : FileSystem} (writes : blocks.file.writable? = some id)
    (there : id < disk.contents.size)
    (recovered : blocks.recover policy asked disk =
      { result := .ok recovery, asked := asked', blocks := blocks', disk := after }) :
    blocks'.Keeps after id ((disk.content id).take recovery.validLength) := by
  have still := there_of_recover (target_of_writable? writes) there recovered
  obtain ⟨id', target, -, -, rfl, kept, -⟩ := recover_eq_ok recovered
  cases (target_of_writable? writes).symm.trans target
  exact ⟨writes, still, kept ▸ List.prefix_refl _, fun _ => kept, by simp⟩

/-- **Whatever is appended after a recovery is found**, behind what the recovery found, and nothing
else changes: no magic stands half in front of the first new block, so damaged bytes in front of it
are passed over as before.  The file has to fit into memory, and no header can announce a payload
that is longer than its length field can say; a limit that a configuration may set never lets one
through. -/
theorem scan_after_appends {policy : Policy} (stateless : policy.Stateless)
    {asked asked' : List Mismatch} {recovery : Recovery} {recovered appended : BlockFile}
    {after final : FileSystem} (writes : blocks.file.writable? = some id)
    (there : id < disk.contents.size)
    (recovers : blocks.recover policy asked disk =
      { result := .ok recovery, asked := asked', blocks := recovered, disk := after })
    {written : List Found} (appends : Appends recovered after written appended final)
    (nonempty : written ≠ [])
    (short : ∀ found ∈ written, found.payload.length ≤ Config.largestBlockLimit)
    (holds : final.length id ≤ final.memory.bytes) (told : List Mismatch) :
    ∃ again told', appended.scan policy told final = (.ok again, told') ∧
      again.found = recovery.found ++ written ∧ again.tornAt = none ∧
      again.skipped = recovery.skipped := by
  have keeps := keeps_of_recover writes there recovers
  obtain ⟨extended, whole⟩ := appends.keeps keeps
  obtain ⟨id', target, -, scanned, rfl, -, -⟩ := recover_eq_ok recovers
  cases (target_of_writable? writes).symm.trans target
  have payloads : written.map Found.payload ≠ [] := by
    intro empty
    exact nonempty (List.map_eq_nil_iff.1 empty)
  obtain ⟨again, told', scanned', found, skipped, complete⟩ :=
    scan_row_behind stateless scanned payloads (List.forall_mem_map.2 extended.fit)
      (List.forall_mem_map.2 short) told
  have content := extended.keeps.whole (whole (.inl nonempty))
  have read : appended.scan policy told final = (.ok again, told') := by
    refine scan_of_target (target_of_writable? extended.keeps.writes) holds ?_
    rw [content, extended.same.2, path, extended.same.1]
    exact scanned'
  refine ⟨again, told', read, ?_, complete, skipped⟩
  rw [found, ← extended.placed]

/-- One stray byte in front of a torn block, after a recovery. -/
def strayRecovered : Recovered :=
  (fresh ⟨["blocks"]⟩ 1024 0).recover .fail [] (strayDisk [0xEE])

/-- An append to it that loses the power in front of its payload. -/
def strayBroken : Appended :=
  strayRecovered.blocks.append [3] (.armed 2) strayRecovered.disk

/-- The same append with the power back. -/
def strayRetried : Appended :=
  strayBroken.blocks.append [3] .disarmed strayBroken.disk

/-- Two blocks are found behind the stray byte, which is too short for garbage on its own. -/
theorem scan_after_appends_stray :
    ∃ recovery again told, strayRecovered.result = .ok recovery ∧ recovery.validLength = 18 ∧
      Appends strayRecovered.blocks strayRecovered.disk [⟨18, [3]⟩] strayRetried.blocks
        strayRetried.disk ∧
      strayRetried.blocks.scan .fail [] strayRetried.disk = (.ok again, told) ∧
      again.found = [⟨0, [1]⟩, ⟨18, [3]⟩] ∧ again.tornAt = none ∧ again.skipped = 1 := by
  have recovered : strayRecovered.result =
      .ok { found := [⟨0, [1]⟩], skipped := 1, tornAt := some 18, validLength := 18 } :=
    toOption_eq_some.1 (by decide +kernel)
  have retried : strayRetried.result = .ok 18 := toOption_eq_some.1 (by decide +kernel)
  obtain ⟨fault, broken⟩ : ∃ fault, strayBroken.result = .error fault := by
    have none_left : strayBroken.result.toOption = none := by decide +kernel
    cases outcome : strayBroken.result with
    | error fault => exact ⟨fault, rfl⟩
    | ok offset => rw [outcome] at none_left; cases none_left
  have appends : Appends strayRecovered.blocks strayRecovered.disk [⟨18, [3]⟩]
      strayRetried.blocks strayRetried.disk :=
    .refused broken (List.cons_ne_nil _ _) (.written retried (.done _ _))
  have recovers : (fresh ⟨["blocks"]⟩ 1024 0).recover .fail [] (strayDisk [0xEE]) =
      { result := .ok { found := [⟨0, [1]⟩], skipped := 1, tornAt := some 18, validLength := 18 }
        asked := strayRecovered.asked, blocks := strayRecovered.blocks,
        disk := strayRecovered.disk } := by
    rw [← recovered]
    rfl
  have writes : (fresh ⟨["blocks"]⟩ 1024 0).file.writable? = some 0 := rfl
  have there : 0 < (strayDisk [0xEE]).contents.size := Nat.one_pos
  obtain ⟨again, told, scanned, found, complete, skipped⟩ :=
    scan_after_appends Policy.stateless_fail writes there recovers appends
      (List.cons_ne_nil _ _) (by decide) (by decide +kernel) []
  exact ⟨_, again, told, recovered, rfl, appends, scanned, found, complete, skipped⟩

/-! ## What a header cannot announce -/

theorem keeps_fresh (path : Path) (limit : Nat) (content : Bytes) :
    (fresh path limit 0).Keeps (.ofFile content) 0 content := by
  have same := content_ofFile content
  exact ⟨rfl, Nat.one_pos, ⟨[], by rw [List.append_nil, same]⟩, fun _ => same, nofun⟩

/-- A block that is longer than a header can announce is written and acknowledged if the limit lets
it through, and no scan of the file finds it. -/
theorem append_unannounced {payload : Bytes} (long : payload.length = 4294967296) :
    ∃ appended final,
      Appends (fresh ⟨["blocks"]⟩ 4294967296 0) (.ofFile []) [⟨0, payload⟩] appended final ∧
      final.content 0 = blockOf payload ∧ final.length 0 ≤ final.memory.bytes ∧
      ∀ policy told again told', appended.scan policy told final = (.ok again, told') →
        payload ∉ again.payloads := by
  have keeps := keeps_fresh ⟨["blocks"]⟩ 4294967296 []
  have attempt := keeps.attempt payload .disarmed
  generalize written :
    (fresh ⟨["blocks"]⟩ 4294967296 0).append payload .disarmed (.ofFile []) = out at attempt
  cases attempt with
  | oversized longer => exact absurd long (Nat.ne_of_gt longer)
  | dark _ off => cases off
  | uncut _ _ far => cases far
  | crowded _ _ room =>
    rw [long] at room
    cases Nat.not_lt_of_le (by decide) room
  | broken _ _ off => cases off
  | @complete final _ _ _ content alters =>
    have wrote : ((fresh ⟨["blocks"]⟩ 4294967296 0).append payload .disarmed
        (.ofFile [])).result = .ok 0 := by rw [written]; rfl
    have appends := Appends.written wrote (.done _ _)
    rw [written] at appends
    refine ⟨_, final, appends, content, ?_, ?_⟩
    · rw [← length_content, content, alters.memory, List.nil_append, length_blockOf, long]
      decide
    · intro policy told again told' scanned found
      obtain ⟨block, member, rfl⟩ := List.mem_map.1 found
      obtain ⟨id, -, -, scanned⟩ := scan_target scanned
      have short := ((scan_reports_sound scanned).genuine block member).short
      rw [long] at short
      cases Nat.not_lt_of_le short (by decide)

/-- So 2^32 zeros can be appended to a new file under a limit of 2^32, and no scan returns them: the
header announces that there is nothing behind it. -/
theorem scan_after_appends_unannounced :
    ∃ appended final,
      (fresh ⟨["blocks"]⟩ 4294967296 0).recover .fail [] (.ofFile []) =
        { result := .ok {}, asked := [], blocks := fresh ⟨["blocks"]⟩ 4294967296 0
          disk := .ofFile [] } ∧
      Appends (fresh ⟨["blocks"]⟩ 4294967296 0) (.ofFile []) [⟨0, List.replicate 4294967296 0⟩]
        appended final ∧
      final.content 0 = blockOf (List.replicate 4294967296 0) ∧
      final.length 0 ≤ final.memory.bytes ∧
      (Header.ofPayload (List.replicate 4294967296 0)).length = 0 ∧
      ∀ policy told again told', appended.scan policy told final = (.ok again, told') →
        again.payloads ≠ [] ++ [List.replicate 4294967296 0] := by
  have long := List.length_replicate (n := 4294967296) (a := (0 : UInt8))
  obtain ⟨appended, final, appends, content, holds, misses⟩ := append_unannounced long
  have nothing : (fresh ⟨["blocks"]⟩ 4294967296 0).scan .fail [] (.ofFile []) =
      (.ok {}, []) := by
    refine scan_of_target rfl (Nat.zero_le _) ?_
    rw [content_ofFile, DurableStore.scan, pieces_nil]
    rfl
  refine ⟨appended, final, recover_of_whole nothing rfl, appends, content, holds, ?_, ?_⟩
  · rw [Header.ofPayload, long]
    rfl
  · intro policy told again told' scanned same
    have missed := misses policy told again told' scanned
    rw [same] at missed
    exact missed (List.mem_singleton_self _)

end BlockFile

end DurableStore
