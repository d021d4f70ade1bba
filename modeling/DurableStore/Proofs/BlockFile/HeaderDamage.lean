import DurableStore.Proofs.Block.Consultation
import DurableStore.Proofs.BlockFile.Reopening

/-!
A row of blocks of which one has lost its header.

The sixteen bytes that stand in place of the header are arbitrary, and the length that they
announce steers the scan: no checksum covers it.  A recovery that skips what it cannot verify keeps
every other block exactly if the announced length does not reach beyond the payload while blocks
follow (`Overreaches`) and does not cut the payload where the checksum happens to fit (`Forges`);
`recover_contained_iff` says so for payloads in which the scan meets no other magic.

* `tail_cases` — what the scan makes of the damaged block and of the blocks behind it, put together
  from what it makes of a header that announces more than the payload and of one that does not;
* `scan_contained_iff` — the same for a scan of the whole file;
* `recover_contained_iff` — a recovery finds what the scan finds and cuts the file at most there.
-/

namespace DurableStore

/-- A row of blocks with one header replaced by other bytes. -/
structure HeaderDamage where
  /-- What the blocks in front of the damaged one hold. -/
  front : List Bytes
  /-- The bytes in place of the header. -/
  head : Bytes
  /-- The header that is read off them. -/
  header : Header
  /-- What the damaged block holds. -/
  payload : Bytes
  /-- What the blocks behind it hold. -/
  later : List Bytes
  read : Header.parse? head = some (header, [])

namespace HeaderDamage

/-- The bytes of the file. -/
def content (damage : HeaderDamage) : Bytes :=
  row damage.front ++ (damage.head ++ (damage.payload ++ row damage.later))

/-- Where the damaged block starts. -/
def start (damage : HeaderDamage) : Nat :=
  (row damage.front).length

/-- Where the damaged block ends. -/
def stop (damage : HeaderDamage) : Nat :=
  damage.start + headerLength + damage.payload.length

/-- The blocks that are not damaged. -/
def others (damage : HeaderDamage) : List Found :=
  placed 0 damage.front ++ placed damage.stop damage.later

/-- The length that the damaged header announces. -/
def announced (damage : HeaderDamage) : Nat :=
  damage.header.length.toNat

/-- Every payload is at most `limit` long. -/
structure Fits (damage : HeaderDamage) (limit : Nat) : Prop where
  front : ∀ payload ∈ damage.front, payload.length ≤ limit
  payload : damage.payload.length ≤ limit
  later : ∀ payload ∈ damage.later, payload.length ≤ limit

/-- The part of the damaged block in which a scan looks for the next magic. -/
def leftover (damage : HeaderDamage) (limit : Nat) : Bytes :=
  if damage.header.admissible limit then damage.payload.drop damage.announced
  else (damage.head ++ damage.payload).drop 1

/-- The damaged header announces more than the payload, and takes it from the blocks behind. -/
def Overreaches (damage : HeaderDamage) (limit : Nat) : Prop :=
  damage.header.admissible limit = true ∧ damage.payload.length < damage.announced ∧
    damage.later ≠ []

/-- The damaged header announces a part of the payload whose checksum it happens to carry. -/
def Forges (damage : HeaderDamage) (limit : Nat) : Prop :=
  damage.header.admissible limit = true ∧ damage.announced < damage.payload.length ∧
    Checksum.crc32c (damage.payload.take damage.announced) = damage.header.checksum

/-- The damage is contained: what is found are the other blocks, in file order, and at most the
damaged one besides, and none of them is cut off the file. -/
structure Contained (damage : HeaderDamage) (recovery : Recovery) : Prop where
  found : recovery.found = damage.others ∨
    recovery.found = placed 0 (damage.front ++ damage.payload :: damage.later)
  kept : ∀ block ∈ damage.others,
    block.offset + headerLength + block.payload.length ≤ recovery.validLength

variable (damage : HeaderDamage) {limit : Nat}

theorem length_head : damage.head.length = headerLength :=
  Header.length_of_parse? damage.read

theorem length_content :
    damage.content.length = damage.stop + (row damage.later).length := by
  have := damage.length_head
  simp only [content, stop, start, List.length_append]
  omega

theorem placed_whole : placed 0 (damage.front ++ damage.payload :: damage.later) =
    placed 0 damage.front ++ ⟨damage.start, damage.payload⟩ :: placed damage.stop damage.later := by
  rw [placed_append, Nat.zero_add]
  rfl

/-! ## The damaged block and what is behind it -/

/-- What the scan may find from the damaged block on if the damage is contained. -/
structure TailContained (tally : Tally) : Prop where
  found : tally.found = placed damage.stop damage.later ∨
    tally.found = ⟨damage.start, damage.payload⟩ :: placed damage.stop damage.later
  cut : ∀ offset, tally.tornAt = some offset → damage.later = [] ∧ damage.start ≤ offset

/-- The pieces from the damaged block on. -/
def tail (limit : Nat) : List Piece :=
  pieces limit damage.start (damage.head ++ (damage.payload ++ row damage.later))

/-- A header that no block of the file may have is passed over with its payload. -/
theorem tail_of_inadmissible (inadmissible : damage.header.admissible limit = false)
    (quiet : Quiet (damage.leftover limit)) :
    damage.tail limit = .garbage :: pieces limit damage.stop (row damage.later) := by
  obtain ⟨byte, head, same⟩ : ∃ byte head, damage.head = byte :: head := by
    cases same : damage.head with
    | nil => have := damage.length_head; rw [same] at this; cases this
    | cons byte head => exact ⟨byte, head, rfl⟩
  have whole := Header.parse?_append damage.read (damage.payload ++ row damage.later)
  have silent : Quiet (head ++ damage.payload) := by
    rw [leftover, inadmissible, if_neg Bool.false_ne_true, same] at quiet
    exact quiet
  have long : damage.start + (byte :: (head ++ damage.payload)).length = damage.stop := by
    have := damage.length_head
    rw [same] at this
    simp only [List.length_cons, List.length_append, stop] at this ⊢
    omega
  rw [same, List.cons_append, ← List.append_assoc, ← List.cons_append] at whole
  rw [tail, same, List.cons_append, ← List.append_assoc, ← List.cons_append,
    pieces_of_inadmissible damage.start whole inadmissible silent, long]

/-- A header that announces no more than the payload takes a part of it for a block. -/
theorem tail_of_announced_le (admissible : damage.header.admissible limit = true)
    (inside : damage.announced ≤ damage.payload.length) :
    damage.tail limit =
      .block damage.start damage.header (damage.payload.take damage.announced) ::
        pieces limit (damage.start + headerLength + damage.announced)
          (damage.payload.drop damage.announced ++ row damage.later) := by
  have taken : (damage.payload.take damage.announced).length = damage.announced := by
    rw [List.length_take]
    omega
  have halves : Bytes.splitExactly? damage.header.length.toNat
        (damage.payload ++ row damage.later) =
      some (damage.payload.take damage.announced,
        damage.payload.drop damage.announced ++ row damage.later) := by
    have split := Bytes.splitExactly?_append (damage.payload.take damage.announced)
      (damage.payload.drop damage.announced ++ row damage.later)
    rwa [← List.append_assoc, List.take_append_drop, taken] at split
  have ahead := Ahead.of_admissible damage.read admissible (damage.payload ++ row damage.later)
  rw [halves] at ahead
  rw [tail, pieces_of_ahead damage.start ahead]
  simp only [taken]

/-- A header that announces more than the payload hides the block behind it. -/
theorem not_mem_of_announced_gt (admissible : damage.header.admissible limit = true)
    (beyond : damage.payload.length < damage.announced) {policy : Policy} {path : Path}
    {asked asked' : List Mismatch} {tally : Tally}
    (judged : judge policy path (damage.tail limit) asked = (.ok tally, asked')) (hidden : Bytes) :
    ⟨damage.stop, hidden⟩ ∉ tally.found := by
  intro member
  obtain ⟨header, piece, -⟩ := (judge_pieces judged).1 _ member
  have ahead := Ahead.of_admissible damage.read admissible (damage.payload ++ row damage.later)
  cases halves : Bytes.splitExactly? damage.header.length.toNat
      (damage.payload ++ row damage.later) with
  | none =>
    rw [halves] at ahead
    rw [tail, pieces_of_ahead damage.start ahead] at piece
    simp at piece
  | some parts =>
    obtain ⟨front, rest⟩ := parts
    have whole := (Bytes.splitExactly?_eq_some halves).2
    rw [halves] at ahead
    rw [tail, pieces_of_ahead damage.start ahead] at piece
    -- One block covers the place where the hidden one starts, and the next start behind it.
    rcases List.mem_cons.1 piece with same | behind
    · have := (Piece.block.inj same).1
      simp only [stop, headerLength] at this
      omega
    · have := (pieces_within limit _ rest _ behind).1
      simp only [stop, announced] at this beyond
      omega

theorem tail_of_torn (admissible : damage.header.admissible limit = true)
    (beyond : damage.payload.length < damage.announced) (last : damage.later = []) :
    damage.tail limit = [.torn damage.start] := by
  have missing : Bytes.splitExactly? damage.header.length.toNat
      (damage.payload ++ row damage.later) = none := by
    refine Bytes.splitExactly?_eq_none_iff.2 ?_
    rw [last, row_nil, List.append_nil]
    exact beyond
  have ahead := Ahead.of_admissible damage.read admissible (damage.payload ++ row damage.later)
  rw [missing] at ahead
  rw [tail, pieces_of_ahead damage.start ahead]

/-- A header that announces more than the payload hides the next block, or is itself taken for the
start of a torn one. -/
theorem judged_of_announced_gt (admissible : damage.header.admissible limit = true)
    (beyond : damage.payload.length < damage.announced) (path : Path) (asked : List Mismatch) :
    ∃ tally asked', judge .skip path (damage.tail limit) asked = (.ok tally, asked') ∧
      (damage.Overreaches limit ∧ (∀ hidden, ⟨damage.stop, hidden⟩ ∉ tally.found) ∨
        ¬damage.Overreaches limit ∧ damage.TailContained tally) := by
  by_cases last : damage.later = []
  · -- With nothing behind it the block breaks off, and nothing is lost but itself.
    rw [damage.tail_of_torn admissible beyond last]
    refine ⟨_, _, rfl, .inr ⟨?_, .inl ?_, ?_⟩⟩
    · simp [Overreaches, last]
    · rw [last]
      rfl
    · intro cut same
      exact ⟨last, Nat.le_of_eq (Option.some.inj same)⟩
  · obtain ⟨tally, judged⟩ := judge_skip path (damage.tail limit) asked
    exact ⟨tally, _, judged, .inl ⟨⟨admissible, beyond, last⟩,
      damage.not_mem_of_announced_gt admissible beyond judged⟩⟩

/-- A header that announces no more than the payload leaves the blocks behind as they are, whether
or not the front part of the payload passes for a block. -/
theorem judged_of_announced_le (bounded : limit ≤ Config.largestBlockLimit)
    (fits : damage.Fits limit) (quiet : Quiet (damage.leftover limit))
    (admissible : damage.header.admissible limit = true)
    (inside : damage.announced ≤ damage.payload.length) (path : Path) (asked : List Mismatch) :
    ∃ tally asked', judge .skip path (damage.tail limit) asked = (.ok tally, asked') ∧
      (damage.Forges limit ∧ tally.found =
          ⟨damage.start, damage.payload.take damage.announced⟩ ::
            placed damage.stop damage.later ∨
        ¬damage.Forges limit ∧ damage.TailContained tally) := by
  have silent : Quiet (damage.payload.drop damage.announced) := by
    rwa [leftover, if_pos admissible] at quiet
  have ends : damage.start + headerLength + damage.announced +
      (damage.payload.drop damage.announced).length = damage.stop := by
    rw [List.length_drop, stop]
    omega
  -- Whatever was asked before, the blocks behind are found, and nothing in front is cut off.
  have behind (asked : List Mismatch) := judge_quiet bounded .skip path
    (damage.start + headerLength + damage.announced) silent fits.later asked
  rw [damage.tail_of_announced_le admissible inside]
  by_cases verified : Checksum.crc32c (damage.payload.take damage.announced) =
      damage.header.checksum
  · obtain ⟨rest, judged, found, cut⟩ := behind asked
    rw [ends] at found
    rw [judge_of_match .skip verified, judged]
    refine ⟨_, _, rfl, ?_⟩
    rcases Nat.lt_or_ge damage.announced damage.payload.length with short | whole
    · exact .inl ⟨⟨admissible, short, verified⟩, congrArg (_ :: ·) found⟩
    · -- The damage missed the length and the checksum, so the block is found like any other.
      have full : damage.payload.take damage.announced = damage.payload :=
        List.take_of_length_le whole
      refine .inr ⟨?_, .inr ?_, ?_⟩
      · intro forges
        exact Nat.not_lt.2 whole forges.2.1
      · rw [full]
        exact congrArg (_ :: ·) found
      · intro offset same
        obtain ⟨last, rfl⟩ := cut offset same
        exact ⟨last, by omega⟩
  · obtain ⟨rest, judged, found, cut⟩ := behind
      (asked ++ [.ofBlock path damage.start damage.header
        (damage.payload.take damage.announced)])
    rw [ends] at found
    rw [judge_skip_of_mismatch verified, judged]
    refine ⟨_, _, rfl, .inr ⟨?_, .inl found, ?_⟩⟩
    · intro forges
      exact verified forges.2.2
    · intro offset same
      obtain ⟨last, rfl⟩ := cut offset same
      exact ⟨last, by omega⟩

/-- **From the damaged block on**, a scan hides the next block, or takes a part of the payload for
a block, or finds the blocks behind the damaged one and at most that one besides. -/
theorem tail_cases (bounded : limit ≤ Config.largestBlockLimit) (fits : damage.Fits limit)
    (quiet : Quiet (damage.leftover limit)) (path : Path) (asked : List Mismatch) :
    ∃ tally asked', judge .skip path (damage.tail limit) asked = (.ok tally, asked') ∧
      (damage.Overreaches limit ∧ (∀ hidden, ⟨damage.stop, hidden⟩ ∉ tally.found) ∨
        damage.Forges limit ∧ tally.found =
          ⟨damage.start, damage.payload.take damage.announced⟩ ::
            placed damage.stop damage.later ∨
        (¬damage.Overreaches limit ∧ ¬damage.Forges limit) ∧ damage.TailContained tally) := by
  cases admissible : damage.header.admissible limit with
  | false =>
    have rest := judge_row bounded .skip path damage.stop fits.later asked
    rw [damage.tail_of_inadmissible admissible quiet, judge, rest]
    refine ⟨_, _, rfl, .inr (.inr ⟨⟨?_, ?_⟩, .inl rfl, by simp [Tally.pass]⟩)⟩
    · simp [Overreaches, admissible]
    · simp [Forges, admissible]
  | true =>
    rcases Nat.lt_or_ge damage.payload.length damage.announced with beyond | inside
    · have genuine : ¬damage.Forges limit := by
        intro forges
        exact Nat.lt_asymm beyond forges.2.1
      obtain ⟨tally, asked', judged, hides | ⟨within, contained⟩⟩ :=
        damage.judged_of_announced_gt admissible beyond path asked
      · exact ⟨tally, asked', judged, .inl hides⟩
      · exact ⟨tally, asked', judged, .inr (.inr ⟨⟨within, genuine⟩, contained⟩)⟩
    · have within : ¬damage.Overreaches limit := by
        intro beyond
        exact Nat.not_lt.2 inside beyond.2.1
      obtain ⟨tally, asked', judged, forges | ⟨genuine, contained⟩⟩ :=
        damage.judged_of_announced_le bounded fits quiet admissible inside path asked
      · exact ⟨tally, asked', judged, .inr (.inl forges)⟩
      · exact ⟨tally, asked', judged, .inr (.inr ⟨⟨within, genuine⟩, contained⟩)⟩

/-! ## The whole file -/

/-- What is found behind the front decides whether the damage is contained. -/
theorem contained_of_tail {tally : Tally} (h : damage.TailContained tally) :
    damage.Contained (.ofTally damage.content.length
      { tally with found := placed 0 damage.front ++ tally.found }) := by
  refine ⟨?_, ?_⟩
  · rw [placed_whole]
    rcases h.found with found | found
    · exact .inl (congrArg (placed 0 damage.front ++ ·) found)
    · exact .inr (congrArg (placed 0 damage.front ++ ·) found)
  · intro block member
    have total := damage.length_content
    show _ ≤ tally.tornAt.getD damage.content.length
    cases torn : tally.tornAt with
    | none =>
      simp only [Option.getD_none]
      rcases List.mem_append.1 member with member | member
      · have := (placed_within member).2
        simp only [stop, start] at total
        omega
      · have := (placed_within member).2
        omega
    | some offset =>
      obtain ⟨last, behind⟩ := h.cut offset torn
      rw [others, last, placed, List.append_nil] at member
      have := (placed_within member).2
      simp only [start] at behind
      simp only [Option.getD_some]
      omega

/-- If the damage is contained, the blocks behind the damaged one were found. -/
theorem tail_of_contained {tally : Tally}
    (h : damage.Contained (.ofTally damage.content.length
      { tally with found := placed 0 damage.front ++ tally.found })) :
    tally.found = placed damage.stop damage.later ∨
      tally.found = ⟨damage.start, damage.payload⟩ :: placed damage.stop damage.later := by
  have found := h.found
  rw [placed_whole] at found
  rcases found with found | found
  · exact .inl (List.append_cancel_left found)
  · exact .inr (List.append_cancel_left found)

/-- A scan of the file finds the front, and then what it makes of the tail. -/
theorem scan_of_tail (bounded : limit ≤ Config.largestBlockLimit) (fits : damage.Fits limit)
    {path : Path} {asked asked' : List Mismatch} {tally : Tally}
    (judged : judge .skip path (damage.tail limit) asked = (.ok tally, asked')) :
    scan limit .skip path damage.content asked =
      (.ok (.ofTally damage.content.length
        { tally with found := placed 0 damage.front ++ tally.found }), asked') := by
  have cut := pieces_row bounded 0 fits.front
    (damage.head ++ (damage.payload ++ row damage.later))
  rw [Nat.zero_add] at cut
  unfold tail start at judged
  rw [scan, Recovery.ofPieces]
  conv => lhs; rw [content, cut, judge_append, judged]
  rfl

/-- A scan that skips what it cannot verify contains the damage unless the damaged header announces
what it should not. -/
theorem scan_contained_iff (bounded : limit ≤ Config.largestBlockLimit) (fits : damage.Fits limit)
    (quiet : Quiet (damage.leftover limit)) (path : Path) (asked : List Mismatch) :
    ∃ recovery asked', scan limit .skip path damage.content asked = (.ok recovery, asked') ∧
      (damage.Contained recovery ↔ ¬damage.Overreaches limit ∧ ¬damage.Forges limit) := by
  obtain ⟨tally, asked', judged, outcome⟩ := damage.tail_cases bounded fits quiet path asked
  refine ⟨_, asked', damage.scan_of_tail bounded fits judged, ?_⟩
  rcases outcome with ⟨beyond, hidden⟩ | ⟨forges, found⟩ | ⟨neither, contained⟩
  · refine iff_of_false (fun contained => ?_) (fun neither => neither.1 beyond)
    obtain ⟨next, behind, same⟩ : ∃ next behind, damage.later = next :: behind := by
      cases same : damage.later with
      | nil => exact absurd same beyond.2.2
      | cons next behind => exact ⟨next, behind, rfl⟩
    -- The next block would have been found, and it was not.
    rcases damage.tail_of_contained contained with found | found
    · refine hidden next ?_
      rw [found, same]
      exact List.mem_cons_self
    · refine hidden next ?_
      rw [found, same]
      exact List.mem_cons_of_mem _ List.mem_cons_self
  · refine iff_of_false (fun contained => ?_) (fun neither => neither.2 forges)
    -- One block too many was found, or one that is too short.
    rcases damage.tail_of_contained contained with other | other
    · have sizes := congrArg List.length (found.symm.trans other)
      simp at sizes
    · have same := congrArg Found.payload (List.cons.inj (found.symm.trans other)).1
      have sizes := congrArg List.length same
      have := forges.2.1
      simp only [List.length_take] at sizes
      omega
  · exact iff_of_true (damage.contained_of_tail contained) neither

/-! ## Recovering the file -/

open FileSystem OpenFile

/-- **Damage to one header stays contained** in a recovery that skips what it cannot verify,
exactly if the header does not announce a payload that takes in the next block, and does not
announce a part of its own payload that happens to have the checksum. -/
theorem recover_contained_iff {blocks : BlockFile} {disk : FileSystem} {id : FileId}
    (bounded : blocks.limit ≤ Config.largestBlockLimit)
    (writes : blocks.file.writable? = some id) (there : id < disk.contents.size)
    (holds : disk.length id ≤ disk.memory.bytes) (same : disk.content id = damage.content)
    (fits : damage.Fits blocks.limit) (quiet : Quiet (damage.leftover blocks.limit))
    (asked : List Mismatch) :
    ∃ recovery asked' after,
      blocks.recover .skip asked disk =
        { result := .ok recovery, asked := asked', blocks := { blocks with tornTail := none },
          disk := after } ∧
      after.content id = (disk.content id).take recovery.validLength ∧
      (damage.Contained recovery ↔
        ¬damage.Overreaches blocks.limit ∧ ¬damage.Forges blocks.limit) := by
  obtain ⟨recovery, asked', scanned, contained⟩ :=
    damage.scan_contained_iff bounded fits quiet blocks.path asked
  rw [← same] at scanned
  obtain ⟨after, recovered, kept⟩ := BlockFile.recover_of_scan writes there holds scanned
  exact ⟨recovery, asked', after, recovered, kept, contained⟩

/-- Three blocks; the first has another length. -/
def relengthened (length : UInt32) : HeaderDamage :=
  let header := { Header.ofPayload [1] with length }
  { front := [], head := header.encode, header, payload := [1], later := [[2], [3]],
    read := by simpa using Header.parse?_encode header [] rfl }

/-- A disk with nothing on it but these blocks. -/
def relengthenedDisk (length : UInt32) : FileSystem :=
  { entries := [([], .directory), (["blocks"], .file 0)]
    contents := #[.ofBytes (relengthened length).content] }

theorem recover_contained_iff_relengthened :
    ∃ recovery asked' after,
      (BlockFile.fresh ⟨["blocks"]⟩ 1024 0).recover .skip [] (relengthenedDisk 0) =
        { result := .ok recovery, asked := asked', blocks := .fresh ⟨["blocks"]⟩ 1024 0,
          disk := after } ∧
      after.content 0 = ((relengthenedDisk 0).content 0).take recovery.validLength ∧
      ((relengthened 0).Contained recovery ↔
        ¬(relengthened 0).Overreaches 1024 ∧ ¬(relengthened 0).Forges 1024) := by
  have same : (relengthenedDisk 0).content 0 = (relengthened 0).content := by
    simp [relengthenedDisk, FileSystem.content, FileSystem.stored]
  have fits : (relengthened 0).Fits 1024 := ⟨by decide, by decide, by decide⟩
  exact recover_contained_iff (relengthened 0) (by decide) rfl (by decide) (by decide +kernel) same
    fits (by decide +kernel) []

/-- A length that reaches beyond the end of the file takes every block behind with it. -/
theorem recover_not_contained_relengthened :
    ∃ recovery asked' after,
      (BlockFile.fresh ⟨["blocks"]⟩ 1024 0).recover .skip [] (relengthenedDisk 257) =
        { result := .ok recovery, asked := asked', blocks := .fresh ⟨["blocks"]⟩ 1024 0,
          disk := after } ∧
      recovery.payloads = [] ∧ after.content 0 = [] ∧ ¬(relengthened 257).Contained recovery := by
  have computed : (scan 1024 .skip ⟨["blocks"]⟩ ((relengthenedDisk 257).content 0)
      []).1.toOption = some { tornAt := some 0 } := by decide +kernel
  have scanned : scan 1024 .skip ⟨["blocks"]⟩ ((relengthenedDisk 257).content 0) [] =
      (.ok { tornAt := some 0 }, _) := Prod.ext (toOption_eq_some.1 computed) rfl
  have writes : (BlockFile.fresh ⟨["blocks"]⟩ 1024 0).file.writable? = some 0 := rfl
  obtain ⟨after, recovered, kept⟩ :=
    BlockFile.recover_of_scan writes (by decide) (by decide +kernel) scanned
  refine ⟨_, _, after, recovered, rfl, kept, ?_⟩
  intro contained
  rcases contained.found with found | found <;> cases found

end HeaderDamage

end DurableStore
