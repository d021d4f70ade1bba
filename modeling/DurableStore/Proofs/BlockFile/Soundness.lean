import DurableStore.Proofs.Block.Cursor
import DurableStore.Proofs.BlockFile.SecondPass

/-!
What a scan of any bytes reports is there.

* `pieces_standing` — where a piece starts, the bytes of the file are what the piece says;
* `genuine_of_complete` — so a block that was found is a range of the file that starts with the
  magic, announces the length of the payload and carries its checksum;
* `Found.Genuine.short` — in particular its payload is no longer than a length field can say;
* `not_holdsBlock_of_torn` — and where the file is said to break off, no complete block starts;
* `pieces_ordered` — the pieces lie one behind another, and nothing is behind a block that breaks
  off;
* `scan_sound` — the report of a scan is sound, and a scan that gives none gives what the policy
  says.
-/

namespace DurableStore

/-! ## What stands in a file -/

/-- A header with the magic, announcing so long a payload, stands at an offset. -/
def Announces (content : Bytes) (offset : Nat) (length : UInt32) : Prop :=
  content.slice? offset (offset + 4) = some magic ∧
    content.slice? (offset + 4) (offset + 8) = some (Bytes.ofWord32 length)

/-- A complete block with a payload of at most `limit` bytes starts at an offset. -/
def HoldsBlock (limit : Nat) (content : Bytes) (offset : Nat) : Prop :=
  ∃ length : UInt32, Announces content offset length ∧ length.toNat ≤ limit ∧
    offset + headerLength + length.toNat ≤ content.length

/-- Where the block ends. -/
def Found.stop (found : Found) : Nat :=
  found.offset + headerLength + found.payload.length

/-- What was found stands in the file as a block that can be verified. -/
structure Found.Genuine (limit : Nat) (content : Bytes) (found : Found) : Prop where
  announced : ∃ length : UInt32, Announces content found.offset length ∧
    length.toNat = found.payload.length
  fits : found.payload.length ≤ limit
  stored : content.slice? (found.offset + 8) (found.offset + 12) =
    some (Bytes.ofWord32 (Checksum.crc32c found.payload))
  payload : content.slice? (found.offset + headerLength) found.stop = some found.payload

/-- What a scan reports is there. -/
structure Recovery.Sound (limit : Nat) (content : Bytes) (recovery : Recovery) : Prop where
  genuine : ∀ found ∈ recovery.found, found.Genuine limit content
  apart : recovery.found.Pairwise fun before after => before.stop ≤ after.offset
  inside : ∀ found ∈ recovery.found, found.stop ≤ content.length
  torn : ∀ offset, recovery.tornAt = some offset →
    offset < content.length ∧ ¬HoldsBlock limit content offset ∧
      ∀ found ∈ recovery.found, found.stop ≤ offset
  valid : recovery.validLength = recovery.tornAt.getD content.length

/-- The length field of a header says no more than this. -/
theorem announced_le (length : UInt32) : length.toNat ≤ Config.largestBlockLimit := by
  have bound := length.toNat_lt
  unfold Config.largestBlockLimit
  omega

theorem Found.Genuine.short {limit : Nat} {content : Bytes} {found : Found}
    (h : found.Genuine limit content) : found.payload.length ≤ Config.largestBlockLimit := by
  obtain ⟨length, -, announced⟩ := h.announced
  rw [← announced]
  exact announced_le length

/-! ## Reading the fields of a block -/

theorem Bytes.slice?_middle {content middle back : Bytes} {offset : Nat} (front : Bytes)
    (same : content.drop offset = front ++ (middle ++ back)) (inside : offset ≤ content.length) :
    content.slice? (offset + front.length) (offset + front.length + middle.length) =
      some middle := by
  have lengths := congrArg List.length same
  simp only [List.length_drop, List.length_append] at lengths
  rw [slice?_drop middle.length (by omega), ← List.drop_drop, same, List.drop_left, List.take_left]

/-- The fields that are read off a header stand in it one behind another. -/
theorem Header.fields_of_parse? {bytes rest : Bytes} {header : Header}
    (read : parse? bytes = some (header, rest)) :
    ∃ reserved, reserved.length = 4 ∧
      bytes = header.mark ++ (Bytes.ofWord32 header.length ++
        (Bytes.ofWord32 header.checksum ++ (reserved ++ rest))) ∧ header.mark.length = 4 := by
  unfold parse? at read
  split at read
  next m0 m1 m2 m3 l0 l1 l2 l3 c0 c1 c2 c3 r0 r1 r2 r3 rest =>
    obtain ⟨rfl, rfl⟩ := Prod.mk.inj (Option.some.inj read)
    refine ⟨[r0, r1, r2, r3], rfl, ?_, rfl⟩
    rw [Bytes.ofWord32_word32, Bytes.ofWord32_word32]
    rfl
  next => cases read

/-- Where a header is read, its fields are slices of the file. -/
theorem Header.slices_of_parse? {content rest : Bytes} {offset : Nat} {header : Header}
    (read : parse? (content.drop offset) = some (header, rest)) :
    content.slice? offset (offset + 4) = some header.mark ∧
      content.slice? (offset + 4) (offset + 8) = some (Bytes.ofWord32 header.length) ∧
      content.slice? (offset + 8) (offset + 12) = some (Bytes.ofWord32 header.checksum) := by
  have long := length_of_parse? read
  rw [List.length_drop] at long
  have sixteen : headerLength = 16 := rfl
  have inside : offset ≤ content.length := by omega
  obtain ⟨reserved, -, same, four⟩ := fields_of_parse? read
  have mark := Bytes.slice?_middle [] same inside
  have length := Bytes.slice?_middle header.mark same inside
  have checksum := Bytes.slice?_middle (header.mark ++ Bytes.ofWord32 header.length)
    (same.trans (List.append_assoc ..).symm) inside
  rw [List.length_nil, four] at mark
  rw [four, Bytes.length_ofWord32] at length
  rw [List.length_append, four, Bytes.length_ofWord32, Bytes.length_ofWord32] at checksum
  exact ⟨mark, length, checksum⟩

/-! ## The pieces of a file -/

/-- The bytes of the file are what the piece says. -/
def Piece.Standing (limit : Nat) (content : Bytes) : Piece → Prop
  | .block offset header payload =>
    ∃ rest, Ahead.of limit (content.drop offset) = .complete header payload rest
  | .garbage => True
  | .torn offset => Ahead.of limit (content.drop offset) = .torn

theorem pieces_standing (limit start : Nat) {content bytes : Bytes}
    (same : content.drop start = bytes) :
    ∀ piece ∈ pieces limit start bytes, piece.Standing limit content := by
  fun_induction pieces limit start bytes with
  | case1 => simp
  | case2 offset bytes ahead =>
    intro piece member
    rw [List.mem_singleton.1 member]
    show Ahead.of limit (content.drop offset) = .torn
    rw [same]
    exact ahead
  | case3 =>
    intro piece member
    rw [List.mem_singleton.1 member]
    trivial
  | case4 offset bytes gap rest ahead _ ih =>
    obtain ⟨stray, found, whole, -, -, -, -, -, next⟩ := Ahead.of_eq_garbage ahead
    have onward : content.drop (offset + gap) = rest := by
      split at next
      next => cases next
      next =>
        obtain ⟨rfl, rfl⟩ := Prod.mk.inj (Option.some.inj next)
        rw [← List.drop_drop, same, whole, List.drop_left]
    intro piece member
    rcases List.mem_cons.1 member with rfl | member
    · trivial
    · exact ih onward piece member
  | case5 offset bytes header payload rest ahead _ ih =>
    obtain ⟨head, whole, read, -⟩ := Ahead.split_of_complete ahead
    have sixteen : head.length = headerLength := Header.length_of_parse? read
    have onward : content.drop (offset + headerLength + payload.length) = rest := by
      rw [← List.drop_drop, ← List.drop_drop, same, whole, ← sixteen, List.drop_left,
        List.drop_left]
    intro piece member
    rcases List.mem_cons.1 member with rfl | member
    · refine ⟨rest, ?_⟩
      rw [same]
      exact ahead
    · exact ih onward piece member

/-- A complete block whose checksum fits is genuine. -/
theorem genuine_of_complete {limit : Nat} {content : Bytes} {found : Found} {header : Header}
    (standing : Piece.Standing limit content (.block found.offset header found.payload))
    (verified : Checksum.crc32c found.payload = header.checksum) :
    found.Genuine limit content := by
  obtain ⟨rest, ahead⟩ := standing
  obtain ⟨announced, fits⟩ := Ahead.of_eq_complete ahead
  obtain ⟨head, whole, read, admissible⟩ := Ahead.split_of_complete ahead
  have parsed := Header.parse?_append read (found.payload ++ rest)
  rw [← whole] at parsed
  obtain ⟨mark, length, checksum⟩ := Header.slices_of_parse? parsed
  have sixteen : head.length = headerLength := Header.length_of_parse? read
  have total := congrArg List.length whole
  simp only [List.length_drop, List.length_append] at total
  have inside : found.offset ≤ content.length := by
    have : headerLength = 16 := rfl
    omega
  have is_magic : header.mark = magic := by
    rw [Header.admissible, Bool.and_eq_true, Header.hasMagic] at admissible
    exact eq_of_beq admissible.1
  have payload := Bytes.slice?_middle head whole inside
  rw [sixteen] at payload
  rw [is_magic] at mark
  rw [← verified] at checksum
  exact ⟨⟨header.length, ⟨mark, length⟩, announced⟩, fits, checksum, payload⟩

/-- Where a block breaks off, no complete block starts. -/
theorem not_holdsBlock_of_torn {limit offset : Nat} {content : Bytes}
    (ahead : Ahead.of limit (content.drop offset) = .torn) : ¬HoldsBlock limit content offset := by
  rintro ⟨length, ⟨mark, announced⟩, fits, room⟩
  have long : headerLength ≤ (content.drop offset).length := by
    rw [List.length_drop]
    omega
  obtain ⟨header, read⟩ := Header.parse?_of_length long
  obtain ⟨mark', length', -⟩ := Header.slices_of_parse? read
  have same_mark : header.mark = magic := Option.some.inj (mark'.symm.trans mark)
  have same_length : header.length = length := by
    have words := Option.some.inj (length'.symm.trans announced)
    simp only [Bytes.ofWord32, List.cons.injEq, and_true] at words
    obtain ⟨b0, b1, b2, b3⟩ := words
    rw [← Bytes.word32_bytes header.length, b0, b1, b2, b3, Bytes.word32_bytes]
  have admissible : header.admissible limit = true := by
    rw [Header.admissible, Header.hasMagic, same_mark, same_length, decide_eq_true fits]
    rfl
  have full : header.length.toNat ≤ ((content.drop offset).drop headerLength).length := by
    rw [same_length, List.length_drop, List.length_drop]
    omega
  rw [Ahead.of_read limit read, if_pos admissible, Bytes.splitExactly?_of_le full] at ahead
  cases ahead

/-- One piece lies in front of the other, and nothing is behind a block that breaks off. -/
def Piece.Before : Piece → Piece → Prop
  | .block offset _ payload, .block offset' _ _ => offset + headerLength + payload.length ≤ offset'
  | .block offset _ payload, .torn offset' => offset + headerLength + payload.length ≤ offset'
  | .torn _, _ => False
  | _, _ => True

theorem pieces_ordered (limit start : Nat) (bytes : Bytes) :
    (pieces limit start bytes).Pairwise Piece.Before := by
  fun_induction pieces limit start bytes with
  | case1 => exact .nil
  | case2 => exact List.pairwise_singleton ..
  | case3 => exact List.pairwise_singleton ..
  | case4 offset bytes gap rest ahead _ ih =>
    refine List.pairwise_cons.2 ⟨?_, ih⟩
    intro piece member
    cases piece with
    | block => trivial
    | garbage => trivial
    | torn => trivial
  | case5 offset bytes header payload rest ahead _ ih =>
    refine List.pairwise_cons.2 ⟨?_, ih⟩
    intro piece member
    have within := pieces_within limit _ rest piece member
    cases piece with
    | block => exact within.1
    | garbage => trivial
    | torn => exact within.1

/-! ## The report -/

/-- What is found of pieces that lie one behind another lies one behind another too, in front of
what breaks off. -/
theorem judge_ordered {policy : Policy} {path : Path} {pieces : List Piece}
    (ordered : pieces.Pairwise Piece.Before) {asked asked' : List Mismatch} {tally : Tally}
    (judged : judge policy path pieces asked = (.ok tally, asked')) :
    (tally.found.Pairwise fun before after => before.stop ≤ after.offset) ∧
      ∀ offset, tally.tornAt = some offset → ∀ found ∈ tally.found, found.stop ≤ offset := by
  induction pieces generalizing asked tally with
  | nil =>
    cases judged
    simp
  | cons piece later ih =>
    obtain ⟨front, rest⟩ := List.pairwise_cons.1 ordered
    cases piece with
    | torn offset =>
      cases judged
      simp
    | garbage =>
      obtain ⟨before, behind, rfl⟩ := judged_of_map judged
      have gathered := ih rest behind
      exact gathered
    | block offset header payload =>
      simp only [judge] at judged
      split at judged
      next =>
        obtain ⟨before, behind, rfl⟩ := judged_of_map judged
        obtain ⟨apart, torn⟩ := ih rest behind
        obtain ⟨blocks, breaks⟩ := judge_pieces behind
        refine ⟨List.pairwise_cons.2 ⟨?_, apart⟩, ?_⟩
        · intro found member
          obtain ⟨header', piece, -⟩ := blocks found member
          exact front _ piece
        · intro cut at_ found member
          rcases List.mem_cons.1 member with rfl | member
          · exact front _ (breaks cut at_)
          · exact torn cut at_ found member
      next =>
        split at judged
        next => cases judged
        next =>
          obtain ⟨before, behind, rfl⟩ := judged_of_map judged
          have gathered := ih rest behind
          exact gathered

/-- Where a scan says that a block breaks off, one does. -/
theorem torn_of_scan {limit : Nat} {policy : Policy} {path : Path} {content : Bytes}
    {asked asked' : List Mismatch} {recovery : Recovery}
    (scanned : scan limit policy path content asked = (.ok recovery, asked')) {offset : Nat}
    (torn : recovery.tornAt = some offset) : Ahead.of limit (content.drop offset) = .torn := by
  obtain ⟨tally, judged, rfl⟩ := judged_of_map scanned
  exact pieces_standing limit 0 (List.drop_zero (l := content)) _
    ((judge_pieces judged).2 offset torn)

/-- **What a scan reports of any bytes is there**, under every limit and every policy. -/
theorem scan_reports_sound {limit : Nat} {policy : Policy} {path : Path} {content : Bytes}
    {asked asked' : List Mismatch} {recovery : Recovery}
    (scanned : scan limit policy path content asked = (.ok recovery, asked')) :
    recovery.Sound limit content := by
  obtain ⟨extent, cut, valid⟩ := scan_extent scanned
  have breaks {offset : Nat} (torn : recovery.tornAt = some offset) := torn_of_scan scanned torn
  obtain ⟨tally, judged, rfl⟩ := judged_of_map scanned
  have standing := pieces_standing limit 0 (List.drop_zero (l := content))
  obtain ⟨blocks, -⟩ := judge_pieces judged
  obtain ⟨apart, behind⟩ := judge_ordered (pieces_ordered limit 0 content) judged
  refine ⟨?_, apart, fun found member => (extent found member).1, ?_, valid⟩
  · intro found member
    obtain ⟨header, piece, verified⟩ := blocks found member
    exact genuine_of_complete (standing _ piece) verified
  · intro offset at_
    exact ⟨cut offset at_, not_holdsBlock_of_torn (breaks at_), behind offset at_⟩

namespace BlockFile

variable {blocks : BlockFile} {disk : FileSystem} {content : Bytes}

/-- **A scan of a file comes to an end**, with no read outside the bytes that it was given, and then
what it reports is there; it reports nothing only where the policy refuses to go on. -/
theorem scan_sound (read : blocks.file.readAll disk = .ok content) (policy : Policy)
    (asked : List Mismatch) :
    Cursor.scan? blocks.limit policy blocks.path content asked =
        some (blocks.scan policy asked disk) ∧
      ((∃ recovery, (blocks.scan policy asked disk).1 = .ok recovery ∧
          recovery.Sound blocks.limit content) ∨
        ∃ fault before mismatch, (blocks.scan policy asked disk).1 = .error fault ∧
          policy.verdict before mismatch = .error fault) := by
  have scans : blocks.scan policy asked disk =
      DurableStore.scan blocks.limit policy blocks.path content asked := by
    rw [scan_eq, read]
  rw [scans]
  refine ⟨Cursor.scan?_eq .., ?_⟩
  rcases outcome : DurableStore.scan blocks.limit policy blocks.path content asked with
    ⟨fault | recovery, asked'⟩
  · refine .inr ⟨fault, ?_⟩
    rcases judged : judge policy blocks.path (pieces blocks.limit 0 content) asked with
      ⟨fault' | tally, asked''⟩
    · obtain ⟨before, mismatch, verdict⟩ := judge_eq_error judged
      rw [DurableStore.scan, Recovery.ofPieces, judged] at outcome
      cases outcome
      exact ⟨before, mismatch, rfl, verdict⟩
    · rw [DurableStore.scan, Recovery.ofPieces, judged] at outcome
      cases outcome
  · exact .inl ⟨recovery, rfl, scan_reports_sound outcome⟩

/-- In front of the torn block, one block is found in its place. -/
theorem scan_sound_stray :
    ∃ recovery, ((fresh ⟨["blocks"]⟩ 1024 0).scan .fail [] (strayDisk [0xEE])).1 = .ok recovery ∧
      recovery.found = [⟨0, [1]⟩] ∧ recovery.tornAt = some 18 ∧
      recovery.Sound 1024 (strayContent [0xEE]) := by
  have read : (fresh ⟨["blocks"]⟩ 1024 0).file.readAll (strayDisk [0xEE]) =
      .ok (strayContent [0xEE]) := toOption_eq_some.1 (by decide +kernel)
  have computed : ((fresh ⟨["blocks"]⟩ 1024 0).scan .fail [] (strayDisk [0xEE])).1 =
      .ok { found := [⟨0, [1]⟩], skipped := 1, tornAt := some 18, validLength := 18 } :=
    toOption_eq_some.1 (by decide +kernel)
  obtain ⟨-, ⟨recovery, outcome, sound⟩ | ⟨fault, -, -, failed, -⟩⟩ := scan_sound read .fail []
  · cases computed.symm.trans outcome
    exact ⟨_, computed, rfl, rfl, sound⟩
  · cases computed.symm.trans failed

end BlockFile

end DurableStore
