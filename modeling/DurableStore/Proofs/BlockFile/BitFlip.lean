import DurableStore.Proofs.BlockFile.HeaderDamage
import DurableStore.Proofs.Checksum.Detection

/-!
A row of blocks in which one bit is turned over.

The bit belongs to one block of the row (`flip_row`).  In its payload or in the stored checksum it
makes the two disagree, and in the reserved bytes nobody looks at it, so a scan that accepts no
mismatch either fails or finds what it found before (`scan_flip_cases`).  The magic and the length
decide what is a block at all; there the scan consults no checksum and no policy.
-/

namespace DurableStore

/-! ## Turning a bit over -/

/-- A byte with one bit turned over. -/
def flipBit (bit : Fin 8) (byte : UInt8) : UInt8 :=
  byte ^^^ (1 <<< UInt8.ofNat bit)

namespace Bytes

/-- The bytes with one bit of the byte at `offset` turned over, if there is such a byte. -/
def flip (bytes : Bytes) (offset : Nat) (bit : Fin 8) : Bytes :=
  bytes.modify offset (flipBit bit)

@[simp] theorem length_flip (bytes : Bytes) (offset : Nat) (bit : Fin 8) :
    (bytes.flip offset bit).length = bytes.length :=
  List.length_modify ..

theorem flip_of_le {bytes : Bytes} {offset : Nat} (behind : bytes.length ≤ offset) (bit : Fin 8) :
    bytes.flip offset bit = bytes :=
  List.modify_eq_self behind

theorem flip_append_left {front : Bytes} {offset : Nat} (inside : offset < front.length)
    (back : Bytes) (bit : Fin 8) :
    (front ++ back).flip offset bit = front.flip offset bit ++ back := by
  unfold flip
  induction front generalizing offset with
  | nil => exact absurd inside (Nat.not_lt_zero _)
  | cons byte rest ih =>
    cases offset with
    | zero => rfl
    | succ offset =>
      rw [List.cons_append, List.modify_succ_cons, List.modify_succ_cons,
        ih (Nat.lt_of_succ_lt_succ inside)]
      rfl

theorem flip_append_right (front back : Bytes) (offset : Nat) (bit : Fin 8) :
    (front ++ back).flip (front.length + offset) bit = front ++ back.flip offset bit := by
  unfold flip
  induction front with
  | nil => rw [List.nil_append, List.length_nil, Nat.zero_add]; rfl
  | cons byte rest ih =>
    rw [List.cons_append, List.length_cons, Nat.succ_add, List.modify_succ_cons, ih]
    rfl

theorem flipBit_ne (bit : Fin 8) (byte : UInt8) : flipBit bit byte ≠ byte := by
  have nonzero : ∀ bit : Fin 8, (1 : UInt8) <<< UInt8.ofNat bit ≠ 0 := by decide
  intro same
  have := congrArg (byte ^^^ ·) same
  exact nonzero bit (by simpa [flipBit, ← UInt8.xor_assoc] using this)

/-- The byte at `offset` is another one, and the others are as before. -/
theorem flip_eq {bytes : Bytes} {offset : Nat} (inside : offset < bytes.length) (bit : Fin 8) :
    ∃ front byte back, bytes = front ++ byte :: back ∧
      bytes.flip offset bit = front ++ flipBit bit byte :: back := by
  refine ⟨bytes.take offset, bytes[offset], bytes.drop (offset + 1), ?_, ?_⟩
  · rw [List.getElem_cons_drop, List.take_append_drop]
  · exact List.modify_eq_take_cons_drop inside

theorem flip_ne {bytes : Bytes} {offset : Nat} (inside : offset < bytes.length) (bit : Fin 8) :
    bytes.flip offset bit ≠ bytes := by
  obtain ⟨front, byte, back, same, flipped⟩ := flip_eq inside bit
  rw [flipped, same]
  intro whole
  exact flipBit_ne bit byte (List.cons.inj (List.append_cancel_left whole)).1

end Bytes

/-- A bit that is turned over is noticed. -/
theorem Checksum.crc32c_flip_ne {bytes : Bytes} {offset : Nat} (inside : offset < bytes.length)
    (bit : Fin 8) : crc32c (bytes.flip offset bit) ≠ crc32c bytes := by
  obtain ⟨front, byte, back, same, flipped⟩ := Bytes.flip_eq inside bit
  rw [flipped, same]
  exact crc32c_ne_of_byte front back (Bytes.flipBit_ne bit byte)

/-! ## A bit of a header -/

namespace Header

variable {header : Header}

/-- What is read off a header is what stands in its fields; the last four bytes do not count. -/
theorem parse?_fields (whole : header.mark.length = 4) (c0 c1 c2 c3 r0 r1 r2 r3 : UInt8) :
    parse? (header.mark ++ Bytes.ofWord32 header.length ++
        ([c0, c1, c2, c3] ++ [r0, r1, r2, r3])) =
      some ({ header with checksum := Bytes.word32 c0 c1 c2 c3 }, []) := by
  obtain ⟨mark, length, checksum⟩ := header
  match mark, whole with
  | [m0, m1, m2, m3], _ => simp [parse?, Bytes.ofWord32, Bytes.word32_bytes]

theorem encode_eq (header : Header) : header.encode =
    header.mark ++ Bytes.ofWord32 header.length ++
      (Bytes.ofWord32 header.checksum ++ [0, 0, 0, 0]) := by
  simp [encode]

theorem list_of_length_eq_four {bytes : Bytes} (four : bytes.length = 4) :
    ∃ b0 b1 b2 b3, bytes = [b0, b1, b2, b3] := by
  match bytes, four with
  | [b0, b1, b2, b3], _ => exact ⟨b0, b1, b2, b3, rfl⟩

/-- A bit of the stored checksum makes it another one. -/
theorem parse?_flip_checksum (whole : header.mark.length = 4) {within : Nat} (inside : within < 4)
    (bit : Fin 8) :
    ∃ checksum, checksum ≠ header.checksum ∧
      parse? (header.encode.flip (8 + within) bit) = some ({ header with checksum }, []) := by
  obtain ⟨c0, c1, c2, c3, changed⟩ :=
    list_of_length_eq_four (Bytes.length_flip (Bytes.ofWord32 header.checksum) within bit)
  have front : (header.mark ++ Bytes.ofWord32 header.length).length = 8 := by
    rw [List.length_append, whole, Bytes.length_ofWord32]
  refine ⟨Bytes.word32 c0 c1 c2 c3, ?_, ?_⟩
  · intro same
    have bytes := Bytes.ofWord32_word32 c0 c1 c2 c3
    rw [same, ← changed] at bytes
    exact Bytes.flip_ne inside bit bytes.symm
  · rw [encode_eq, ← front, Bytes.flip_append_right, Bytes.flip_append_left inside, changed]
    exact parse?_fields whole ..

/-- Nobody looks at a bit of the reserved bytes. -/
theorem parse?_flip_reserved (whole : header.mark.length = 4) (within : Nat) (bit : Fin 8) :
    parse? (header.encode.flip (12 + within) bit) = some (header, []) := by
  obtain ⟨r0, r1, r2, r3, changed⟩ :=
    list_of_length_eq_four (Bytes.length_flip [0, 0, 0, 0] within bit)
  have front : (header.mark ++ Bytes.ofWord32 header.length ++
      Bytes.ofWord32 header.checksum).length = 12 := by
    rw [List.length_append, List.length_append, whole, Bytes.length_ofWord32,
      Bytes.length_ofWord32]
  rw [encode, ← front, Bytes.flip_append_right, changed, List.append_assoc]
  rw [show Bytes.ofWord32 header.checksum ++ [r0, r1, r2, r3] =
    [header.checksum.toUInt8, (header.checksum >>> 8).toUInt8, (header.checksum >>> 16).toUInt8,
      (header.checksum >>> 24).toUInt8] ++ [r0, r1, r2, r3] from rfl, parse?_fields whole,
    Bytes.word32_bytes]

end Header

/-! ## A bit of a block -/

/-- How many bytes at the front of a block decide where it ends: its magic and its length. -/
def steeringLength : Nat := 8

/-- The byte at `offset` of a row belongs to the magic or to the length of a block. -/
def Steering (payloads : List Bytes) (offset : Nat) : Prop :=
  ∃ block ∈ placed 0 payloads, block.offset ≤ offset ∧ offset < block.offset + steeringLength

instance (payloads : List Bytes) (offset : Nat) : Decidable (Steering payloads offset) :=
  inferInstanceAs (Decidable (∃ block ∈ placed 0 payloads, _ ∧ _))

/-- A block whose header announces what is there is complete. -/
theorem Ahead.of_announced {limit : Nat} {head body : Bytes} {header : Header}
    (read : Header.parse? head = some (header, [])) (marked : header.hasMagic = true)
    (announced : header.length.toNat = body.length) (fits : body.length ≤ limit) (rest : Bytes) :
    of limit (head ++ (body ++ rest)) = .complete header body rest := by
  have admissible : header.admissible limit = true := by
    rw [Header.admissible, marked, announced, decide_eq_true fits, Bool.and_true]
  rw [of_admissible read admissible, announced, Bytes.splitExactly?_append]

/-- Behind the magic and the length, a bit that is turned over makes payload and checksum disagree,
or does not count. -/
theorem ahead_flip_cases {limit : Nat} (bounded : limit ≤ Config.largestBlockLimit)
    {payload : Bytes} (fits : payload.length ≤ limit) {within : Nat}
    (behind : steeringLength ≤ within) (inside : within < (blockOf payload).length) (bit : Fin 8)
    (rest : Bytes) :
    (∃ header body, Ahead.of limit ((blockOf payload).flip within bit ++ rest) =
        .complete header body rest ∧ Checksum.crc32c body ≠ header.checksum) ∨
      Ahead.of limit ((blockOf payload).flip within bit ++ rest) =
        .complete (.ofPayload payload) payload rest := by
  have announced := Header.length_ofPayload bounded fits
  have marked : (Header.ofPayload payload).hasMagic = true := by
    simp [Header.hasMagic, Header.ofPayload]
  have four : (Header.ofPayload payload).mark.length = 4 := rfl
  have sixteen := Header.length_encode_ofPayload payload
  simp only [steeringLength] at behind
  simp only [length_blockOf] at inside
  unfold blockOf
  rcases Nat.lt_or_ge within headerLength with header | body
  · rw [Bytes.flip_append_left (by omega), List.append_assoc]
    rcases Nat.lt_or_ge within 12 with stored | reserved
    -- The stored checksum is another one, and the payload is as it was.
    · obtain ⟨place, rfl⟩ := Nat.exists_eq_add_of_le behind
      obtain ⟨checksum, differs, read⟩ := Header.parse?_flip_checksum four
        (show place < 4 by omega) bit
      exact .inl ⟨_, payload, Ahead.of_announced read marked announced fits rest, differs.symm⟩
    · obtain ⟨place, rfl⟩ := Nat.exists_eq_add_of_le reserved
      have read := Header.parse?_flip_reserved four place bit
      exact .inr (Ahead.of_announced read marked announced fits rest)
  -- The payload is another one, and its checksum is as it was.
  · obtain ⟨place, rfl⟩ := Nat.exists_eq_add_of_le body
    have read := Header.parse?_encode (.ofPayload payload) [] four
    rw [List.append_nil] at read
    rw [← sixteen, Bytes.flip_append_right, List.append_assoc]
    refine .inl ⟨_, payload.flip place bit, Ahead.of_announced read marked ?_ ?_ rest, ?_⟩
    · rw [announced, Bytes.length_flip]
    · rwa [Bytes.length_flip]
    · exact Checksum.crc32c_flip_ne (show place < payload.length by omega) bit

/-! ## A bit of a row -/

/-- A bit of a row belongs to one of its blocks. -/
theorem flip_row {payloads : List Bytes} {offset : Nat} (inside : offset < (row payloads).length)
    (bit : Fin 8) :
    ∃ front payload later within, payloads = front ++ payload :: later ∧
      offset = (row front).length + within ∧ within < (blockOf payload).length ∧
      (row payloads).flip offset bit =
        row front ++ ((blockOf payload).flip within bit ++ row later) := by
  induction payloads generalizing offset with
  | nil => exact absurd inside (Nat.not_lt_zero _)
  | cons payload later ih =>
    rcases Nat.lt_or_ge offset (blockOf payload).length with here | behind
    · exact ⟨[], payload, later, offset, rfl, by simp, here, Bytes.flip_append_left here _ bit⟩
    · obtain ⟨place, rfl⟩ := Nat.exists_eq_add_of_le behind
      rw [row_cons, List.length_append] at inside
      obtain ⟨front, other, rest, within, rfl, rfl, inside, flipped⟩ :=
        ih (Nat.lt_of_add_lt_add_left inside)
      refine ⟨payload :: front, other, rest, within, rfl, ?_, inside, ?_⟩
      · rw [row_cons, List.length_append, Nat.add_assoc]
      · rw [row_cons, Bytes.flip_append_right, flipped, row_cons, List.append_assoc]

/-- **A bit that is turned over** outside the magic and the length of a block is noticed by a scan
that accepts no mismatch, or changes nothing for it. -/
theorem scan_flip_cases {limit : Nat} (bounded : limit ≤ Config.largestBlockLimit) (path : Path)
    {payloads : List Bytes} (fit : ∀ payload ∈ payloads, payload.length ≤ limit) {offset : Nat}
    (elsewhere : ¬Steering payloads offset) (bit : Fin 8) (asked : List Mismatch) :
    (∃ mismatch, (scan limit .fail path ((row payloads).flip offset bit) asked).1 =
        .error (.corruption mismatch)) ∨
      scan limit .fail path ((row payloads).flip offset bit) asked =
        scan limit .fail path (row payloads) asked := by
  rcases Nat.lt_or_ge offset (row payloads).length with inside | outside
  · obtain ⟨front, payload, later, within, rfl, rfl, inside, flipped⟩ := flip_row inside bit
    have behind : steeringLength ≤ within := by
      refine Nat.le_of_not_lt fun steers => elsewhere ⟨⟨(row front).length, payload⟩, ?_, ?_, ?_⟩
      · rw [placed_append, Nat.zero_add]
        exact List.mem_append_right _ List.mem_cons_self
      · exact Nat.le_add_right _ _
      · exact Nat.add_lt_add_left steers _
    have fitFront : ∀ payload ∈ front, payload.length ≤ limit :=
      fun other member => fit other (List.mem_append_left _ member)
    have fits := fit payload (List.mem_append_right _ List.mem_cons_self)
    have total := Bytes.length_flip (row (front ++ payload :: later))
      ((row front).length + within) bit
    unfold scan
    rw [total, flipped, row_append, row_cons, pieces_row bounded 0 fitFront,
      pieces_row bounded 0 fitFront, Recovery.ofPieces, Recovery.ofPieces, judge_append,
      judge_append]
    rcases ahead_flip_cases bounded fits behind inside bit (row later) with
      ⟨header, body, ahead, differs⟩ | same
    · left
      rw [pieces_of_ahead _ ahead]
      simp only [judge_fail_of_mismatch _ _ differs]
      exact ⟨_, rfl⟩
    · right
      rw [pieces_of_ahead _ same, pieces_of_ahead _ (Ahead.of_blockOf (row later) bounded fits)]
  · right
    rw [Bytes.flip_of_le outside]

/-- A header in whose magic a bit is turned over is no header. -/
theorem Header.hasMagic_flip {header header' : Header} (marked : header.mark = magic) {within : Nat}
    (inside : within < magic.length) (bit : Fin 8) {rest : Bytes}
    (read : parse? (header.encode.flip within bit) = some (header', rest)) :
    header'.hasMagic = false := by
  rw [hasMagic_of_parse? read, encode_eq, marked, List.append_assoc,
    Bytes.flip_append_left inside, Bool.eq_false_iff]
  intro front
  obtain ⟨_, same⟩ := List.isPrefixOf_iff_prefix.1 front
  exact Bytes.flip_ne inside bit (List.append_inj_left same (Bytes.length_flip ..).symm).symm

/-- The scan passes over a block in whose magic a bit is turned over, if it meets no other magic
there. -/
theorem scan_flip_magic {limit : Nat} (bounded : limit ≤ Config.largestBlockLimit)
    (policy : Policy) (path : Path) {front later : List Bytes} {payload : Bytes}
    (fitFront : ∀ payload ∈ front, payload.length ≤ limit)
    (fitLater : ∀ payload ∈ later, payload.length ≤ limit) {within : Nat}
    (inside : within < magic.length) (bit : Fin 8)
    (quiet : Quiet (((blockOf payload).flip within bit).drop 1)) (asked : List Mismatch) :
    ∃ recovery, scan limit policy path
        (row front ++ ((blockOf payload).flip within bit ++ row later)) asked =
          (.ok recovery, asked) ∧
      recovery.payloads = front ++ later := by
  let head := (Header.ofPayload payload).encode.flip within bit
  have sixteen : head.length = headerLength := by
    rw [Bytes.length_flip, Header.length_encode_ofPayload]
  obtain ⟨header, read⟩ := Header.parse?_of_length (Nat.le_of_eq sixteen.symm)
  rw [List.drop_eq_nil_of_le (Nat.le_of_eq sixteen)] at read
  have inadmissible : header.admissible limit = false := by
    rw [Header.admissible, Header.hasMagic_flip rfl inside bit read, Bool.false_and]
  have flipped : (blockOf payload).flip within bit = head ++ payload := by
    have four : magic.length ≤ headerLength := by decide
    refine Bytes.flip_append_left ?_ payload bit
    rw [Header.length_encode_ofPayload]
    exact Nat.lt_of_lt_of_le inside four
  -- The block has lost its header, so the scan treats it like any other of that kind.
  let damage : HeaderDamage := { front, head, header, payload, later, read }
  have silent : Quiet (damage.leftover limit) := by
    rw [HeaderDamage.leftover, inadmissible, if_neg Bool.false_ne_true, ← flipped]
    exact quiet
  have cut : pieces limit (row front).length (head ++ (payload ++ row later)) =
      .garbage :: pieces limit damage.stop (row later) :=
    damage.tail_of_inadmissible inadmissible silent
  rw [flipped, List.append_assoc, scan, pieces_row bounded 0 fitFront, Nat.zero_add, cut,
    Recovery.ofPieces, judge_append, judge, judge_row bounded policy path _ fitLater]
  refine ⟨_, rfl, ?_⟩
  simp [Recovery.payloads, Recovery.ofTally, Tally.pass]

end DurableStore
