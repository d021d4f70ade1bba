import DurableStore.Block.Sparse
import DurableStore.Proofs.Block.Row

/-!
What a scan makes of bytes that are not a row of blocks.

* **whatever the bytes are** — every block that is found lies inside the file and is no longer than
  the limit, and the file is cut off nowhere but inside it (`scan_extent`);
* **damage in front of a row** — bytes in which no magic stands are passed over, and the scan goes
  on with the row behind them (`pieces_of_quiet`, `pieces_of_inadmissible`).  The magic cannot
  stand half in the damaged bytes and half in the row, because none of its bytes but the first is
  the one a row begins with (`gapBefore?_quiet`).
-/

namespace DurableStore

/-! ## Reading a header off any bytes -/

namespace Header

theorem parse?_of_length {bytes : Bytes} (long : headerLength ≤ bytes.length) :
    ∃ header, parse? bytes = some (header, bytes.drop headerLength) := by
  unfold headerLength at long
  match bytes, long with
  | _ :: _ :: _ :: _ :: _ :: _ :: _ :: _ :: _ :: _ :: _ :: _ :: _ :: _ :: _ :: _ :: rest, _ =>
    exact ⟨_, rfl⟩

theorem parse?_append {head rest : Bytes} {header : Header}
    (read : parse? head = some (header, rest)) (later : Bytes) :
    parse? (head ++ later) = some (header, rest ++ later) := by
  unfold parse? at read
  split at read
  next =>
    obtain ⟨rfl, rfl⟩ := Prod.mk.inj (Option.some.inj read)
    rfl
  next => cases read

theorem hasMagic_of_parse? {bytes rest : Bytes} {header : Header}
    (read : parse? bytes = some (header, rest)) :
    header.hasMagic = magic.isPrefixOf bytes := by
  unfold parse? at read
  split at read
  next =>
    obtain ⟨rfl, rfl⟩ := Prod.mk.inj (Option.some.inj read)
    rw [Bool.eq_iff_iff, List.isPrefixOf_iff_prefix]
    simp only [hasMagic, magic, beq_iff_eq]
    constructor
    · intro same
      obtain ⟨rfl, rfl, rfl, rfl, -⟩ := by simpa only [List.cons.injEq] using same
      exact List.prefix_append [_, _, _, _] _
    · rintro ⟨later, same⟩
      obtain ⟨rfl, rfl, rfl, rfl, -⟩ := by
        simpa only [List.cons_append, List.cons.injEq] using same
      rfl
  next => cases read

end Header

/-! ## Whatever the bytes are -/

namespace Ahead

theorem of_eq_complete {limit : Nat} {bytes payload rest : Bytes} {header : Header}
    (ahead : of limit bytes = .complete header payload rest) :
    header.length.toNat = payload.length ∧ payload.length ≤ limit := by
  unfold of at ahead
  split at ahead
  next => cases ahead
  next =>
    split at ahead
    next => cases ahead
    next =>
      split at ahead
      next fits =>
        split at ahead
        next => cases ahead
        next halves =>
          cases ahead
          have whole := (Bytes.splitExactly?_eq_some halves).2
          simp only [Header.admissible, Bool.and_eq_true, decide_eq_true_eq] at fits
          exact ⟨whole.symm, whole ▸ fits.2⟩
      next => cases ahead

/-- What lies ahead behind an admissible header is decided by its length alone. -/
theorem of_admissible {limit : Nat} {head : Bytes} {header : Header}
    (read : Header.parse? head = some (header, [])) (admissible : header.admissible limit = true)
    (body : Bytes) :
    of limit (head ++ body) =
      match Bytes.splitExactly? header.length.toNat body with
      | none => .torn
      | some (payload, rest) => .complete header payload rest := by
  have whole := Header.parse?_append read body
  have long := Header.length_of_parse? read
  cases head with
  | nil => cases long
  | cons byte later =>
    rw [List.cons_append] at whole ⊢
    unfold of
    rw [whole]
    cases halves : Bytes.splitExactly? header.length.toNat body with
    | none => simp only [admissible, if_true, List.nil_append, halves]
    | some parts => simp only [admissible, if_true, List.nil_append, halves]

theorem ne_nil_of_torn {limit : Nat} {bytes : Bytes} (ahead : of limit bytes = .torn) :
    0 < bytes.length := by
  cases bytes with
  | nil => cases ahead
  | cons => exact Nat.succ_pos _

end Ahead

/-- A piece lies in a file from `start` up to `stop`. -/
def Piece.Within (limit start stop : Nat) : Piece → Prop
  | .block offset header payload =>
    start ≤ offset ∧ offset + headerLength + payload.length ≤ stop ∧
      header.length.toNat = payload.length ∧ payload.length ≤ limit
  | .garbage => True
  | .torn offset => start ≤ offset ∧ offset < stop

theorem Piece.Within.mono {limit start start' stop : Nat} {piece : Piece}
    (h : piece.Within limit start' stop) (before : start ≤ start') :
    piece.Within limit start stop := by
  cases piece with
  | block => exact ⟨Nat.le_trans before h.1, h.2⟩
  | garbage => trivial
  | torn => exact ⟨Nat.le_trans before h.1, h.2⟩

/-- However the bytes are damaged, the pieces lie one behind another inside them. -/
theorem pieces_within (limit offset : Nat) (bytes : Bytes) :
    ∀ piece ∈ pieces limit offset bytes, piece.Within limit offset (offset + bytes.length) := by
  fun_induction pieces limit offset bytes with
  | case1 => simp
  | case2 offset bytes ahead =>
    intro piece member
    rw [List.mem_singleton.1 member]
    have := Ahead.ne_nil_of_torn ahead
    show offset ≤ offset ∧ offset < offset + bytes.length
    omega
  | case3 =>
    intro piece member
    rw [List.mem_singleton.1 member]
    trivial
  | case4 offset bytes gap rest ahead _ ih =>
    have lengths := (Ahead.length_of_garbage ahead).1
    intro piece member
    rcases List.mem_cons.1 member with rfl | member
    · trivial
    · have inside := ih piece member
      rw [Nat.add_assoc, lengths] at inside
      exact inside.mono (Nat.le_add_right offset gap)
  | case5 offset bytes header payload rest ahead _ ih =>
    have lengths := Ahead.length_of_complete ahead
    obtain ⟨announced, fits⟩ := Ahead.of_eq_complete ahead
    intro piece member
    rcases List.mem_cons.1 member with rfl | member
    · refine ⟨Nat.le_refl _, ?_, announced, fits⟩
      omega
    · have inside := ih piece member
      have total : offset + headerLength + payload.length + rest.length =
          offset + bytes.length := by omega
      rw [total] at inside
      exact inside.mono (by omega)

section Verdicts

variable {path : Path} {offset : Nat} {header : Header} {payload : Bytes}

theorem judge_of_match (policy : Policy) (verified : Checksum.crc32c payload = header.checksum)
    (later : List Piece) (asked : List Mismatch) :
    judge policy path (.block offset header payload :: later) asked =
      ((judge policy path later asked).1.map (Tally.keep offset payload),
        (judge policy path later asked).2) := by
  simp only [judge, if_pos verified]

/-- What a policy is told about a block that could not be verified. -/
def Mismatch.ofBlock (path : Path) (offset : Nat) (header : Header) (payload : Bytes) : Mismatch :=
  ⟨path, offset + headerLength, offset + headerLength + payload.length, header.checksum,
    Checksum.crc32c payload⟩

/-- A policy is asked about a block that cannot be verified. -/
theorem judge_of_mismatch (policy : Policy) (damaged : Checksum.crc32c payload ≠ header.checksum)
    (later : List Piece) (asked : List Mismatch) :
    judge policy path (.block offset header payload :: later) asked =
      let mismatch := .ofBlock path offset header payload
      match policy.verdict asked mismatch with
      | .error fault => (.error fault, asked ++ [mismatch])
      | .ok () =>
        ((judge policy path later (asked ++ [mismatch])).1.map Tally.pass,
          (judge policy path later (asked ++ [mismatch])).2) := by
  simp only [judge, if_neg damaged]
  rfl

theorem judge_skip_of_mismatch (damaged : Checksum.crc32c payload ≠ header.checksum)
    (later : List Piece) (asked : List Mismatch) :
    judge .skip path (.block offset header payload :: later) asked =
      ((judge .skip path later (asked ++ [.ofBlock path offset header payload])).1.map Tally.pass,
        (judge .skip path later (asked ++ [.ofBlock path offset header payload])).2) :=
  judge_of_mismatch .skip damaged later asked

theorem judge_fail_of_mismatch (path : Path) (offset : Nat)
    (damaged : Checksum.crc32c payload ≠ header.checksum) (later : List Piece)
    (asked : List Mismatch) :
    (judge .fail path (.block offset header payload :: later) asked).1 =
      .error (.corruption (.ofBlock path offset header payload)) := by
  rw [judge_of_mismatch .fail damaged]
  rfl

end Verdicts

/-- What was made of a judgement shows what was judged. -/
theorem judged_of_map {α β : Type} {judged : Except Fault α × List Mismatch} {change : α → β}
    {made : β} {asked : List Mismatch}
    (h : (judged.1.map change, judged.2) = (.ok made, asked)) :
    ∃ before, judged = (.ok before, asked) ∧ made = change before := by
  obtain ⟨result, asked'⟩ := judged
  cases result with
  | error fault => cases h
  | ok before =>
    cases h
    exact ⟨before, rfl, rfl⟩

/-- What is found are verified pieces of the file, and where it breaks off is a piece of it,
whatever the policy is. -/
theorem judge_pieces {policy : Policy} {path : Path} {pieces : List Piece}
    {asked asked' : List Mismatch} {tally : Tally}
    (h : judge policy path pieces asked = (.ok tally, asked')) :
    (∀ found ∈ tally.found, ∃ header, .block found.offset header found.payload ∈ pieces ∧
        Checksum.crc32c found.payload = header.checksum) ∧
      ∀ offset, tally.tornAt = some offset → .torn offset ∈ pieces := by
  induction pieces generalizing asked tally with
  | nil =>
    cases h
    simp
  | cons piece later ih =>
    -- A piece that is passed over adds nothing to what comes behind it.
    have pass {asked : List Mismatch}
        (h : ((judge policy path later asked).1.map Tally.pass,
          (judge policy path later asked).2) = (.ok tally, asked')) :
        (∀ found ∈ tally.found, ∃ header,
            .block found.offset header found.payload ∈ piece :: later ∧
              Checksum.crc32c found.payload = header.checksum) ∧
          ∀ offset, tally.tornAt = some offset → .torn offset ∈ piece :: later := by
      obtain ⟨before, rest, rfl⟩ := judged_of_map h
      obtain ⟨found, torn⟩ := ih rest
      refine ⟨fun block member => ?_, fun offset at_ => List.mem_cons_of_mem _ (torn offset at_)⟩
      obtain ⟨header, member, verified⟩ := found block member
      exact ⟨header, List.mem_cons_of_mem _ member, verified⟩
    cases piece with
    | torn offset =>
      cases h
      simp
    | garbage => exact pass h
    | block offset header payload =>
      simp only [judge] at h
      split at h
      next intact =>
        obtain ⟨before, rest, rfl⟩ := judged_of_map h
        obtain ⟨found, torn⟩ := ih rest
        refine ⟨fun block member => ?_,
          fun offset at_ => List.mem_cons_of_mem _ (torn offset at_)⟩
        rcases List.mem_cons.1 member with rfl | member
        · exact ⟨header, List.mem_cons_self, intact⟩
        · obtain ⟨header, member, verified⟩ := found block member
          exact ⟨header, List.mem_cons_of_mem _ member, verified⟩
      next =>
        split at h
        next => cases h
        next => exact pass h

/-- **A scan finds nothing outside the file** and nothing longer than the limit, and it cuts the
file off at most where it is. -/
theorem scan_extent {limit : Nat} {policy : Policy} {path : Path} {content : Bytes}
    {asked asked' : List Mismatch} {recovery : Recovery}
    (h : scan limit policy path content asked = (.ok recovery, asked')) :
    (∀ found ∈ recovery.found, found.offset + headerLength + found.payload.length ≤
        content.length ∧ found.payload.length ≤ limit) ∧
      (∀ offset, recovery.tornAt = some offset → offset < content.length) ∧
      recovery.validLength = recovery.tornAt.getD content.length := by
  have within := pieces_within limit 0 content
  obtain ⟨tally, judged, rfl⟩ := judged_of_map h
  obtain ⟨found, torn⟩ := judge_pieces judged
  rw [Nat.zero_add] at within
  refine ⟨fun block member => ?_, fun offset at_ => (within _ (torn offset at_)).2, rfl⟩
  obtain ⟨header, piece, -⟩ := found block member
  obtain ⟨-, inside, -, fits⟩ := within _ piece
  exact ⟨inside, fits⟩

/-- Whatever stands behind a row, its payloads are found first. -/
theorem prefix_of_scan {limit : Nat} (bounded : limit ≤ Config.largestBlockLimit)
    {policy : Policy} {path : Path} {front : List Bytes} {rest : Bytes}
    (fit : ∀ payload ∈ front, payload.length ≤ limit) {asked asked' : List Mismatch}
    {recovery : Recovery}
    (scanned : scan limit policy path (row front ++ rest) asked = (.ok recovery, asked')) :
    front <+: recovery.payloads := by
  rw [scan, pieces_row bounded 0 fit, Recovery.ofPieces] at scanned
  obtain ⟨tally, judged, rfl⟩ := judged_of_map scanned
  rw [judge_append] at judged
  obtain ⟨behind, -, rfl⟩ := judged_of_map judged
  simp [Recovery.payloads, Recovery.ofTally]

/-! ## Damage in front of a row -/

/-- The magic stands nowhere in the bytes. -/
def Quiet (bytes : Bytes) : Prop :=
  nextMagic? bytes = none

instance (bytes : Bytes) : Decidable (Quiet bytes) :=
  inferInstanceAs (Decidable (nextMagic? bytes = none))

theorem quiet_cons {byte : UInt8} {rest : Bytes} :
    Quiet (byte :: rest) ↔ magic.isPrefixOf (byte :: rest) = false ∧ Quiet rest := by
  unfold Quiet
  rw [nextMagic?]
  cases magic.isPrefixOf (byte :: rest) <;> simp

/-- The front of a row looks like the front of the magic, or there is none. -/
theorem take_row (payloads : List Bytes) :
    (row payloads).take (magic.length - 1) = if payloads = [] then [] else [0x4B, 0x53, 0x54] := by
  cases payloads with
  | nil => rfl
  | cons payload later => rfl

/-- The magic does not straddle the place where a row begins. -/
theorem gapBefore?_quiet (later : List Bytes) {junk : Bytes} (quiet : Quiet junk) :
    gapBefore? ((row later).take (magic.length - 1)) junk = none := by
  rw [take_row]
  induction junk with
  | nil => rfl
  | cons byte rest ih =>
    obtain ⟨front, behind⟩ := quiet_cons.1 quiet
    have here : magic.isPrefixOf ((byte :: rest).take magic.length ++
        if later = [] then [] else [0x4B, 0x53, 0x54]) = false := by
      -- Either four bytes are left, or the row's first byte stands where another has to.
      match rest with
      | [] => split <;> simp [magic, List.isPrefixOf]
      | [_] => split <;> simp [magic, List.isPrefixOf]
      | [_, _] => split <;> simp [magic, List.isPrefixOf]
      | _ :: _ :: _ :: _ => simpa [magic, List.isPrefixOf] using front
    rw [gapBefore?, here, ih behind]
    rfl

theorem nextMagic?_row (later : List Bytes) :
    nextMagic? (row later) = if later = [] then none else some (0, row later) := by
  cases later with
  | nil => rfl
  | cons payload later => rfl

/-- The search goes on to the row. -/
theorem nextMagic?_quiet {junk : Bytes} (quiet : Quiet junk) (later : List Bytes) :
    nextMagic? (junk ++ row later) =
      if later = [] then none else some (junk.length, row later) := by
  rw [nextMagic?_append, gapBefore?_quiet later quiet, nextMagic?_row]
  cases later with
  | nil => rfl
  | cons payload later => rfl

/-- No header stands where no magic does. -/
theorem inadmissible_of_quiet {limit : Nat} {junk rest : Bytes} {header : Header}
    (quiet : Quiet junk) (nonempty : junk ≠ []) {later : List Bytes}
    (read : Header.parse? (junk ++ row later) = some (header, rest)) :
    header.admissible limit = false := by
  have next := nextMagic?_quiet quiet later
  have front : magic.isPrefixOf (junk ++ row later) = false := by
    cases junk with
    | nil => exact absurd rfl nonempty
    | cons byte behind =>
      rw [List.cons_append, nextMagic?] at next
      split at next
      next => split at next <;> simp at next
      next absent => exact Bool.eq_false_iff.2 absent
  rw [Header.admissible, Header.hasMagic_of_parse? read, front, Bool.false_and]

/-- Bytes that are no admissible header are passed over, up to the row. -/
theorem pieces_of_inadmissible {limit : Nat} (offset : Nat) {byte : UInt8} {junk rest : Bytes}
    {header : Header} {later : List Bytes}
    (read : Header.parse? (byte :: junk ++ row later) = some (header, rest))
    (inadmissible : header.admissible limit = false) (quiet : Quiet junk) :
    pieces limit offset (byte :: junk ++ row later) =
      .garbage :: pieces limit (offset + (byte :: junk).length) (row later) := by
  have ahead : Ahead.of limit (byte :: (junk ++ row later)) =
      .garbage ((nextMagic? (junk ++ row later)).map fun next => (next.1 + 1, next.2)) := by
    rw [List.cons_append] at read
    unfold Ahead.of
    simp only [read, inadmissible, Bool.false_eq_true, if_false]
  rw [nextMagic?_quiet quiet] at ahead
  rw [List.cons_append, pieces_of_ahead offset ahead]
  cases later with
  | nil => simp [pieces_nil]
  | cons payload later => rfl

/-- Bytes without a magic are passed over, up to the row; with no row behind them they may be too
short for a header. -/
theorem pieces_of_quiet (limit offset : Nat) {junk : Bytes} (quiet : Quiet junk)
    (nonempty : junk ≠ []) (later : List Bytes) :
    pieces limit offset (junk ++ row later) =
        .garbage :: pieces limit (offset + junk.length) (row later) ∨
      later = [] ∧ pieces limit offset (junk ++ row later) = [.torn offset] := by
  cases junk with
  | nil => exact absurd rfl nonempty
  | cons byte junk =>
    cases read : Header.parse? (byte :: junk ++ row later) with
    | some parsed =>
      obtain ⟨header, rest⟩ := parsed
      exact .inl (pieces_of_inadmissible offset read (inadmissible_of_quiet quiet nonempty read)
        (quiet_cons.1 quiet).2)
    | none =>
      have short : (byte :: junk ++ row later).length < headerLength := by
        refine Nat.lt_of_not_le fun long => ?_
        obtain ⟨header, found⟩ := Header.parse?_of_length long
        rw [read] at found
        cases found
      have last : later = [] := by
        cases later with
        | nil => rfl
        | cons payload later =>
          rw [row_cons, List.length_append, List.length_append, length_blockOf] at short
          omega
      have ahead : Ahead.of limit (byte :: (junk ++ row later)) = .torn := by
        rw [List.cons_append] at read
        unfold Ahead.of
        simp only [read]
      refine .inr ⟨last, ?_⟩
      rw [List.cons_append, pieces_of_ahead offset ahead]

/-- Bytes without a magic hide nothing of the row behind them. -/
theorem judge_quiet {limit : Nat} (bounded : limit ≤ Config.largestBlockLimit) (policy : Policy)
    (path : Path) (offset : Nat) {junk : Bytes} (quiet : Quiet junk) {later : List Bytes}
    (fit : ∀ payload ∈ later, payload.length ≤ limit) (asked : List Mismatch) :
    ∃ tally, judge policy path (pieces limit offset (junk ++ row later)) asked =
        (.ok tally, asked) ∧
      tally.found = placed (offset + junk.length) later ∧
      ∀ cut, tally.tornAt = some cut → later = [] ∧ cut = offset := by
  have rest := judge_row bounded policy path (offset + junk.length) fit asked
  by_cases empty : junk = []
  · subst empty
    exact ⟨_, rest, rfl, by simp⟩
  rcases pieces_of_quiet limit offset quiet empty later with passed | ⟨rfl, broken⟩
  · rw [passed, judge, rest]
    exact ⟨_, rfl, rfl, by simp [Tally.pass]⟩
  · rw [broken]
    refine ⟨_, rfl, rfl, ?_⟩
    intro cut same
    exact ⟨rfl, (Option.some.inj same).symm⟩

end DurableStore
