import DurableStore.Proofs.Block.Trail

/-!
Scanning with an offset into a buffer.

A scan takes blocks off the front of a list, so it cannot read outside.  A loop over a buffer can:
it reads a header, a payload or four bytes that may be the magic at an offset, and it has to get on
with every turn.  Here such a loop is written down with reads that fail outside the buffer
(`Bytes.slice?`) and with a number of turns after which it gives up.

* `Cursor.search?_eq` — the search for the next magic reads inside the buffer;
* `Cursor.loop?_eq` — from any offset inside the buffer, no read fails and the turns suffice;
* `Cursor.scan?_eq` — so the loop gives what the scan gives, with one turn more than there are
  bytes.
-/

namespace DurableStore

/-! ## What lies ahead of an offset -/

theorem Bytes.slice?_drop {buffer : Bytes} {start : Nat} (count : Nat)
    (inside : start + count ≤ buffer.length) :
    buffer.slice? start (start + count) = some ((buffer.drop start).take count) := by
  have ordered : start ≤ start + count ∧ start + count ≤ buffer.length := by omega
  rw [slice?, if_pos ordered, Nat.add_sub_cancel_left]

/-- What lies ahead behind a header that can be read. -/
theorem Ahead.of_read (limit : Nat) {bytes body : Bytes} {header : Header}
    (read : Header.parse? bytes = some (header, body)) :
    of limit bytes =
      if header.admissible limit then
        match Bytes.splitExactly? header.length.toNat body with
        | none => .torn
        | some (payload, rest) => .complete header payload rest
      else .garbage ((nextMagic? bytes.tail).map fun (gap, found) => (gap + 1, found)) := by
  cases bytes with
  | nil => cases read
  | cons byte later =>
    unfold of
    cases halves : Bytes.splitExactly? header.length.toNat body with
    | none => simp only [read, halves, List.tail_cons]
    | some parts => simp only [read, halves, List.tail_cons]

theorem Bytes.splitExactly?_of_le {count : Nat} {bytes : Bytes} (long : count ≤ bytes.length) :
    splitExactly? count bytes = some (bytes.take count, bytes.drop count) := by
  have full : (bytes.take count).length = count := by
    rw [List.length_take]
    omega
  simp only [splitExactly?, full, if_true]

/-- A range inside the buffer is verified; only the policy can refuse it. -/
theorem verifyRange_inside (policy : Policy) (path : Path) {buffer : Bytes} {start count : Nat}
    (inside : start + count ≤ buffer.length) (expected : UInt32) (asked : List Mismatch) :
    verifyRange policy path 0 buffer start (start + count) expected asked =
      let actual := Checksum.crc32c ((buffer.drop start).take count)
      if actual = expected then (.ok true, asked)
      else
        let found : Mismatch := ⟨path, start, start + count, expected, actual⟩
        match policy.verdict asked found with
        | .error fault => (.error fault, asked ++ [found])
        | .ok () => (.ok false, asked ++ [found]) := by
  have checked : checkedChecksum buffer start (start + count) =
      .ok (Checksum.crc32c ((buffer.drop start).take count)) := by
    unfold checkedChecksum Checksum.rangeChecksum?
    rw [Bytes.slice?_drop count inside]
    rfl
  unfold verifyRange
  cases verdict : policy.verdict asked ⟨path, start, start + count, expected,
      Checksum.crc32c ((buffer.drop start).take count)⟩ with
  | error fault => simp only [checked, Nat.zero_add, verdict]
  | ok accepted => simp only [checked, Nat.zero_add, verdict]

namespace Cursor

/-! ## Reads that may fail -/

/-- The header at an offset. -/
def header? (buffer : Bytes) (offset : Nat) : Option Header := do
  let bytes ← buffer.slice? offset (offset + headerLength)
  let (header, _) ← Header.parse? bytes
  return header

/-- Looks for the magic at so many places, one after another, from an offset on: `none` if a read
fails, and otherwise where it was found, if it was. -/
def search? (buffer : Bytes) (offset : Nat) : (places : Nat) → Option (Option Nat)
  | 0 => some none
  | places + 1 => do
    let bytes ← buffer.slice? offset (offset + magic.length)
    if bytes = magic then return some offset else search? buffer (offset + 1) places

/-- How many places there are from an offset on at which the magic has room. -/
def places (buffer : Bytes) (offset : Nat) : Nat :=
  buffer.length + 1 - magic.length - offset

theorem header?_eq {buffer : Bytes} {offset : Nat}
    (inside : offset + headerLength ≤ buffer.length) :
    ∃ header, header? buffer offset = some header ∧
      Header.parse? (buffer.drop offset) = some (header, buffer.drop (offset + headerLength)) := by
  have long : headerLength ≤ (buffer.drop offset).length := by
    rw [List.length_drop]
    omega
  obtain ⟨header, read⟩ := Header.parse?_of_length long
  have front := Header.parse?_take (buffer.drop offset)
  rw [read] at front
  obtain ⟨⟨header', rest⟩, taken, same⟩ := Option.map_eq_some_iff.1 front.symm
  obtain ⟨rfl, -⟩ := Prod.mk.inj same
  refine ⟨header', ?_, ?_⟩
  · unfold header?
    rw [Bytes.slice?_drop headerLength inside]
    simp [taken]
  · rw [read, List.drop_drop]

/-- **The search reads inside the buffer** and finds the next magic. -/
theorem search?_eq (buffer : Bytes) (offset : Nat) :
    search? buffer offset (places buffer offset) =
      some ((nextMagic? (buffer.drop offset)).map fun (gap, _) => offset + gap) := by
  generalize left : places buffer offset = count
  induction count generalizing offset with
  | zero =>
    -- What is left is shorter than the magic.
    have short : (buffer.drop offset).length < magic.length := by
      rw [List.length_drop]
      simp only [places, magic, List.length_cons, List.length_nil] at left ⊢
      omega
    cases next : nextMagic? (buffer.drop offset) with
    | none => rfl
    | some position =>
      obtain ⟨gap, found⟩ := position
      obtain ⟨-, lengths, front⟩ := nextMagic?_eq_some next
      have := front.length_le
      omega
  | succ count ih =>
    have room : offset + magic.length ≤ buffer.length := by
      simp only [places, magic, List.length_cons, List.length_nil] at left ⊢
      omega
    have fewer : places buffer (offset + 1) = count := by
      unfold places at left ⊢
      omega
    have within : offset < buffer.length := by
      simp only [magic, List.length_cons, List.length_nil] at room
      omega
    have front := List.drop_eq_getElem_cons within
    have here : (buffer.drop offset).take magic.length = magic ↔
        magic.isPrefixOf (buffer.drop offset) = true := by
      rw [List.isPrefixOf_iff_prefix, List.prefix_iff_eq_take]
      exact eq_comm
    unfold search?
    rw [Bytes.slice?_drop magic.length room]
    simp only [Option.bind_eq_bind, Option.bind_some, here]
    rw [front, nextMagic?]
    split
    next => rfl
    next =>
      rw [ih (offset + 1) fewer]
      simp only [Option.map_map]
      congr 2
      funext position
      obtain ⟨gap, found⟩ := position
      simp only [Function.comp]
      omega

/-! ## The loop -/

/-- Scans a buffer from an offset on, with what was found and passed over so far: `none` if a read
fails or the turns are used up. -/
def loop? (limit : Nat) (policy : Policy) (path : Path) (buffer : Bytes) :
    (turns offset : Nat) → List Found → (skipped : Nat) → List Mismatch →
      Option (Except Fault Tally × List Mismatch)
  | 0, _, _, _, _ => none
  | turns + 1, offset, found, skipped, asked =>
    if buffer.length ≤ offset then some (.ok { found, skipped }, asked)
    else if buffer.length < offset + headerLength then
      some (.ok { found, skipped, tornAt := some offset }, asked)
    else do
      let header ← header? buffer offset
      if header.admissible limit then
        let start := offset + headerLength
        let stop := start + header.length.toNat
        if buffer.length < stop then some (.ok { found, skipped, tornAt := some offset }, asked)
        else
          match verifyRange policy path 0 buffer start stop header.checksum asked with
          | (.error fault, asked) => some (.error fault, asked)
          | (.ok true, asked) => do
            let payload ← buffer.slice? start stop
            loop? limit policy path buffer turns stop (found ++ [⟨offset, payload⟩]) skipped asked
          | (.ok false, asked) =>
            loop? limit policy path buffer turns stop found (skipped + 1) asked
      else
        match ← search? buffer (offset + 1) (places buffer (offset + 1)) with
        | none => some (.ok { found, skipped := skipped + 1 }, asked)
        | some next => loop? limit policy path buffer turns next found (skipped + 1) asked

/-- Scans the whole buffer. -/
def scan? (limit : Nat) (policy : Policy) (path : Path) (buffer : Bytes) (asked : List Mismatch) :
    Option (Except Fault Recovery × List Mismatch) :=
  (loop? limit policy path buffer (buffer.length + 1) 0 [] 0 asked).map
    fun (tally, asked) => (tally.map (Recovery.ofTally buffer.length), asked)

variable {limit : Nat} {policy : Policy} {path : Path} {buffer : Bytes}

/-- What is gathered from the pieces of the buffer from an offset on, behind what was gathered. -/
def gathered (limit : Nat) (policy : Policy) (path : Path) (buffer : Bytes) (offset : Nat)
    (found : List Found) (skipped : Nat) (asked : List Mismatch) :
    Except Fault Tally × List Mismatch :=
  let judged := judge policy path (pieces limit offset (buffer.drop offset)) asked
  (judged.1.map (Tally.join { found, skipped }), judged.2)

theorem gathered_keep (found : List Found) (skipped offset : Nat) (payload : Bytes)
    (result : Except Fault Tally) :
    (result.map (Tally.keep offset payload)).map (Tally.join { found, skipped }) =
      result.map (Tally.join { found := found ++ [⟨offset, payload⟩], skipped }) := by
  cases result with
  | error fault => rfl
  | ok back => simp [Except.map, Tally.join, Tally.keep]

theorem gathered_pass (found : List Found) (skipped : Nat) (result : Except Fault Tally) :
    (result.map Tally.pass).map (Tally.join { found, skipped }) =
      result.map (Tally.join { found, skipped := skipped + 1 }) := by
  cases result with
  | error fault => rfl
  | ok back =>
    simp only [Except.map, Tally.join, Tally.pass, Except.ok.injEq, Tally.mk.injEq, and_true,
      true_and]
    omega

/-- **No read fails and the turns suffice**: every turn gets on by at least one byte. -/
theorem loop?_eq (turns offset : Nat) (inside : offset ≤ buffer.length)
    (enough : buffer.length < turns + offset) (found : List Found) (skipped : Nat)
    (asked : List Mismatch) :
    loop? limit policy path buffer turns offset found skipped asked =
      some (gathered limit policy path buffer offset found skipped asked) := by
  induction turns generalizing offset found skipped asked with
  | zero => omega
  | succ turns ih =>
    have sixteen : headerLength = 16 := rfl
    unfold loop? gathered
    by_cases ends : buffer.length ≤ offset
    · rw [if_pos ends, List.drop_eq_nil_of_le ends, pieces_nil]
      simp [judge, Except.map, Tally.join]
    rw [if_neg ends]
    have some_left : buffer.drop offset ≠ [] := by
      intro empty
      exact ends (List.drop_eq_nil_iff.1 empty)
    by_cases short : buffer.length < offset + headerLength
    · have ahead : Ahead.of limit (buffer.drop offset) = .torn := by
        refine Ahead.of_short limit some_left ?_
        rw [List.length_drop]
        omega
      rw [if_pos short, pieces_of_ahead offset ahead]
      simp [judge, Except.map, Tally.join]
    rw [if_neg short]
    obtain ⟨header, read, parsed⟩ := header?_eq (Nat.le_of_not_lt short)
    rw [read]
    simp only [Option.bind_eq_bind, Option.bind_some]
    by_cases admissible : header.admissible limit = true
    · have ahead := Ahead.of_read limit parsed
      rw [if_pos admissible] at ahead
      rw [if_pos admissible]
      by_cases beyond : buffer.length < offset + headerLength + header.length.toNat
      · rw [Bytes.splitExactly?_eq_none_iff.2 (by rw [List.length_drop]; omega)] at ahead
        rw [if_pos beyond, pieces_of_ahead offset ahead]
        simp [judge, Except.map, Tally.join]
      · have room : offset + headerLength + header.length.toNat ≤ buffer.length :=
          Nat.le_of_not_lt beyond
        have slice := Bytes.slice?_drop header.length.toNat room
        have checked := verifyRange_inside policy path room header.checksum asked
        rw [Bytes.splitExactly?_of_le (by rw [List.length_drop]; omega), List.drop_drop] at ahead
        have full : ((buffer.drop (offset + headerLength)).take header.length.toNat).length =
            header.length.toNat := by
          rw [List.length_take, List.length_drop]
          omega
        generalize (buffer.drop (offset + headerLength)).take header.length.toNat = payload
          at slice checked ahead full
        rw [← full] at slice checked ahead room beyond ⊢
        rw [if_neg beyond, pieces_of_ahead offset ahead]
        by_cases verified : Checksum.crc32c payload = header.checksum
        · -- The block is intact, so its payload is read and kept.
          simp only [if_pos verified] at checked
          simp only [checked, slice, Option.bind_some, judge_of_match policy verified]
          rw [ih _ room (by omega), gathered, gathered_keep]
        · simp only [if_neg verified] at checked
          simp only [checked, judge, if_neg verified]
          cases verdict : policy.verdict asked _ with
          | error fault => rfl
          | ok accepted =>
            simp only
            rw [ih _ room (by omega), gathered, gathered_pass]
    · rw [if_neg admissible]
      have ahead := Ahead.of_read limit parsed
      rw [if_neg admissible, List.tail_drop] at ahead
      rw [search?_eq]
      simp only [Option.bind_some]
      cases next : nextMagic? (buffer.drop (offset + 1)) with
      | none =>
        rw [next] at ahead
        rw [pieces_of_ahead offset ahead]
        simp [judge, Except.map, Tally.join, Tally.pass]
      | some position =>
        obtain ⟨gap, rest⟩ := position
        obtain ⟨rfl, lengths, -⟩ := nextMagic?_eq_some next
        simp only [List.length_drop] at lengths
        have onward : offset + (gap + 1) = offset + 1 + gap := by omega
        have resumes : Ahead.of limit (buffer.drop offset) =
            .garbage (some (gap + 1, buffer.drop (offset + 1 + gap))) := by
          rw [ahead, next, List.drop_drop]
          rfl
        rw [pieces_of_ahead offset resumes]
        simp only [Option.map_some, judge, onward]
        rw [ih _ (by omega) (by omega), gathered, gathered_pass]

/-- **Reading the buffer by offset** gives what the scan gives; no read is outside, and there is an
end to it. -/
theorem scan?_eq (limit : Nat) (policy : Policy) (path : Path) (buffer : Bytes)
    (asked : List Mismatch) :
    scan? limit policy path buffer asked = some (scan limit policy path buffer asked) := by
  unfold scan?
  rw [loop?_eq (buffer.length + 1) 0 (Nat.zero_le _) (by omega) [] 0 asked]
  simp only [gathered, List.drop_zero, Option.map_some]
  rw [Tally.map_join_empty]
  rfl

end Cursor

end DurableStore
