import DurableStore.Block.Scan
import DurableStore.Config

/-!
Rows: what the bytes of a block file look like when nobody damaged them.

A row is blocks one behind another.  Behind it may stand a remnant, the header of a block whose
payload was never written.  A scan finds exactly the payloads of the row, whatever the policy is,
and says where the remnant starts (`scan_row`).  One remnant cannot be told from a block: the
header of the empty payload (`row_remnant_empty`), so that payload is `legible` before it is
written.
-/

namespace DurableStore

/-! ## One block -/

/-- The block of a payload. -/
def blockOf (payload : Bytes) : Bytes :=
  (Header.ofPayload payload).encode ++ payload

theorem stamp_of_le {limit : Nat} {payload : Bytes} (fits : payload.length ≤ limit) :
    stamp limit payload = .ok (blockOf payload) :=
  if_pos fits

@[simp] theorem Header.length_encode_ofPayload (payload : Bytes) :
    (ofPayload payload).encode.length = headerLength := by
  simp [encode, ofPayload, magic, headerLength]

@[simp] theorem length_blockOf (payload : Bytes) :
    (blockOf payload).length = headerLength + payload.length := by
  simp [blockOf]

@[simp] theorem take_blockOf (payload : Bytes) :
    (blockOf payload).take headerLength = (Header.ofPayload payload).encode :=
  List.take_left' (Header.length_encode_ofPayload payload)

theorem Header.length_ofPayload {limit : Nat} {payload : Bytes}
    (bounded : limit ≤ Config.largestBlockLimit) (fits : payload.length ≤ limit) :
    (ofPayload payload).length.toNat = payload.length := by
  simp only [Config.largestBlockLimit] at bounded
  simp only [ofPayload, UInt32.toNat_ofNat']
  omega

theorem Header.admissible_ofPayload_of_le {limit : Nat} {payload : Bytes}
    (short : payload.length ≤ Config.largestBlockLimit) (fits : payload.length ≤ limit) :
    (ofPayload payload).admissible limit = true := by
  rw [admissible, length_ofPayload (Nat.le_refl _) short, decide_eq_true fits, Bool.and_true]
  rfl

theorem Header.admissible_ofPayload {limit : Nat} {payload : Bytes}
    (bounded : limit ≤ Config.largestBlockLimit) (fits : payload.length ≤ limit) :
    (ofPayload payload).admissible limit = true :=
  admissible_ofPayload_of_le (Nat.le_trans fits bounded) fits

theorem Ahead.of_blockOf {limit : Nat} {payload : Bytes} (rest : Bytes)
    (bounded : limit ≤ Config.largestBlockLimit) (fits : payload.length ≤ limit) :
    of limit (blockOf payload ++ rest) = .complete (Header.ofPayload payload) payload rest := by
  have parsed := Header.parse?_encode (Header.ofPayload payload) (payload ++ rest) rfl
  have front : blockOf payload ++ rest =
      (Header.ofPayload payload).encode ++ (payload ++ rest) := by simp [blockOf]
  obtain ⟨byte, later, shape⟩ : ∃ byte later,
      (Header.ofPayload payload).encode ++ (payload ++ rest) = byte :: later := ⟨_, _, rfl⟩
  rw [front, of.eq_def, shape]
  simp only [← shape, parsed, Header.admissible_ofPayload bounded fits, if_true,
    Header.length_ofPayload bounded fits, Bytes.splitExactly?_append]

/-- A header without its payload is a torn block, unless the payload is empty. -/
theorem Ahead.of_header {limit : Nat} {payload : Bytes}
    (bounded : limit ≤ Config.largestBlockLimit) (fits : payload.length ≤ limit)
    (nonempty : payload ≠ []) : of limit (Header.ofPayload payload).encode = .torn := by
  have parsed := Header.parse?_encode (Header.ofPayload payload) [] rfl
  rw [List.append_nil] at parsed
  obtain ⟨byte, later, shape⟩ : ∃ byte later,
      (Header.ofPayload payload).encode = byte :: later := ⟨_, _, rfl⟩
  have missing : Bytes.splitExactly? payload.length [] = none :=
    Bytes.splitExactly?_eq_none_iff.2 (List.length_pos_iff.2 nonempty)
  rw [of.eq_def, shape]
  simp only [← shape, parsed, Header.admissible_ofPayload bounded fits, if_true,
    Header.length_ofPayload bounded fits, missing]

/-! ## Blocks one behind another -/

/-- Blocks one behind another. -/
def row (payloads : List Bytes) : Bytes :=
  payloads.flatMap blockOf

@[simp] theorem row_nil : row [] = [] := rfl

@[simp] theorem row_cons (payload : Bytes) (later : List Bytes) :
    row (payload :: later) = blockOf payload ++ row later := rfl

@[simp] theorem row_append (front back : List Bytes) :
    row (front ++ back) = row front ++ row back := by
  simp [row]

/-- Payloads, each with the place where its block starts in a row that starts at `offset`. -/
def placed : Nat → List Bytes → List Found
  | _, [] => []
  | offset, payload :: later =>
    ⟨offset, payload⟩ :: placed (offset + headerLength + payload.length) later

@[simp] theorem map_payload_placed (offset : Nat) (payloads : List Bytes) :
    (placed offset payloads).map Found.payload = payloads := by
  induction payloads generalizing offset with
  | nil => rfl
  | cons payload later ih => simp [placed, ih]

theorem placed_append (offset : Nat) (front back : List Bytes) :
    placed offset (front ++ back) =
      placed offset front ++ placed (offset + (row front).length) back := by
  induction front generalizing offset with
  | nil => rfl
  | cons payload later ih => simp [placed, ih, Nat.add_assoc]

/-- The blocks of a row lie inside it. -/
theorem placed_within {offset : Nat} {payloads : List Bytes} {block : Found}
    (member : block ∈ placed offset payloads) :
    offset ≤ block.offset ∧
      block.offset + headerLength + block.payload.length ≤ offset + (row payloads).length := by
  induction payloads generalizing offset with
  | nil => cases member
  | cons payload later ih =>
    rw [row_cons, List.length_append, length_blockOf]
    rcases List.mem_cons.1 member with rfl | member
    · show offset ≤ offset ∧ offset + headerLength + payload.length ≤ _
      omega
    · have := ih member
      omega

/-- The piece that an intact block is. -/
def Found.piece (found : Found) : Piece :=
  .block found.offset (Header.ofPayload found.payload) found.payload

theorem pieces_nil (limit offset : Nat) : pieces limit offset [] = [] := by
  have finished : Ahead.of limit [] = .finished := rfl
  exact pieces_of_ahead offset finished

theorem pieces_row {limit : Nat} (bounded : limit ≤ Config.largestBlockLimit) (offset : Nat)
    {payloads : List Bytes} (fit : ∀ payload ∈ payloads, payload.length ≤ limit) (rest : Bytes) :
    pieces limit offset (row payloads ++ rest) =
      (placed offset payloads).map Found.piece ++
        pieces limit (offset + (row payloads).length) rest := by
  -- Every block is cut off whole, and the rest of the row starts where it ends.
  induction payloads generalizing offset with
  | nil => simp [placed]
  | cons payload later ih =>
    have ahead := Ahead.of_blockOf (row later ++ rest) bounded (fit payload List.mem_cons_self)
    have fit' : ∀ payload ∈ later, payload.length ≤ limit := by
      intro other member
      exact fit other (List.mem_cons_of_mem _ member)
    rw [row_cons, List.append_assoc, pieces_of_ahead offset ahead]
    simp only [ih _ fit']
    simp [placed, Found.piece, Nat.add_assoc]

/-- Intact blocks are kept, whatever comes behind them, and no policy is asked about them. -/
theorem judge_append (policy : Policy) (path : Path) (found : List Found) (later : List Piece)
    (asked : List Mismatch) :
    judge policy path (found.map Found.piece ++ later) asked =
      ((judge policy path later asked).1.map fun tally =>
          { tally with found := found ++ tally.found },
        (judge policy path later asked).2) := by
  induction found with
  | nil =>
    simp only [List.map_nil, List.nil_append]
    rcases judge policy path later asked with ⟨tally | tally, asked⟩ <;> rfl
  | cons first rest ih =>
    rw [List.map_cons, List.cons_append, Found.piece, judge]
    simp only [Header.ofPayload, if_true]
    rw [ih]
    rcases judge policy path later asked with ⟨tally | tally, asked⟩ <;> rfl

theorem judge_row {limit : Nat} (bounded : limit ≤ Config.largestBlockLimit) (policy : Policy)
    (path : Path) (offset : Nat) {payloads : List Bytes}
    (fit : ∀ payload ∈ payloads, payload.length ≤ limit) (asked : List Mismatch) :
    judge policy path (pieces limit offset (row payloads)) asked =
      (.ok { found := placed offset payloads }, asked) := by
  have cut := pieces_row bounded offset fit []
  rw [List.append_nil, pieces_nil] at cut
  rw [cut, judge_append]
  simp [judge, Except.map]

/-! ## A remnant behind a row -/

/-- What stands behind a row: nothing, or the header of a payload that was never written. -/
def remnant : Option Bytes → Bytes
  | none => []
  | some payload => (Header.ofPayload payload).encode

/-- The payloads that a scan finds in a row with a remnant behind it. -/
def legible (payloads : List Bytes) (torn : Option Bytes) : List Bytes :=
  if torn = some [] then payloads ++ [[]] else payloads

@[simp] theorem legible_none (payloads : List Bytes) : legible payloads none = payloads := rfl

@[simp] theorem legible_empty (payloads : List Bytes) :
    legible payloads (some []) = payloads ++ [[]] := rfl

theorem legible_of_ne {torn : Option Bytes} (payloads : List Bytes) (h : torn ≠ some []) :
    legible payloads torn = payloads :=
  if_neg h

theorem row_remnant_empty (payloads : List Bytes) :
    row payloads ++ remnant (some []) = row (payloads ++ [[]]) := by
  simp [remnant, blockOf]

/-- What a scan reports of a row with a remnant behind it. -/
def Recovery.ofRow (payloads : List Bytes) (torn : Option Bytes) : Recovery :=
  let whole := legible payloads torn
  { found := placed 0 whole
    tornAt := if torn = none ∨ torn = some [] then none else some (row payloads).length
    validLength := (row whole).length }

@[simp] theorem Recovery.payloads_ofRow (payloads : List Bytes) (torn : Option Bytes) :
    (ofRow payloads torn).payloads = legible payloads torn :=
  map_payload_placed 0 _

theorem scan_whole_row {limit : Nat} (bounded : limit ≤ Config.largestBlockLimit)
    (policy : Policy) (path : Path) {payloads : List Bytes}
    (fit : ∀ payload ∈ payloads, payload.length ≤ limit) (asked : List Mismatch) :
    scan limit policy path (row payloads) asked = (.ok (.ofRow payloads none), asked) := by
  rw [scan, Recovery.ofPieces, judge_row bounded policy path 0 fit]
  simp [Except.map, Recovery.ofTally, Recovery.ofRow]

/-- **A scan of an undamaged file** finds the payloads of the row and where the remnant starts,
without asking the policy. -/
theorem scan_row {limit : Nat} (bounded : limit ≤ Config.largestBlockLimit) (policy : Policy)
    (path : Path) {payloads : List Bytes} (fit : ∀ payload ∈ payloads, payload.length ≤ limit)
    {torn : Option Bytes} (tornFits : ∀ payload ∈ torn, payload.length ≤ limit)
    (asked : List Mismatch) :
    scan limit policy path (row payloads ++ remnant torn) asked =
      (.ok (.ofRow payloads torn), asked) := by
  match torn with
  | none => simpa [remnant] using scan_whole_row bounded policy path fit asked
  | some [] =>
    have fit' : ∀ payload ∈ payloads ++ [[]], payload.length ≤ limit := by
      intro payload member
      rcases List.mem_append.1 member with member | member
      · exact fit payload member
      · simp [List.mem_singleton.1 member]
    rw [row_remnant_empty, scan_whole_row bounded policy path fit' asked]
    rfl
  | some (byte :: later) =>
    have ahead := Ahead.of_header bounded (tornFits _ rfl) (List.cons_ne_nil byte later)
    rw [scan, pieces_row bounded 0 fit, remnant, pieces_of_ahead _ ahead, Recovery.ofPieces,
      judge_append]
    simp [judge, Except.map, Recovery.ofTally, Recovery.ofRow, legible]

end DurableStore
