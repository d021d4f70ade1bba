import DurableStore.Block.Scan
import DurableStore.FileSystem.Content

/-!
Scanning a file without spelling out its holes.

A hole holds zeros and the magic has none, so no block starts in a hole, and the search for the
next magic passes over it at once.  `scanContent` gives what `scan` gives for the bytes
(`scanContent_eq`), because a content is cut where its bytes are cut (`Content.pieces_eq`).
-/

namespace DurableStore

/-! ## The next magic -/

/-- How far ahead the magic stands next in `front`, when `back` follows. -/
def gapBefore? (back : Bytes) : (front : Bytes) → Option Nat
  | [] => none
  | byte :: rest =>
    if magic.isPrefixOf ((byte :: rest).take magic.length ++ back) then some 0
    else (gapBefore? back rest).map (· + 1)

theorem magic_isPrefixOf_take (bytes : Bytes) :
    magic.isPrefixOf (bytes.take magic.length) = magic.isPrefixOf bytes := by
  rw [Bool.eq_iff_iff, List.isPrefixOf_iff_prefix, List.isPrefixOf_iff_prefix,
    List.prefix_take_iff]
  exact and_iff_left (Nat.le_refl _)

theorem magic_isPrefixOf_cons (byte : UInt8) (front back : Bytes) :
    magic.isPrefixOf ((byte :: front).take magic.length ++ back.take (magic.length - 1)) =
      magic.isPrefixOf (byte :: front ++ back) := by
  rw [← magic_isPrefixOf_take, ← magic_isPrefixOf_take (byte :: front ++ back)]
  congr 1
  simp [magic, List.take_append, List.take_take]
  omega

theorem nextMagic?_append (front back : Bytes) :
    nextMagic? (front ++ back) =
      match gapBefore? (back.take (magic.length - 1)) front with
      | some gap => some (gap, (front ++ back).drop gap)
      | none => (nextMagic? back).map fun (gap, found) => (front.length + gap, found) := by
  induction front with
  | nil => simp [gapBefore?]
  | cons byte rest ih =>
    rw [List.cons_append, nextMagic?, gapBefore?, magic_isPrefixOf_cons, List.cons_append]
    split
    next => rfl
    next =>
      rw [ih]
      cases gapBefore? (back.take (magic.length - 1)) rest with
      | some gap => simp
      | none =>
        simp only [Option.map_none, Option.map_map]
        congr 1
        funext position
        obtain ⟨gap, found⟩ := position
        simp only [Function.comp, List.length_cons, Prod.mk.injEq, and_true]
        omega

theorem gapBefore?_lt {back front : Bytes} {gap : Nat} (h : gapBefore? back front = some gap) :
    gap < front.length := by
  induction front generalizing gap with
  | nil => simp [gapBefore?] at h
  | cons byte rest ih =>
    simp only [gapBefore?] at h
    split at h
    next => cases h; simp
    next =>
      obtain ⟨before, found, rfl⟩ := Option.map_eq_some_iff.1 h
      have := ih found
      simp only [List.length_cons]
      omega

theorem nextMagic?_zeros (count : Nat) (back : Bytes) :
    nextMagic? (List.replicate count 0 ++ back) =
      (nextMagic? back).map fun (gap, found) => (count + gap, found) := by
  induction count with
  | zero => simp
  | succ count ih =>
    have no_magic : magic.isPrefixOf (0 :: (List.replicate count 0 ++ back)) = false := rfl
    rw [List.replicate_succ, List.cons_append, nextMagic?, no_magic, ih]
    simp only [Bool.false_eq_true, if_false, Option.map_map]
    congr 1
    funext position
    obtain ⟨gap, found⟩ := position
    simp only [Function.comp, Prod.mk.injEq, and_true]
    omega

/-! ## The header in front -/

theorem Header.parse?_take (bytes : Bytes) :
    parse? bytes =
      (parse? (bytes.take headerLength)).map fun (header, _) =>
        (header, bytes.drop headerLength) := by
  unfold parse?
  split
  next => rfl
  next short =>
    split
    next full =>
      rw [← List.take_append_drop headerLength bytes, full] at short
      exact absurd rfl (short _ _ _ _ _ _ _ _ _ _ _ _ _ _ _ _ _)
    next => rfl

namespace Content

/-- How far ahead the magic stands next, and the content from there on. -/
def nextMagic? : Content → Option (Nat × Content)
  | empty => none
  | bytes front rest =>
    match gapBefore? (rest.take (magic.length - 1)).toBytes front with
    | some gap => some (gap, bytes (front.drop gap) rest)
    | none => rest.nextMagic?.map fun (gap, found) => (front.length + gap, found)
  | hole count rest => rest.nextMagic?.map fun (gap, found) => (count + gap, found)

theorem nextMagic?_eq (content : Content) :
    content.nextMagic?.map (fun (gap, found) => (gap, found.toBytes)) =
      DurableStore.nextMagic? content.toBytes := by
  induction content with
  | empty => rfl
  | bytes front rest ih =>
    rw [nextMagic?, toBytes, nextMagic?_append, ← ih, toBytes_take]
    split
    next gap found =>
      have := gapBefore?_lt found
      simp [toBytes, List.drop_append, Nat.sub_eq_zero_of_le (Nat.le_of_lt this)]
    next => simp [Function.comp_def]
  | hole count rest ih =>
    rw [nextMagic?, toBytes, nextMagic?_zeros, ← ih]
    simp [Function.comp_def]

/-! ## What lies ahead -/

/-- What lies ahead in a content if payloads are at most `limit` long. -/
def ahead (limit : Nat) (content : Content) : Ahead Content :=
  match (content.take headerLength).toBytes with
  | [] => .finished
  | front =>
    match Header.parse? front with
    | none => .torn
    | some (header, _) =>
      if header.admissible limit then
        let body := content.drop headerLength
        let payload := (body.take header.length.toNat).toBytes
        if payload.length = header.length.toNat then
          .complete header payload (body.drop header.length.toNat)
        else .torn
      else
        .garbage ((content.drop 1).nextMagic?.map fun (gap, found) => (gap + 1, found))

theorem ahead_eq (limit : Nat) (content : Content) :
    (content.ahead limit).map toBytes = Ahead.of limit content.toBytes := by
  unfold ahead Ahead.of
  rw [toBytes_take]
  cases content_eq : content.toBytes with
  | nil => rfl
  | cons byte later =>
    rw [Header.parse?_take (byte :: later)]
    simp only [List.take_succ_cons, headerLength]
    cases Header.parse? (byte :: later.take 15) with
    | none => rfl
    | some parsed =>
      obtain ⟨header, -⟩ := parsed
      simp only [Option.map_some]
      split
      next =>
        simp only [toBytes_take, toBytes_drop, content_eq, Bytes.splitExactly?]
        split <;> simp_all [Ahead.map]
      next =>
        have magic_eq := nextMagic?_eq (content.drop 1)
        rw [toBytes_drop, content_eq, List.drop_succ_cons, List.drop_zero] at magic_eq
        simp [Ahead.map, ← magic_eq, Function.comp_def]

/-! ## The pieces -/

/-- Cuts a content, which starts at `offset` of a file, into pieces. -/
def pieces (limit offset : Nat) (content : Content) : List Piece :=
  match step : content.ahead limit with
  | .finished => []
  | .torn => [.torn offset]
  | .garbage none => [.garbage]
  | .garbage (some (gap, rest)) =>
    have : rest.length < content.length := by
      have ahead := ahead_eq limit content
      rw [step] at ahead
      have := Ahead.length_of_garbage ahead.symm
      simp only [length_toBytes] at this
      omega
    .garbage :: rest.pieces limit (offset + gap)
  | .complete header payload rest =>
    have : rest.length < content.length := by
      have ahead := ahead_eq limit content
      rw [step] at ahead
      have := Ahead.length_of_complete ahead.symm
      simp only [length_toBytes, headerLength] at this
      omega
    .block offset header payload :: rest.pieces limit (offset + headerLength + payload.length)
  termination_by content.length

theorem pieces_toBytes {limit offset : Nat} {content : Content} {found : Ahead Content}
    (step : content.ahead limit = found) :
    DurableStore.pieces limit offset content.toBytes =
      match found with
      | .finished => []
      | .torn => [.torn offset]
      | .garbage none => [.garbage]
      | .garbage (some (gap, rest)) =>
        .garbage :: DurableStore.pieces limit (offset + gap) rest.toBytes
      | .complete header payload rest =>
        .block offset header payload ::
          DurableStore.pieces limit (offset + headerLength + payload.length) rest.toBytes := by
  have ahead := ahead_eq limit content
  rw [step] at ahead
  rw [DurableStore.pieces]
  split <;> split <;> simp_all [Ahead.map]

theorem pieces_eq (limit offset : Nat) (content : Content) :
    content.pieces limit offset = DurableStore.pieces limit offset content.toBytes := by
  fun_induction pieces limit offset content with
  | case1 offset content step => rw [pieces_toBytes step]
  | case2 offset content step => rw [pieces_toBytes step]
  | case3 offset content step => rw [pieces_toBytes step]
  | case4 offset content gap rest step _ ih => rw [pieces_toBytes step, ih]
  | case5 offset content header payload rest step _ ih => rw [pieces_toBytes step, ih]

end Content

/-- Scans the whole `content` of the file at `path`. -/
def scanContent (limit : Nat) (policy : Policy) (path : Path) (content : Content)
    (asked : List Mismatch) : Except Fault Recovery × List Mismatch :=
  Recovery.ofPieces policy path content.length (content.pieces limit 0) asked

theorem scanContent_eq (limit : Nat) (policy : Policy) (path : Path) (content : Content)
    (asked : List Mismatch) :
    scanContent limit policy path content asked =
      scan limit policy path content.toBytes asked := by
  rw [scanContent, scan, Content.pieces_eq, Content.length_toBytes]

end DurableStore
