import DurableStore.Proofs.Block.Damage

/-!
How a scan gets from one place of a file to another.

A `Trail` leads a scan over the bytes `kept` to the bytes `tail` behind them, and says into which
pieces `kept` is cut on the way.  What lies ahead is looked up in the bytes that follow, so `tail` is
part of the trail.

* **every file has one** — a scan goes along a trail until nothing is left or a block breaks off
  (`exists_trail`), and what it makes of the file are the pieces of the trail and of the rest
  (`Trail.pieces`);
* **the tail can be exchanged** — a scan that is passing over garbage goes on where the next magic
  stands, and the magic does not overlap itself, so other bytes that start with the magic are found
  at the same place (`Trail.onto`);
* **what a scan makes of it** — a scan that succeeds has gone along a trail over everything that it
  calls valid (`scan_trail`), and what is behind a trail is judged after it (`Trail.judge_append`).
-/

namespace DurableStore

/-! ## What a scan passes over -/

/-- A search for the next magic ends in front of these bytes: they start with it, or there are
none. -/
def Resumes (bytes : Bytes) : Prop :=
  bytes = [] ∨ magic <+: bytes

/-- No admissible header can be read off the front of these bytes. -/
def Bars (limit : Nat) (bytes : Bytes) : Prop :=
  ∀ header rest, Header.parse? bytes = some (header, rest) → header.admissible limit = false

theorem nextMagic?_of_magic {bytes : Bytes} (front : magic <+: bytes) :
    nextMagic? bytes = some (0, bytes) := by
  cases bytes with
  | nil => simp [magic] at front
  | cons byte rest => rw [nextMagic?, if_pos (List.isPrefixOf_iff_prefix.2 front)]

/-- No magic stands in front of the next one. -/
theorem quiet_of_nextMagic? {junk : Bytes} (found : Bytes)
    (next : nextMagic? (junk ++ found) = some (junk.length, found)) : Quiet junk := by
  induction junk with
  | nil => rfl
  | cons byte junk ih =>
    rw [List.cons_append, nextMagic?] at next
    split at next
    next => simp at next
    next absent =>
      obtain ⟨⟨gap, found'⟩, later, same⟩ := Option.map_eq_some_iff.1 next
      simp only [List.length_cons, Prod.mk.injEq, Nat.add_right_cancel_iff] at same
      obtain ⟨rfl, rfl⟩ := same
      refine quiet_cons.2 ⟨?_, ih later⟩
      -- A magic that ends in front of the next one would have been met first.
      rw [Bool.eq_false_iff]
      intro here
      refine absent (List.isPrefixOf_iff_prefix.2 ?_)
      exact (List.isPrefixOf_iff_prefix.1 here).trans ⟨found', rfl⟩

/-- A search that meets no magic goes on to the next one, wherever that is. -/
theorem nextMagic?_quiet_append {junk found : Bytes} (quiet : Quiet junk) (front : magic <+: found) :
    nextMagic? (junk ++ found) = some (junk.length, found) := by
  have start : found.take (magic.length - 1) = (row [[]]).take (magic.length - 1) := by
    obtain ⟨rest, rfl⟩ := front
    rfl
  rw [nextMagic?_append, start, gapBefore?_quiet [[]] quiet, nextMagic?_of_magic front]
  simp

theorem nextMagic?_quiet_resumes {junk found : Bytes} (quiet : Quiet junk)
    (resumes : Resumes found) :
    nextMagic? (junk ++ found) = if found = [] then none else some (junk.length, found) := by
  rcases resumes with rfl | front
  · rw [List.append_nil, if_pos rfl]
    exact quiet
  · have nonempty : found ≠ [] := by
      rintro rfl
      simp [magic] at front
    rw [if_neg nonempty, nextMagic?_quiet_append quiet front]

/-- Two magics do not overlap. -/
theorem magic_length_le {front found : Bytes} (here : magic <+: front ++ found)
    (next : magic <+: found) (nonempty : front ≠ []) : magic.length ≤ front.length := by
  obtain ⟨rest, rfl⟩ := next
  obtain ⟨_, same⟩ := here
  match front, nonempty with
  | [_], _ => simp [magic] at same
  | [_, _], _ => simp [magic] at same
  | [_, _, _], _ => simp [magic] at same
  | _ :: _ :: _ :: _ :: _, _ => simp [magic]

theorem magic_prefix_left {front found : Bytes} (here : magic <+: front ++ found)
    (resumes : Resumes found) (nonempty : front ≠ []) : magic <+: front := by
  rcases resumes with rfl | next
  · rwa [List.append_nil] at here
  · exact List.prefix_of_prefix_length_le here ⟨found, rfl⟩
      (magic_length_le here next nonempty)

namespace Header

/-- Whether a header is admissible shows in the first eight of its bytes. -/
theorem admissible_congr {bytes other rest rest' : Bytes} {header header' : Header}
    (read : parse? bytes = some (header, rest)) (read' : parse? other = some (header', rest'))
    (same : bytes.take 8 = other.take 8) (limit : Nat) :
    header.admissible limit = header'.admissible limit := by
  unfold parse? at read read'
  split at read
  next =>
    split at read'
    next =>
      obtain ⟨rfl, -⟩ := Prod.mk.inj (Option.some.inj read)
      obtain ⟨rfl, -⟩ := Prod.mk.inj (Option.some.inj read')
      simp only [List.take_succ_cons, List.take_zero, List.cons.injEq, and_true] at same
      obtain ⟨rfl, rfl, rfl, rfl, rfl, rfl, rfl, rfl⟩ := same
      rfl
    next => cases read'
  next => cases read

end Header

theorem bars_append {limit : Nat} {front : Bytes} (bars : Bars limit front)
    (long : headerLength ≤ front.length) (rest : Bytes) : Bars limit (front ++ rest) := by
  obtain ⟨header, read⟩ := Header.parse?_of_length long
  intro header' rest' read'
  rw [Header.parse?_append read] at read'
  obtain ⟨rfl, -⟩ := Prod.mk.inj (Option.some.inj read')
  exact bars header _ read

theorem bars_of_append {limit : Nat} {front rest : Bytes} (bars : Bars limit (front ++ rest)) :
    Bars limit front := by
  intro header rest' read
  exact bars header _ (Header.parse?_append read rest)

/-- What stands behind the next magic does not make a header admissible. -/
theorem bars_onto {limit : Nat} {front found other : Bytes} (bars : Bars limit (front ++ found))
    (long : headerLength ≤ (front ++ found).length) (next : magic <+: found)
    (next' : magic <+: other) (nonempty : front ≠ []) : Bars limit (front ++ other) := by
  obtain ⟨header, read⟩ := Header.parse?_of_length long
  intro header' rest' read'
  by_cases wide : magic.length ≤ front.length
  · -- Then the front and the magic behind it hold the eight bytes that decide.
    obtain ⟨rest, rfl⟩ := next
    obtain ⟨later, rfl⟩ := next'
    have eight (behind : Bytes) : (front ++ (magic ++ behind)).take 8 = (front ++ magic).take 8 := by
      rw [← List.append_assoc, List.take_append_of_le_length]
      simp only [magic, List.length_append, List.length_cons, List.length_nil] at wide ⊢
      omega
    rw [Header.admissible_congr read' read ((eight later).trans (eight rest).symm)]
    exact bars header _ read
  · -- Then the front has no room for a magic, so none is read.
    rw [Header.admissible, Header.hasMagic_of_parse? read', Bool.and_eq_false_iff]
    left
    rw [Bool.eq_false_iff]
    intro here
    exact wide (magic_length_le (List.isPrefixOf_iff_prefix.1 here) next' nonempty)

/-- What is behind bytes that a scan passes over does not make it stop there. -/
theorem bars_exchange {limit : Nat} {stray found other : Bytes}
    (bars : Bars limit (stray ++ found)) (long : headerLength ≤ (stray ++ found).length)
    (resumes : Resumes found) (resumes' : Resumes other) (nonempty : stray ≠ []) :
    Bars limit (stray ++ other) := by
  rcases resumes with rfl | next
  · rw [List.append_nil] at bars long
    exact bars_append bars long other
  · rcases resumes' with rfl | next'
    · rw [List.append_nil]
      exact bars_of_append bars
    · exact bars_onto bars long next next' nonempty

namespace Ahead

theorem of_eq_finished {limit : Nat} {bytes : Bytes} (ahead : of limit bytes = .finished) :
    bytes = [] := by
  unfold of at ahead
  split at ahead
  next => rfl
  next =>
    split at ahead
    next => cases ahead
    next =>
      split at ahead
      next =>
        split at ahead
        next => cases ahead
        next => cases ahead
      next => cases ahead

theorem of_short (limit : Nat) {bytes : Bytes} (nonempty : bytes ≠ [])
    (short : bytes.length < headerLength) : of limit bytes = .torn := by
  cases bytes with
  | nil => exact absurd rfl nonempty
  | cons byte later =>
    unfold of
    cases read : Header.parse? (byte :: later) with
    | none => rfl
    | some parsed =>
      have := Header.length_of_parse? read
      omega

/-- Behind bytes without an admissible header a scan looks for the next magic. -/
theorem of_bars {limit : Nat} {stray found : Bytes} (nonempty : stray ≠ [])
    (long : headerLength ≤ (stray ++ found).length) (bars : Bars limit (stray ++ found))
    (quiet : Quiet stray.tail) (resumes : Resumes found) :
    of limit (stray ++ found) =
      .garbage (if found = [] then none else some (stray.length, found)) := by
  obtain ⟨header, read⟩ := Header.parse?_of_length long
  have inadmissible := bars header _ read
  cases stray with
  | nil => exact absurd rfl nonempty
  | cons byte junk =>
    rw [List.cons_append] at read ⊢
    unfold of
    simp only [read, inadmissible, Bool.false_eq_true, if_false]
    rw [List.tail_cons] at quiet
    rw [nextMagic?_quiet_resumes quiet resumes]
    split
    next => rfl
    next => rfl

/-- What a scan passes over has no admissible header, and the next magic stands where it goes
on. -/
theorem of_eq_garbage {limit : Nat} {bytes : Bytes} {next : Option (Nat × Bytes)}
    (ahead : of limit bytes = .garbage next) :
    ∃ stray found, bytes = stray ++ found ∧ stray ≠ [] ∧ headerLength ≤ bytes.length ∧
      Bars limit bytes ∧ Quiet stray.tail ∧ Resumes found ∧
      next = if found = [] then none else some (stray.length, found) := by
  unfold of at ahead
  split at ahead
  next => cases ahead
  next byte later =>
    split at ahead
    next => cases ahead
    next header body read =>
      split at ahead
      next =>
        split at ahead
        next => cases ahead
        next => cases ahead
      next inadmissible =>
        have long : headerLength ≤ (byte :: later).length := by
          have := Header.length_of_parse? read
          omega
        have bars : Bars limit (byte :: later) := by
          intro header' rest read'
          rw [read] at read'
          obtain ⟨rfl, -⟩ := Prod.mk.inj (Option.some.inj read')
          exact Bool.eq_false_iff.2 inadmissible
        have same := Ahead.garbage.inj ahead
        cases search : nextMagic? later with
        | none =>
          rw [search] at same
          refine ⟨byte :: later, [], (List.append_nil _).symm, List.cons_ne_nil byte later, long,
            bars, search, .inl rfl, ?_⟩
          rw [if_pos rfl]
          exact same.symm
        | some position =>
          obtain ⟨gap, found⟩ := position
          obtain ⟨rest, lengths, front⟩ := nextMagic?_eq_some search
          have halves : later = later.take gap ++ found := by
            rw [rest, List.take_append_drop]
          have taken : (later.take gap).length = gap := by
            rw [List.length_take]
            omega
          have nonempty : found ≠ [] := by
            rintro rfl
            simp [magic] at front
          rw [search] at same
          refine ⟨byte :: later.take gap, found, ?_, List.cons_ne_nil byte _, long, bars, ?_,
            .inr front, ?_⟩
          · rw [List.cons_append, ← halves]
          · refine quiet_of_nextMagic? found ?_
            rw [List.tail_cons, ← halves, taken]
            exact search
          · rw [if_neg nonempty, List.length_cons, taken]
            exact same.symm

/-- A complete block is a header, the payload that it announces, and what comes behind. -/
theorem split_of_complete {limit : Nat} {bytes payload rest : Bytes} {header : Header}
    (ahead : of limit bytes = .complete header payload rest) :
    ∃ head, bytes = head ++ (payload ++ rest) ∧ Header.parse? head = some (header, []) ∧
      header.admissible limit = true := by
  unfold of at ahead
  split at ahead
  next => cases ahead
  next byte later =>
    split at ahead
    next => cases ahead
    next header' body read =>
      split at ahead
      next admissible =>
        split at ahead
        next => cases ahead
        next payload' rest' halves =>
          obtain ⟨rfl, rfl, rfl⟩ := Ahead.complete.inj ahead
          have whole := (Bytes.splitExactly?_eq_some halves).1
          have parsed := Header.parse?_take (byte :: later)
          rw [read] at parsed
          obtain ⟨⟨header'', none_left⟩, taken, same⟩ := Option.map_eq_some_iff.1 parsed.symm
          obtain ⟨rfl, rfl⟩ := Prod.mk.inj same
          have lengths := Header.length_of_parse? taken
          have empty : none_left = [] := by
            refine List.eq_nil_of_length_eq_zero ?_
            rw [List.length_take] at lengths
            omega
          subst empty
          refine ⟨(byte :: later).take headerLength, ?_, taken, admissible⟩
          rw [← whole, List.take_append_drop]
      next => cases ahead

end Ahead

/-! ## Trails -/

/-- A scan of `kept ++ tail` that starts at an offset of a file cuts `kept` into pieces and then
comes to `tail`. -/
inductive Trail (limit : Nat) (tail : Bytes) : Nat → Bytes → List Piece → Prop where
  /-- The scan has come to the tail. -/
  | here (offset : Nat) : Trail limit tail offset [] []
  /-- The scan passes over bytes without an admissible header, up to the next magic. -/
  | garbage {offset : Nat} {stray kept : Bytes} {whole : List Piece} (nonempty : stray ≠ [])
      (long : headerLength ≤ (stray ++ (kept ++ tail)).length)
      (bars : Bars limit (stray ++ (kept ++ tail))) (quiet : Quiet stray.tail)
      (resumes : Resumes (kept ++ tail))
      (later : Trail limit tail (offset + stray.length) kept whole) :
      Trail limit tail offset (stray ++ kept) (.garbage :: whole)
  /-- The scan comes to a complete block. -/
  | block {offset : Nat} {header : Header} {head payload kept : Bytes} {whole : List Piece}
      (read : Header.parse? head = some (header, []))
      (admissible : header.admissible limit = true)
      (announced : header.length.toNat = payload.length)
      (later : Trail limit tail (offset + headerLength + payload.length) kept whole) :
      Trail limit tail offset (head ++ (payload ++ kept)) (.block offset header payload :: whole)

namespace Trail

variable {limit offset : Nat} {kept tail : Bytes} {whole : List Piece}

theorem ahead_block {header : Header} {head payload : Bytes}
    (read : Header.parse? head = some (header, [])) (admissible : header.admissible limit = true)
    (announced : header.length.toNat = payload.length) (rest : Bytes) :
    Ahead.of limit (head ++ (payload ++ rest)) = .complete header payload rest := by
  rw [Ahead.of_admissible read admissible, announced, Bytes.splitExactly?_append]

/-- **A scan of a file** finds the pieces of the trail first, and then those of the tail. -/
theorem pieces (h : Trail limit tail offset kept whole) :
    DurableStore.pieces limit offset (kept ++ tail) =
      whole ++ DurableStore.pieces limit (offset + kept.length) tail := by
  induction h with
  | here offset => rfl
  | @garbage offset stray kept whole nonempty long bars quiet resumes later ih =>
    have ahead := Ahead.of_bars nonempty long bars quiet resumes
    rw [List.append_assoc, List.length_append, ← Nat.add_assoc, List.cons_append, ← ih]
    by_cases empty : kept ++ tail = []
    · have nothing : DurableStore.pieces limit (offset + stray.length) (kept ++ tail) = [] := by
        rw [empty, pieces_nil]
      rw [if_pos empty] at ahead
      rw [nothing, pieces_of_ahead offset ahead]
    · rw [if_neg empty] at ahead
      rw [pieces_of_ahead offset ahead]
  | @block offset header head payload kept whole read admissible announced later ih =>
    have ahead := ahead_block read admissible announced (kept ++ tail)
    have sixteen : head.length = headerLength := Header.length_of_parse? read
    have total : offset + headerLength + payload.length + kept.length =
        offset + (head ++ (payload ++ kept)).length := by
      simp only [List.length_append]
      omega
    rw [List.append_assoc, List.append_assoc, pieces_of_ahead offset ahead, List.cons_append,
      ← total, ← ih]

/-! ## Other bytes behind a trail -/

/-- A trail that starts with the magic has all of it. -/
theorem magic_prefix (h : Trail limit tail offset kept whole) (front : magic <+: kept ++ tail)
    (nonempty : kept ≠ []) : magic <+: kept := by
  cases h with
  | here => exact absurd rfl nonempty
  | garbage nonempty' long bars quiet resumes later =>
    rw [List.append_assoc] at front
    exact (magic_prefix_left front resumes nonempty').trans (List.prefix_append _ _)
  | @block _ header head payload kept whole read admissible announced later =>
    have sixteen : head.length = headerLength := Header.length_of_parse? read
    rw [List.append_assoc] at front
    refine (List.prefix_of_prefix_length_le front (List.prefix_append head _) ?_).trans
      (List.prefix_append head _)
    rw [sixteen]
    decide

/-- Where a search ends in front of the bytes of a trail, it ends there with another tail too. -/
theorem resumes_onto (h : Trail limit tail offset kept whole) (resumes : Resumes (kept ++ tail))
    {other : Bytes} (resumes' : Resumes other) : Resumes (kept ++ other) := by
  by_cases empty : kept = []
  · rw [empty, List.nil_append]
    exact resumes'
  · rcases resumes with nothing | front
    · exact absurd (List.append_eq_nil_iff.1 nothing).1 empty
    · exact .inr ((h.magic_prefix front empty).trans (List.prefix_append kept other))

/-- **The tail can be exchanged** for bytes that start with the magic and hold a header. -/
theorem onto (h : Trail limit tail offset kept whole) {other : Bytes} (front : magic <+: other)
    (long : headerLength ≤ other.length) : Trail limit other offset kept whole := by
  induction h with
  | here offset => exact .here offset
  | garbage nonempty long' bars quiet resumes later ih =>
    have resumes' := later.resumes_onto resumes (.inr front)
    refine .garbage nonempty ?_ (bars_exchange bars long' resumes resumes' nonempty) quiet resumes'
      ih
    simp only [List.length_append]
    omega
  | block read admissible announced later ih => exact .block read admissible announced ih

end Trail

/-- Every file has a trail that leads to its end or to a block that breaks off. -/
theorem exists_trail (limit offset : Nat) (bytes : Bytes) :
    ∃ kept tail whole, bytes = kept ++ tail ∧ Trail limit tail offset kept whole ∧
      (tail = [] ∨ Ahead.of limit tail = .torn) := by
  fun_induction pieces limit offset bytes with
  | case1 offset bytes ahead =>
    exact ⟨[], bytes, [], rfl, .here offset, .inl (Ahead.of_eq_finished ahead)⟩
  | case2 offset bytes ahead => exact ⟨[], bytes, [], rfl, .here offset, .inr ahead⟩
  | case3 offset bytes ahead =>
    obtain ⟨stray, found, rfl, nonempty, long, bars, quiet, resumes, next⟩ :=
      Ahead.of_eq_garbage ahead
    obtain rfl : found = [] := by
      split at next
      next empty => exact empty
      next => cases next
    exact ⟨stray ++ [], [], [.garbage], (List.append_nil _).symm,
      .garbage nonempty long bars quiet resumes (.here _), .inl rfl⟩
  | case4 offset bytes gap rest ahead _ ih =>
    obtain ⟨stray, found, rfl, nonempty, long, bars, quiet, resumes, next⟩ :=
      Ahead.of_eq_garbage ahead
    obtain ⟨rfl, rfl⟩ : gap = stray.length ∧ rest = found := by
      split at next
      next => cases next
      next => exact Prod.mk.inj (Option.some.inj next)
    obtain ⟨kept, tail, whole, rfl, later, ends⟩ := ih
    exact ⟨stray ++ kept, tail, .garbage :: whole, (List.append_assoc ..).symm,
      .garbage nonempty long bars quiet resumes later, ends⟩
  | case5 offset bytes header payload rest ahead _ ih =>
    obtain ⟨head, rfl, read, admissible⟩ := Ahead.split_of_complete ahead
    obtain ⟨kept, tail, whole, rfl, later, ends⟩ := ih
    refine ⟨head ++ (payload ++ kept), tail, .block offset header payload :: whole, ?_,
      .block read admissible (Ahead.of_eq_complete ahead).1 later, ends⟩
    simp only [List.append_assoc]

/-! ## What is made of the pieces of a trail -/

/-- What is gathered from some pieces and then from those behind them. -/
def Tally.join (front back : Tally) : Tally :=
  { found := front.found ++ back.found, skipped := front.skipped + back.skipped,
    tornAt := back.tornAt }

theorem Tally.map_join_empty (result : Except Fault Tally) :
    result.map (Tally.join {}) = result := by
  cases result with
  | error fault => rfl
  | ok back => simp [Except.map, join]

theorem Tally.map_pass_join (tally : Tally) (result : Except Fault Tally) :
    (result.map tally.join).map pass = result.map tally.pass.join := by
  cases result with
  | error fault => rfl
  | ok back =>
    simp only [Except.map, join, pass, Except.ok.injEq, Tally.mk.injEq, and_true, true_and]
    omega

theorem Tally.map_keep_join (tally : Tally) (offset : Nat) (payload : Bytes)
    (result : Except Fault Tally) :
    (result.map tally.join).map (keep offset payload) =
      result.map (tally.keep offset payload).join := by
  cases result with
  | error fault => rfl
  | ok back => rfl

namespace Trail

variable {limit offset : Nat} {kept tail : Bytes} {whole : List Piece}

/-- What is behind a trail is judged after what is on it. -/
theorem judge_append (h : Trail limit tail offset kept whole) (policy : Policy) (path : Path)
    (later : List Piece) (asked : List Mismatch) :
    judge policy path (whole ++ later) asked =
      match judge policy path whole asked with
      | (.error fault, asked) => (.error fault, asked)
      | (.ok tally, asked) =>
        ((judge policy path later asked).1.map tally.join, (judge policy path later asked).2) := by
  induction h generalizing asked with
  | here =>
    rw [List.nil_append, judge]
    simp only [Tally.map_join_empty]
  | garbage nonempty long bars quiet resumes rest ih =>
    rw [List.cons_append, judge, judge, ih]
    rcases judge policy path _ asked with ⟨fault | tally, asked'⟩
    · rfl
    · simp only [Tally.map_pass_join]
      rfl
  | @block offset header head payload kept whole read admissible announced rest ih =>
    rw [List.cons_append, judge, judge]
    split
    next =>
      rw [ih]
      rcases judge policy path whole asked with ⟨fault | tally, asked'⟩
      · rfl
      · simp only [Tally.map_keep_join]
        rfl
    next =>
      simp only
      split
      next => rfl
      next =>
        rw [ih]
        rcases judge policy path whole _ with ⟨fault | tally, asked'⟩
        · rfl
        · simp only [Tally.map_pass_join]
          rfl

end Trail

/-- What a scan reports that has come along a trail over `kept` to `tail`, where a block breaks off
unless nothing is left. -/
def Recovery.ofTrail (kept tail : Bytes) (tally : Tally) : Recovery :=
  { found := tally.found, skipped := tally.skipped,
    tornAt := if tail = [] then none else some kept.length, validLength := kept.length }

/-- **A scan along a trail** to the end, or to a block that breaks off, reports what the pieces of
the trail are judged to be. -/
theorem Trail.scan {limit : Nat} {kept tail : Bytes} {whole : List Piece}
    (h : Trail limit tail 0 kept whole) (ends : tail = [] ∨ Ahead.of limit tail = .torn)
    (policy : Policy) (path : Path) (asked : List Mismatch) :
    DurableStore.scan limit policy path (kept ++ tail) asked =
      ((judge policy path whole asked).1.map (Recovery.ofTrail kept tail),
        (judge policy path whole asked).2) := by
  rw [DurableStore.scan, Recovery.ofPieces, h.pieces, Nat.zero_add, h.judge_append]
  rcases judge policy path whole asked with ⟨fault | tally, asked'⟩
  · rfl
  · rcases ends with rfl | torn
    · rw [pieces_nil]
      simp [judge, Except.map, Tally.join, Recovery.ofTally, Recovery.ofTrail]
    · have left : tail ≠ [] := List.length_pos_iff.1 (Ahead.ne_nil_of_torn torn)
      rw [pieces_of_ahead _ torn]
      simp [judge, Except.map, Tally.join, Recovery.ofTally, Recovery.ofTrail, left]

/-- **A scan that succeeds** has gone along a trail, over everything that it calls valid. -/
theorem scan_trail {limit : Nat} {policy : Policy} {path : Path} {content : Bytes}
    {asked asked' : List Mismatch} {recovery : Recovery}
    (scanned : scan limit policy path content asked = (.ok recovery, asked')) :
    ∃ kept tail whole tally, content = kept ++ tail ∧ Trail limit tail 0 kept whole ∧
      (tail = [] ∨ Ahead.of limit tail = .torn) ∧
      judge policy path whole asked = (.ok tally, asked') ∧
      recovery = .ofTrail kept tail tally := by
  obtain ⟨kept, tail, whole, rfl, trail, ends⟩ := exists_trail limit 0 content
  rw [trail.scan ends] at scanned
  obtain ⟨tally, judged, same⟩ := judged_of_map scanned
  exact ⟨kept, tail, whole, tally, rfl, trail, ends, judged, same⟩

end DurableStore
