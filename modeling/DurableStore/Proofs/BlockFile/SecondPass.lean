import DurableStore.Proofs.Block.Consultation
import DurableStore.Proofs.Block.Trail
import DurableStore.Proofs.BlockFile.Reopening

/-!
Recovering a file that has just been recovered.

A recovery cuts the block off that breaks off at the end.  What was decided in front of it was
decided with that block in view: a stretch of garbage was long enough for a header only together
with it.  A file is `Frayed` if the block stands directly behind a stretch of garbage that is
shorter than a header.

* `Trail.cut` — with its tail cut off, the trail of a file that is not frayed leads to the end; that
  of a frayed one ends in front of garbage that now looks like a block that breaks off;
* `recover_again` — a second recovery finds the same blocks, and it leaves the file alone exactly if
  the file was not frayed.
-/

namespace DurableStore

/-! ## Frayed files -/

/-- A block breaks off at the end, directly behind a stretch of garbage that is shorter than a
header. -/
inductive Frayed (limit : Nat) : Bytes → Prop where
  | here {bytes tail : Bytes} {gap : Nat}
      (ahead : Ahead.of limit bytes = .garbage (some (gap, tail))) (short : gap < headerLength)
      (torn : Ahead.of limit tail = .torn) : Frayed limit bytes
  | garbage {bytes rest : Bytes} {gap : Nat}
      (ahead : Ahead.of limit bytes = .garbage (some (gap, rest)))
      (later : Frayed limit rest) : Frayed limit bytes
  | block {bytes rest payload : Bytes} {header : Header}
      (ahead : Ahead.of limit bytes = .complete header payload rest)
      (later : Frayed limit rest) : Frayed limit bytes

/-- Whether a file is frayed shows in what lies ahead. -/
theorem frayed_iff (limit : Nat) (bytes : Bytes) :
    Frayed limit bytes ↔
      match Ahead.of limit bytes with
      | .finished => False
      | .torn => False
      | .garbage none => False
      | .garbage (some (gap, rest)) =>
        gap < headerLength ∧ Ahead.of limit rest = .torn ∨ Frayed limit rest
      | .complete _ _ rest => Frayed limit rest := by
  constructor
  · intro frayed
    cases frayed with
    | here ahead short torn =>
      rw [ahead]
      exact .inl ⟨short, torn⟩
    | garbage ahead later =>
      rw [ahead]
      exact .inr later
    | block ahead later =>
      rw [ahead]
      exact later
  · intro reads
    split at reads
    next => exact reads.elim
    next => exact reads.elim
    next => exact reads.elim
    next gap rest ahead =>
      rcases reads with ⟨short, torn⟩ | later
      · exact .here ahead short torn
      · exact .garbage ahead later
    next header payload rest ahead => exact .block ahead reads

/-! ## A trail whose tail is cut off -/

namespace Trail

variable {limit offset : Nat} {kept tail : Bytes} {whole : List Piece}

/-- What lies ahead on a trail that has not come to its end is not a block that breaks off. -/
theorem nil_of_torn (h : Trail limit tail offset kept whole)
    (torn : Ahead.of limit (kept ++ tail) = .torn) : kept = [] := by
  cases h with
  | here => rfl
  | @garbage _ stray kept whole nonempty long bars quiet resumes later =>
    rw [List.append_assoc, Ahead.of_bars nonempty long bars quiet resumes] at torn
    cases torn
  | @block _ header head payload kept whole read admissible announced later =>
    rw [List.append_assoc, List.append_assoc, ahead_block read admissible announced] at torn
    cases torn

/-- A stretch that a scan passes over frays the file if it is short and the block breaks off
directly behind it. -/
theorem frayed_garbage {stray : Bytes} (nonempty : stray ≠ [])
    (long : headerLength ≤ (stray ++ (kept ++ tail)).length)
    (bars : Bars limit (stray ++ (kept ++ tail))) (quiet : Quiet stray.tail)
    (resumes : Resumes (kept ++ tail)) (left : tail ≠ []) :
    Frayed limit (stray ++ kept ++ tail) ↔
      stray.length < headerLength ∧ Ahead.of limit (kept ++ tail) = .torn ∨
        Frayed limit (kept ++ tail) := by
  have more : kept ++ tail ≠ [] := by
    intro nothing
    exact left (List.append_eq_nil_iff.1 nothing).2
  have ahead := Ahead.of_bars nonempty long bars quiet resumes
  rw [if_neg more] at ahead
  rw [List.append_assoc, frayed_iff, ahead]

/-- A trail over fewer bytes than a header has leads over garbage only. -/
theorem whole_of_short (h : Trail limit tail offset kept whole)
    (short : kept.length < headerLength) : ∃ count, whole = List.replicate count .garbage := by
  induction h with
  | here => exact ⟨0, rfl⟩
  | garbage nonempty long bars quiet resumes later ih =>
    rw [List.length_append] at short
    obtain ⟨count, same⟩ := ih (by omega)
    refine ⟨count + 1, ?_⟩
    rw [same, List.replicate_succ]
  | @block offset header head payload kept whole read admissible announced later ih =>
    have sixteen : head.length = headerLength := Header.length_of_parse? read
    simp only [List.length_append] at short
    omega

/-- A file is frayed if a block breaks off behind a few bytes of garbage. -/
theorem frayed_of_short (h : Trail limit tail offset kept whole) (torn : Ahead.of limit tail = .torn)
    (nonempty : kept ≠ []) (short : kept.length < headerLength) : Frayed limit (kept ++ tail) := by
  have left : tail ≠ [] := List.length_pos_iff.1 (Ahead.ne_nil_of_torn torn)
  induction h with
  | here => exact absurd rfl nonempty
  | @garbage offset stray kept whole some_stray long bars quiet resumes later ih =>
    rw [List.length_append] at short
    refine (frayed_garbage some_stray long bars quiet resumes left).2 ?_
    by_cases last : kept = []
    · subst last
      exact .inl ⟨by omega, torn⟩
    · exact .inr (ih last (by omega))
  | @block offset header head payload kept whole read admissible announced later ih =>
    have sixteen : head.length = headerLength := Header.length_of_parse? read
    simp only [List.length_append] at short
    omega

/-- **Without the block that breaks off**, the trail of a file that is not frayed leads to its end.
Otherwise there are too few bytes left for a header somewhere on the trail, with nothing but garbage
on the rest of it. -/
theorem cut (h : Trail limit tail offset kept whole) (torn : Ahead.of limit tail = .torn) :
    ¬Frayed limit (kept ++ tail) ∧ Trail limit [] offset kept whole ∨
      Frayed limit (kept ++ tail) ∧
        ∃ front rest whole' count, kept = front ++ rest ∧ rest ≠ [] ∧
          rest.length < headerLength ∧ whole = whole' ++ List.replicate count .garbage ∧
          Trail limit rest offset front whole' := by
  have left : tail ≠ [] := List.length_pos_iff.1 (Ahead.ne_nil_of_torn torn)
  induction h with
  | here offset =>
    have sound : ¬Frayed limit ([] ++ tail) := by
      rw [List.nil_append, frayed_iff, torn]
      exact not_false
    exact .inl ⟨sound, .here offset⟩
  | @garbage offset stray kept whole nonempty long bars quiet resumes later ih =>
    have trail := Trail.garbage nonempty long bars quiet resumes later
    have some_kept : stray ++ kept ≠ [] := by
      intro nothing
      exact nonempty (List.append_eq_nil_iff.1 nothing).1
    rcases Nat.lt_or_ge (stray ++ kept).length headerLength with short | room
    · -- Nothing of what the scan passed over is long enough for a header any more.
      obtain ⟨count, same⟩ := trail.whole_of_short short
      exact .inr ⟨trail.frayed_of_short torn some_kept short,
        [], stray ++ kept, [], count, rfl, some_kept, short, same, .here offset⟩
    · have resumes' := later.resumes_onto resumes (.inl rfl)
      rw [List.append_nil] at resumes'
      have bars' := bars_exchange bars long resumes resumes' nonempty
      have frayed_iff := frayed_garbage nonempty long bars quiet resumes left
      rcases ih with ⟨sound, whole⟩ | ⟨frayed, front, rest, whole', count, rfl, some_rest, short,
        rfl, front_trail⟩
      · refine .inl ⟨?_, ?_⟩
        · rw [frayed_iff]
          rintro (⟨short, torn'⟩ | frayed)
          · -- With nothing else in front of the block, the stretch itself is long enough.
            rw [later.nil_of_torn torn', List.append_nil] at room
            omega
          · exact sound frayed
        · refine .garbage nonempty ?_ ?_ quiet ?_ whole
          · rwa [List.append_nil]
          · rwa [List.append_nil]
          · rwa [List.append_nil]
      · exact .inr ⟨frayed_iff.2 (.inr frayed), stray ++ front, rest, .garbage :: whole', count,
          (List.append_assoc ..).symm, some_rest, short, rfl,
          .garbage nonempty room bars' quiet resumes' front_trail⟩
  | @block offset header head payload kept whole read admissible announced later ih =>
    have frayed_iff : Frayed limit (head ++ (payload ++ kept) ++ tail) ↔
        Frayed limit (kept ++ tail) := by
      rw [List.append_assoc, List.append_assoc, frayed_iff,
        ahead_block read admissible announced (kept ++ tail)]
    rcases ih with ⟨sound, whole⟩ | ⟨frayed, front, rest, whole', count, rfl, some_rest, short,
      rfl, front_trail⟩
    · exact .inl ⟨frayed_iff.not.2 sound, .block read admissible announced whole⟩
    · refine .inr ⟨frayed_iff.2 frayed, head ++ (payload ++ front), rest,
        .block offset header payload :: whole', count, ?_, some_rest, short, rfl,
        .block read admissible announced front_trail⟩
      simp only [List.append_assoc]

/-- No file without a block that breaks off is frayed. -/
theorem not_frayed (h : Trail limit [] offset kept whole) : ¬Frayed limit kept := by
  induction h with
  | here =>
    rw [frayed_iff]
    exact not_false
  | @garbage offset stray kept whole nonempty long bars quiet resumes later ih =>
    rw [List.append_nil] at long bars resumes
    rw [frayed_iff, Ahead.of_bars nonempty long bars quiet resumes]
    by_cases last : kept = []
    · rw [if_pos last]
      exact not_false
    · rw [if_neg last]
      rintro (⟨-, torn⟩ | frayed)
      · refine last (later.nil_of_torn ?_)
        rwa [List.append_nil]
      · exact ih frayed
  | @block offset header head payload kept whole read admissible announced later ih =>
    rw [frayed_iff, ahead_block read admissible announced kept]
    exact ih

end Trail

/-! ## Scanning what a recovery leaves -/

/-- Garbage is passed over, whatever the policy is. -/
theorem judge_garbage (policy : Policy) (path : Path) (count : Nat) (asked : List Mismatch) :
    judge policy path (List.replicate count .garbage) asked = (.ok { skipped := count }, asked) := by
  induction count with
  | zero => rfl
  | succ count ih =>
    rw [List.replicate_succ, judge, ih]
    rfl

/-- What a scan of the valid part of a file reports, compared with the scan that called it valid. -/
def ScannedAgain (limit : Nat) (content : Bytes) (recovery again : Recovery) : Prop :=
  again.found = recovery.found ∧
    (¬Frayed limit content ∧ again = { recovery with tornAt := none } ∨
      Frayed limit content ∧ recovery.tornAt ≠ none ∧
        ∃ cut, again.tornAt = some cut ∧ cut < recovery.validLength)

/-- **A second scan** of what the first one called valid finds the same blocks.  It meets a block
that breaks off exactly if the file was frayed. -/
theorem scan_again {limit : Nat} {policy : Policy} (stateless : policy.Stateless) {path : Path}
    {content : Bytes} {asked asked' : List Mismatch} {recovery : Recovery}
    (scanned : scan limit policy path content asked = (.ok recovery, asked'))
    (told : List Mismatch) :
    ∃ again told', scan limit policy path (content.take recovery.validLength) told =
        (.ok again, told') ∧ ScannedAgain limit content recovery again := by
  obtain ⟨kept, tail, whole, tally, rfl, trail, ends, judged, rfl⟩ := scan_trail scanned
  have valid : (kept ++ tail).take (Recovery.ofTrail kept tail tally).validLength = kept :=
    List.take_left
  rw [valid]
  -- Without a block behind it the trail leads over the same pieces, and they are judged alike.
  have settled (sound : ¬Frayed limit (kept ++ tail)) (trail' : Trail limit [] 0 kept whole) :
      ∃ again told', scan limit policy path kept told = (.ok again, told') ∧
        ScannedAgain limit (kept ++ tail) (.ofTrail kept tail tally) again := by
    have scanned' := trail'.scan (.inl rfl) policy path told
    rw [judge_stateless stateless path whole told asked, judged, List.append_nil] at scanned'
    exact ⟨_, _, scanned', rfl, .inl ⟨sound, rfl⟩⟩
  rcases ends with rfl | torn
  · refine settled ?_ trail
    rw [List.append_nil]
    exact trail.not_frayed
  · rcases trail.cut torn with ⟨sound, trail'⟩ |
      ⟨frayed, front, rest, whole', count, rfl, some_rest, short, rfl, trail'⟩
    · exact settled sound trail'
    · -- The rest of the garbage has become too short for a header.
      have torn' := Ahead.of_short limit some_rest short
      have scanned' := trail'.scan (.inr torn') policy path told
      rw [trail'.judge_append] at judged
      rcases front_judged : judge policy path whole' asked with ⟨fault | tally', before⟩
      · rw [front_judged] at judged
        cases judged
      · rw [front_judged] at judged
        simp only [judge_garbage] at judged
        cases judged
        rw [judge_stateless stateless path whole' told asked, front_judged] at scanned'
        refine ⟨_, _, scanned', (List.append_nil _).symm, .inr ⟨frayed, ?_, front.length, ?_, ?_⟩⟩
        · have some_tail : tail ≠ [] := List.length_pos_iff.1 (Ahead.ne_nil_of_torn torn)
          simp [Recovery.ofTrail, some_tail]
        · exact if_neg some_rest
        · have := List.length_pos_iff.2 some_rest
          show front.length < (front ++ rest).length
          rw [List.length_append]
          omega

/-! ## Recovering twice -/

namespace BlockFile

open FileSystem OpenFile

variable {blocks : BlockFile} {disk : FileSystem} {id : FileId} {policy : Policy}
  {asked asked' : List Mismatch} {recovery : Recovery}

theorem recover_of_whole (scanned : blocks.scan policy asked disk = (.ok recovery, asked'))
    (whole : recovery.tornAt = none) :
    blocks.recover policy asked disk =
      { result := .ok recovery, asked := asked', blocks := { blocks with tornTail := none },
        disk } := by
  unfold recover
  simp only [scanned, whole]

theorem checkComplete_of_scan (scanned : blocks.scan policy asked disk = (.ok recovery, asked')) :
    (blocks.checkComplete policy asked disk).1 =
      match recovery.tornAt with
      | none => .ok recovery
      | some cut => .error (.tornBlock blocks.path cut headerLength (blocks.length disk - cut)) := by
  unfold checkComplete
  simp only [scanned]
  cases recovery.tornAt with
  | none => rfl
  | some cut => rfl

/-- A recovery and a check for completeness leave the file as it is and find nothing to cut. -/
structure Settled (blocks : BlockFile) (policy : Policy) (asked : List Mismatch)
    (disk : FileSystem) (recovery : Recovery) : Prop where
  recovered : (blocks.recover policy asked disk).result = .ok recovery
  whole : recovery.tornAt = none
  unchanged : (blocks.recover policy asked disk).disk = disk
  complete : (blocks.checkComplete policy asked disk).1 = .ok recovery

/-- A recovery cuts a torn block off the file, and a check for completeness refuses it. -/
structure CutShort (blocks : BlockFile) (policy : Policy) (asked : List Mismatch)
    (disk : FileSystem) (id : FileId) (recovery : Recovery) (cut : Nat) : Prop where
  recovered : (blocks.recover policy asked disk).result = .ok recovery
  torn : recovery.tornAt = some cut
  inside : cut < disk.length id
  shortened : (blocks.recover policy asked disk).disk.content id = (disk.content id).take cut
  refused : (blocks.checkComplete policy asked disk).1 =
    .error (.tornBlock blocks.path cut headerLength (disk.length id - cut))

theorem settled_of_scan (target : blocks.file.target = .file id)
    (holds : disk.length id ≤ disk.memory.bytes)
    (scanned : DurableStore.scan blocks.limit policy blocks.path (disk.content id) asked =
      (.ok recovery, asked')) (whole : recovery.tornAt = none) :
    blocks.Settled policy asked disk recovery := by
  have read := scan_of_target target holds scanned
  refine ⟨?_, whole, ?_, ?_⟩
  · rw [recover_of_whole read whole]
  · rw [recover_of_whole read whole]
  · rw [checkComplete_of_scan read, whole]

theorem cutShort_of_scan (writes : blocks.file.writable? = some id)
    (holds : disk.length id ≤ disk.memory.bytes)
    (scanned : DurableStore.scan blocks.limit policy blocks.path (disk.content id) asked =
      (.ok recovery, asked')) {cut : Nat} (torn : recovery.tornAt = some cut) :
    blocks.CutShort policy asked disk id recovery cut := by
  have target := target_of_writable? writes
  have read := scan_of_target target holds scanned
  have inside := (torn_lt_length read torn target).1
  have there : id < disk.contents.size := there_of_length_pos (by omega)
  obtain ⟨after, recovered, kept⟩ := recover_of_scan writes there holds scanned
  refine ⟨?_, torn, inside, ?_, ?_⟩
  · rw [recovered]
  · rw [recovered, kept, (scan_extent scanned).2.2, torn, Option.getD_some]
  · rw [checkComplete_of_scan read, torn]
    simp only [BlockFile.length, length_of_writable? writes, FileSystem.length_content]

/-- **Recovering a file again** finds the same blocks.  It leaves the file as the first recovery
left it, except if that had been frayed: then it cuts garbage off that the first one passed over. -/
theorem recover_again (stateless : policy.Stateless) {blocks' : BlockFile} {after : FileSystem}
    (recovered : blocks.recover policy asked disk =
      { result := .ok recovery, asked := asked', blocks := blocks', disk := after })
    (told : List Mismatch) :
    ∃ id again, blocks.file.target = .file id ∧ again.found = recovery.found ∧
      (¬Frayed blocks.limit (disk.content id) ∧ blocks'.Settled policy told after again ∧
          again.skipped = recovery.skipped ∨
        Frayed blocks.limit (disk.content id) ∧
          ∃ cut, blocks'.CutShort policy told after id again cut) := by
  obtain ⟨id, target, holds, scanned, rfl, kept, wrote⟩ := recover_eq_ok recovered
  obtain ⟨again, told', rescanned, found, course⟩ := scan_again stateless scanned told
  have fits : after.length id ≤ after.memory.bytes := by
    have shorter := congrArg List.length kept
    rw [FileSystem.length_content, List.length_take, FileSystem.length_content] at shorter
    have alters : AltersOnly id disk (blocks.recover policy asked disk).disk :=
      recover_alters target policy asked
    have memory := alters.memory
    rw [recovered] at memory
    rw [memory]
    omega
  rw [← kept] at rescanned
  refine ⟨id, again, target, found, ?_⟩
  rcases course with ⟨sound, rfl⟩ | ⟨frayed, broken, cut, torn, -⟩
  · exact .inl ⟨sound, settled_of_scan target fits rescanned rfl, rfl⟩
  · rcases wrote with ⟨whole, -⟩ | ⟨writes, -⟩
    · exact absurd whole broken
    · have writes' : ({ blocks with tornTail := none } : BlockFile).file.writable? = some id :=
        writes
      exact .inr ⟨frayed, cut, cutShort_of_scan writes' fits rescanned torn⟩

/-! ## Stray bytes in front of a torn block -/

/-- One block, stray bytes, and a block without its payload. -/
def strayContent (stray : Bytes) : Bytes :=
  blockOf [1] ++ (stray ++ (Header.ofPayload [2]).encode)

/-- A disk with nothing on it but these bytes. -/
def strayDisk (stray : Bytes) : FileSystem :=
  { entries := [([], .directory), (["blocks"], .file 0)]
    contents := #[.ofBytes (strayContent stray)] }

theorem content_strayDisk (stray : Bytes) : (strayDisk stray).content 0 = strayContent stray := by
  simp [strayDisk, FileSystem.content, FileSystem.stored]

/-- Sixteen stray bytes are garbage with or without what follows. -/
theorem not_frayed_stray : ¬Frayed 1024 (strayContent (List.replicate 16 0xEE)) := by
  have bars : Ahead.of 1024 (List.replicate 16 0xEE ++ (Header.ofPayload [2]).encode) =
      .garbage (some (16, (Header.ofPayload [2]).encode)) := rfl
  have torn : Ahead.of 1024 (Header.ofPayload [2]).encode = .torn :=
    Ahead.of_header (by decide) (by decide) (by decide)
  have last : ¬Frayed 1024 (Header.ofPayload [2]).encode := by
    rw [frayed_iff, torn]
    exact not_false
  rw [strayContent, frayed_iff, Ahead.of_blockOf _ (by decide) (by decide)]
  show ¬Frayed 1024 (List.replicate 16 0xEE ++ (Header.ofPayload [2]).encode)
  rw [frayed_iff, bars]
  rintro (⟨short, -⟩ | frayed)
  · exact absurd short (by decide)
  · exact last frayed

/-- What recovering such a disk comes to, or one whose file has been cut off. -/
theorem recover_of_computed (recovery : Recovery) {disk : FileSystem} {content : Bytes}
    (same : disk.content 0 = content) (there : 0 < disk.contents.size)
    (small : content.length ≤ disk.memory.bytes)
    (computed : (DurableStore.scan 1024 .fail ⟨["blocks"]⟩ content []).1.toOption =
      some recovery) :
    ∃ asked after, (fresh ⟨["blocks"]⟩ 1024 0).recover .fail [] disk =
        { result := .ok recovery, asked, blocks := fresh ⟨["blocks"]⟩ 1024 0, disk := after } ∧
      after.content 0 = content.take recovery.validLength ∧ 0 < after.contents.size ∧
      after.memory = disk.memory := by
  subst same
  have scanned : DurableStore.scan 1024 .fail ⟨["blocks"]⟩ (disk.content 0) [] =
      (.ok recovery, (DurableStore.scan 1024 .fail ⟨["blocks"]⟩ (disk.content 0) []).2) :=
    Prod.ext (toOption_eq_some.1 computed) rfl
  have writes : (fresh ⟨["blocks"]⟩ 1024 0).file.writable? = some 0 := rfl
  rw [FileSystem.length_content] at small
  obtain ⟨after, recovered, kept⟩ := recover_of_scan writes there small scanned
  have alters : AltersOnly 0 disk ((fresh ⟨["blocks"]⟩ 1024 0).recover .fail [] disk).disk :=
    recover_alters rfl .fail []
  have memory := alters.memory
  rw [recovered] at memory
  exact ⟨_, after, recovered, kept, there_of_recover rfl there recovered, memory⟩

/-- Behind sixteen stray bytes the torn block is cut off for good. -/
theorem recover_again_stray :
    ∃ recovery asked after again,
      (fresh ⟨["blocks"]⟩ 1024 0).recover .fail [] (strayDisk (List.replicate 16 0xEE)) =
        { result := .ok recovery, asked, blocks := fresh ⟨["blocks"]⟩ 1024 0, disk := after } ∧
      recovery.tornAt = some 33 ∧ again.found = recovery.found ∧
      (fresh ⟨["blocks"]⟩ 1024 0).Settled .fail [] after again := by
  obtain ⟨asked, after, recovered, -⟩ := recover_of_computed
    { found := [⟨0, [1]⟩], skipped := 1, tornAt := some 33, validLength := 33 }
    (content_strayDisk (List.replicate 16 0xEE)) Nat.one_pos (by decide +kernel)
    (by decide +kernel)
  obtain ⟨id, again, target, found, course⟩ :=
    recover_again Policy.stateless_fail recovered []
  cases target
  rcases course with ⟨-, settled, -⟩ | ⟨frayed, -⟩
  · exact ⟨_, asked, after, again, recovered, rfl, found, settled⟩
  · rw [content_strayDisk] at frayed
    exact absurd frayed not_frayed_stray

/-- One stray byte in front of a torn block is torn itself once that block is cut off. -/
theorem recover_again_cuts :
    ∃ recovery asked after again asked' final,
      (fresh ⟨["blocks"]⟩ 1024 0).recover .fail [] (strayDisk [0xEE]) =
        { result := .ok recovery, asked, blocks := fresh ⟨["blocks"]⟩ 1024 0, disk := after } ∧
      recovery.payloads = [[1]] ∧ after.length 0 = 18 ∧
      (fresh ⟨["blocks"]⟩ 1024 0).recover .fail [] after =
        { result := .ok again, asked := asked', blocks := fresh ⟨["blocks"]⟩ 1024 0,
          disk := final } ∧
      again.payloads = [[1]] ∧ again.tornAt = some 17 ∧ final.length 0 = 17 ∧
      ((fresh ⟨["blocks"]⟩ 1024 0).checkComplete .fail [] after).1 =
        .error (.tornBlock ⟨["blocks"]⟩ 17 16 1) := by
  obtain ⟨asked, after, recovered, kept, there, memory⟩ := recover_of_computed
    { found := [⟨0, [1]⟩], skipped := 1, tornAt := some 18, validLength := 18 }
    (content_strayDisk [0xEE]) Nat.one_pos (by decide +kernel) (by decide +kernel)
  have eighteen : after.length 0 = 18 := by
    rw [← FileSystem.length_content, kept]
    decide +kernel
  obtain ⟨asked', final, recovered', kept', -⟩ := recover_of_computed
    { found := [⟨0, [1]⟩], tornAt := some 17, validLength := 17 }
    kept there (by rw [memory]; decide +kernel) (by decide +kernel)
  have seventeen : final.length 0 = 17 := by
    rw [← FileSystem.length_content, kept']
    decide +kernel
  obtain ⟨id, target, holds, scanned, -⟩ := recover_eq_ok recovered'
  cases target
  have writes : (fresh ⟨["blocks"]⟩ 1024 0).file.writable? = some 0 := rfl
  have refused := (cutShort_of_scan writes holds scanned rfl).refused
  rw [eighteen] at refused
  exact ⟨_, asked, after, _, asked', final, recovered, rfl, eighteen, recovered', rfl, rfl,
    seventeen, refused⟩

end BlockFile

end DurableStore
