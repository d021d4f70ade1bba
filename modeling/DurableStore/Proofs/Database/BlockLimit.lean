import DurableStore.Proofs.Database.Reading

/-!
Opening a directory under another block limit.

A scan judges headers by the limit that it is given and not by the one that the blocks were written
under.  A block that is longer is no block to it, and it looks for the next one inside the payload.
So a record longer than the new limit is never recovered, and an opening that does not fail gives
back exactly the records if and only if all of them are short enough (`reopened_recovers_iff`).
Where no magic stands inside the longer blocks, what comes back are the shorter records
(`judge_row_filter`).
-/

namespace DurableStore

open FileSystem Database

/-! ## Blocks longer than the limit -/

/-- A block that is found under a limit, or hides no magic from a scan that passes over it. -/
def Unmistakable (limit : Nat) (payload : Bytes) : Prop :=
  payload.length ≤ limit ∨ Quiet ((blockOf payload).drop 1)

instance (limit : Nat) (payload : Bytes) : Decidable (Unmistakable limit payload) :=
  inferInstanceAs (Decidable (_ ∨ _))

/-- A block longer than the limit is passed over, if it hides no magic. -/
theorem pieces_of_overlong {limit : Nat} (offset : Nat) {payload : Bytes}
    (bounded : payload.length ≤ Config.largestBlockLimit) (overlong : limit < payload.length)
    (quiet : Quiet ((blockOf payload).drop 1)) (later : List Bytes) :
    pieces limit offset (blockOf payload ++ row later) =
      .garbage :: pieces limit (offset + (blockOf payload).length) (row later) := by
  obtain ⟨junk, same⟩ : ∃ junk, blockOf payload = 0x4B :: junk := ⟨_, rfl⟩
  have read : Header.parse? (blockOf payload ++ row later) =
      some (.ofPayload payload, payload ++ row later) := by
    rw [blockOf, List.append_assoc]
    exact Header.parse?_encode _ _ rfl
  have announced := Header.length_ofPayload (Nat.le_refl _) bounded
  have inadmissible : (Header.ofPayload payload).admissible limit = false := by
    rw [Header.admissible, announced, decide_eq_false (Nat.not_le.2 overlong), Bool.and_false]
  rw [same] at quiet read ⊢
  exact pieces_of_inadmissible offset read inadmissible quiet

/-- **What a scan finds of a row under any limit** are the payloads within the limit, if the other
blocks hide no magic. -/
theorem judge_row_filter {limit : Nat} (bounded : limit ≤ Config.largestBlockLimit)
    (policy : Policy) (path : Path) (offset : Nat) {payloads : List Bytes}
    (small : ∀ payload ∈ payloads, payload.length ≤ Config.largestBlockLimit)
    (clear : ∀ payload ∈ payloads, Unmistakable limit payload) (asked : List Mismatch) :
    ∃ tally, judge policy path (pieces limit offset (row payloads)) asked = (.ok tally, asked) ∧
      tally.found.map Found.payload = payloads.filter (·.length ≤ limit) := by
  induction payloads generalizing offset with
  | nil =>
    rw [row_nil, pieces_nil]
    exact ⟨{}, rfl, rfl⟩
  | cons payload later ih =>
    obtain ⟨tally, judged, found⟩ := ih (offset + (blockOf payload).length)
      (fun other member => small other (List.mem_cons_of_mem _ member))
      (fun other member => clear other (List.mem_cons_of_mem _ member))
    rw [row_cons]
    by_cases fits : payload.length ≤ limit
    · have ahead := Ahead.of_blockOf (row later) bounded fits
      rw [length_blockOf, ← Nat.add_assoc] at judged
      have verified : Checksum.crc32c payload = (Header.ofPayload payload).checksum := rfl
      rw [pieces_of_ahead offset ahead]
      simp only [judge_of_match policy verified, judged]
      refine ⟨_, rfl, ?_⟩
      rw [List.filter_cons_of_pos (by simpa using fits), ← found]
      rfl
    · have quiet := (clear payload List.mem_cons_self).resolve_left fits
      rw [pieces_of_overlong offset (small payload List.mem_cons_self) (Nat.lt_of_not_le fits)
        quiet, judge, judged]
      refine ⟨_, rfl, ?_⟩
      rw [List.filter_cons_of_neg (by simpa using fits), ← found]
      rfl

/-! ## One file under another limit -/

section Reading

variable {disk : FileSystem} {path : Path} {name : String} {limit written : Nat} {id : FileId}
  {payloads : List Bytes}

/-- What is read under any limit is no longer than the limit, and begins with the blocks in front of
the first longer one. -/
theorem readLasting_row (bounded : limit ≤ Config.largestBlockLimit)
    (stores : disk.Stores id written payloads none) {recovery : Recovery}
    (read : readLasting disk path name limit id = .ok recovery) :
    (∀ payload ∈ recovery.payloads, payload.length ≤ limit) ∧
      ((∀ payload ∈ payloads, payload.length ≤ limit) → recovery.payloads = payloads) ∧
      ∀ front rest, payloads = front ++ rest → (∀ payload ∈ front, payload.length ≤ limit) →
        front <+: recovery.payloads := by
  have content := content_of_stores stores
  unfold readLasting at read
  split at read
  next => cases read
  next =>
    have scanned : scan limit .fail (path.child name) (row payloads) [] =
        (.ok recovery, (scan limit .fail (path.child name) (row payloads) []).2) := by
      rw [← content]
      exact Prod.ext read rfl
    refine ⟨?_, ?_, ?_⟩
    · intro payload member
      obtain ⟨found, among, rfl⟩ := List.mem_map.1 member
      exact ((scan_extent scanned).1 found among).2
    · intro fit
      rw [scan_whole_row bounded .fail _ fit []] at scanned
      obtain rfl := Except.ok.inj (congrArg Prod.fst scanned)
      exact Recovery.payloads_ofRow payloads none
    · rintro front rest rfl fit
      rw [row_append] at scanned
      exact prefix_of_scan bounded fit scanned

/-- A file whose longer blocks hide no magic is read in any case. -/
theorem readLasting_filter (bounded : limit ≤ Config.largestBlockLimit)
    (small : written ≤ Config.largestBlockLimit) (stores : disk.Stores id written payloads none)
    (holds : disk.length id ≤ disk.memory.bytes)
    (clear : ∀ payload ∈ payloads, Unmistakable limit payload) :
    ∃ recovery, readLasting disk path name limit id = .ok recovery ∧
      recovery.payloads = payloads.filter (·.length ≤ limit) := by
  have content := content_of_stores stores
  obtain ⟨tally, judged, found⟩ := judge_row_filter bounded .fail (path.child name) 0
    (fun payload member => Nat.le_trans (stores.fit payload member) small) clear []
  refine ⟨.ofTally (row payloads).length tally, ?_, found⟩
  rw [readLasting_of_le holds, content, scan, Recovery.ofPieces, judged]
  rfl

end Reading

/-! ## The database under another configuration -/

/-- **Reopening under another configuration** gives back the committed records if and only if all
of them are within the new block limit, and in any case those in front of the first that is not.
It fails neither where all are within the limit nor where the others hide no magic: those are
passed over without a word. -/
theorem reopened_recovers_iff {disk : FileSystem} {path : Path} {written reopened : Config}
    {files : LastingFile → FileId} {contents : LastingFile → List Bytes}
    (sound : written.problem? = none) (sound' : reopened.problem? = none)
    (undamaged : Undamaged disk path written.blockLimit files contents) (owner : String) :
    (∀ database after, Database.openAt disk path reopened owner = (.ok database, after) →
      (database.recovered = contents .journal ↔
          ∀ record ∈ contents .journal, record.length ≤ reopened.blockLimit) ∧
        ∀ front rest, contents .journal = front ++ rest →
          (∀ record ∈ front, record.length ≤ reopened.blockLimit) →
          front <+: database.recovered) ∧
      (FitsMemory disk path →
        (∀ which, ∀ payload ∈ contents which, Unmistakable reopened.blockLimit payload) →
        ∃ database after, Database.openAt disk path reopened owner = (.ok database, after) ∧
          database.recovered =
            (contents .journal).filter (·.length ≤ reopened.blockLimit)) := by
  have small := ((Config.problem?_eq_none_iff written).1 sound).2.2.1
  have bounded := ((Config.problem?_eq_none_iff reopened).1 sound').2.2.1
  obtain ⟨idsThere, idsStore⟩ := (undamaged.holding .reservations).stores
  obtain ⟨journalThere, journalStores⟩ := (undamaged.holding .journal).stores
  refine ⟨?_, ?_⟩
  · intro database after opens
    obtain ⟨_, recovery, _, read, found⟩ := reads_of_openingOf sound' undamaged.directory idsThere
      journalThere undamaged.apart (openingOf_eq_ok.2 ⟨database, after, opens, rfl⟩)
    have recovered : database.recovered = recovery.payloads := congrArg Findings.recovered found
    obtain ⟨within, whole, front⟩ := readLasting_row bounded journalStores read
    rw [recovered]
    refine ⟨⟨?_, whole⟩, front⟩
    intro same record member
    rw [← same] at member
    exact within record member
  · intro holds clear
    have idsFit := holds _ List.mem_cons_self _ (undamaged.holding .reservations).lengthAt?
    have journalFits :=
      holds _ (List.mem_cons_of_mem _ List.mem_cons_self) _ (undamaged.holding .journal).lengthAt?
    obtain ⟨reservations, readIds, -⟩ :=
      readLasting_filter bounded small idsStore idsFit (clear .reservations)
    obtain ⟨records, readJournal, filtered⟩ :=
      readLasting_filter bounded small journalStores journalFits (clear .journal)
    have opening := openAt_findings sound' undamaged.directory idsThere journalThere
      undamaged.apart owner
    rw [readIds, readJournal] at opening
    obtain ⟨database, after, opens, found⟩ := openingOf_eq_ok.1 opening
    exact ⟨database, after, opens, (congrArg Findings.recovered found).trans filtered⟩

/-- A configuration with a smaller block limit than the one for tests. -/
def narrow : Config :=
  { Config.testing with blockLimit := 16, inlineLimit := 16 }

theorem reopened_recovers_iff_narrow :
    ∃ database after,
      Database.openAt (diskWith [] [[1], List.replicate 17 0, [2]]) ⟨["", "db"]⟩ narrow "b" =
        (.ok database, after) ∧
      database.recovered = [[1], [2]] ∧
      (database.recovered = [[1], List.replicate 17 0, [2]] ↔
        ∀ record ∈ ([[1], List.replicate 17 0, [2]] : List Bytes),
          record.length ≤ narrow.blockLimit) := by
  have sound : Config.testing.problem? = none := by decide
  have sound' : narrow.problem? = none := by decide
  have undamaged : Undamaged (diskWith [] [[1], List.replicate 17 0, [2]]) ⟨["", "db"]⟩
      Config.testing.blockLimit diskWithFiles
      (diskWithContents [] [[1], List.replicate 17 0, [2]]) :=
    undamaged_diskWith (by decide) (by decide)
  obtain ⟨recovers, opens⟩ := reopened_recovers_iff sound sound' undamaged "b"
  have clear : ∀ which, ∀ payload ∈ diskWithContents [] [[1], List.replicate 17 0, [2]] which,
      Unmistakable narrow.blockLimit payload := by
    intro which
    cases which with
    | reservations => exact List.forall_mem_nil _
    | journal => decide +kernel
  obtain ⟨database, after, opened, filtered⟩ := opens (by decide +kernel) clear
  exact ⟨database, after, opened, filtered, (recovers database after opened).1⟩

/-- A record that is itself a block is lost under the smaller limit, and what it holds is taken
for a record. -/
theorem reopened_narrow_recovers_inside :
    Config.testing.problem? = none ∧ narrow.problem? = none ∧ ∃ database after,
      Database.openAt (diskWith [] [blockOf [7]]) ⟨["", "db"]⟩ narrow "b" = (.ok database, after) ∧
        database.recovered = [[7]] := by
  have computed : ((Database.openAt (diskWith [] [blockOf [7]]) ⟨["", "db"]⟩ narrow
      "b").1.toOption.map (·.recovered)) = some [[7]] := by decide +kernel
  obtain ⟨database, opened, recovered⟩ := Option.map_eq_some_iff.1 computed
  exact ⟨by decide, by decide, database, _, Prod.ext (toOption_eq_some.1 opened) rfl, recovered⟩

end DurableStore
