import DurableStore.Proofs.BlockFile.Soundness

/-!
What a policy decides about a scan.

Where a file is cut into pieces does not depend on the policy, and neither does which of the blocks
cannot be verified.  These lie one behind another, so a policy is asked about none of them twice
(`mismatches_apart`), and a scan under any policy is the scan that skips, up to a refusal
(`scan_as_consulted`).
-/

namespace DurableStore

/-! ## The mismatches of a file -/

/-- One mismatch lies behind the other, with a header in between. -/
def Mismatch.Before (before after : Mismatch) : Prop :=
  before.stop + headerLength ≤ after.start

theorem exists_piece_of_mismatch {path : Path} {pieces : List Piece} {found : Mismatch}
    (met : found ∈ mismatches path pieces) :
    ∃ offset header payload, .block offset header payload ∈ pieces ∧
      found = .ofBlock path offset header payload := by
  induction pieces with
  | nil => cases met
  | cons piece later ih =>
    have behind (met : found ∈ mismatches path later) :
        ∃ offset header payload, .block offset header payload ∈ piece :: later ∧
          found = .ofBlock path offset header payload := by
      obtain ⟨offset, header, payload, member, same⟩ := ih met
      exact ⟨offset, header, payload, List.mem_cons_of_mem _ member, same⟩
    cases piece with
    | torn offset => cases met
    | garbage => exact behind met
    | block offset header payload =>
      rw [mismatches] at met
      split at met
      next => exact behind met
      next =>
        rcases List.mem_cons.1 met with rfl | met
        · exact ⟨offset, header, payload, List.mem_cons_self, rfl⟩
        · exact behind met

/-- No mismatch is longer than a header can announce. -/
theorem short_of_mismatch {limit : Nat} {path : Path} {content : Bytes} {found : Mismatch}
    (met : found ∈ mismatches path (pieces limit 0 content)) :
    found.stop ≤ found.start + Config.largestBlockLimit := by
  obtain ⟨offset, header, payload, piece, rfl⟩ := exists_piece_of_mismatch met
  obtain ⟨rest, ahead⟩ := pieces_standing limit 0 (List.drop_zero (l := content)) _ piece
  obtain ⟨announced, -⟩ := Ahead.of_eq_complete ahead
  have short := announced_le header.length
  show offset + headerLength + payload.length ≤ offset + headerLength + _
  omega

/-- The mismatches lie in the file one behind another. -/
theorem mismatches_apart (path : Path) {pieces : List Piece}
    (ordered : pieces.Pairwise Piece.Before) :
    (mismatches path pieces).Pairwise Mismatch.Before := by
  induction pieces with
  | nil => exact .nil
  | cons piece later ih =>
    obtain ⟨front, rest⟩ := List.pairwise_cons.1 ordered
    cases piece with
    | torn offset => exact .nil
    | garbage => exact ih rest
    | block offset header payload =>
      rw [mismatches]
      split
      next => exact ih rest
      next =>
        refine List.pairwise_cons.2 ⟨?_, ih rest⟩
        intro found met
        obtain ⟨offset', header', payload', member, rfl⟩ := exists_piece_of_mismatch met
        have behind : offset + headerLength + payload.length ≤ offset' := front _ member
        exact Nat.add_le_add_right behind headerLength

/-- A scan is judged alike under every policy that accepts the mismatches of the file. -/
theorem scan_consults (limit : Nat) (path : Path) (content : Bytes) :
    ∃ recovery met, met.Pairwise Mismatch.Before ∧
      ∀ (policy : Policy) (asked : List Mismatch), scan limit policy path content asked =
        ((policy.consult asked met).1.map fun () => recovery, (policy.consult asked met).2) := by
  obtain ⟨tally, judged⟩ := judge_consults path (pieces limit 0 content)
  refine ⟨.ofTally content.length tally, mismatches path (pieces limit 0 content),
    mismatches_apart path (pieces_ordered limit 0 content), fun policy asked => ?_⟩
  rw [scan, Recovery.ofPieces, judged]
  rcases policy.consult asked _ with ⟨fault | accepted, told⟩ <;> rfl

/-- What a scan that skips has met decides what a scan under another policy does. -/
theorem scan_of_scan_skip {limit : Nat} {path : Path} {content : Bytes} {recovery : Recovery}
    {met : List Mismatch} (skipped : scan limit .skip path content [] = (.ok recovery, met))
    (policy : Policy) (asked : List Mismatch) :
    scan limit policy path content asked =
      ((policy.consult asked met).1.map fun () => recovery, (policy.consult asked met).2) := by
  obtain ⟨recovery', met', -, scans⟩ := scan_consults limit path content
  have same := scans .skip []
  rw [Policy.consult_of_accepts (Policy.accepts_skip [] met'), List.nil_append, skipped] at same
  cases same
  exact scans policy asked

/-- The default policy makes a fault of a mismatch of the file, and of nothing else. -/
theorem scan_fail_eq_error {limit : Nat} {path : Path} {content : Bytes}
    {asked asked' : List Mismatch} {fault : Fault}
    (scanned : scan limit .fail path content asked = (.error fault, asked')) :
    ∃ found ∈ mismatches path (pieces limit 0 content), fault = .corruption found := by
  obtain ⟨tally, judged⟩ := judge_consults path (pieces limit 0 content)
  rw [scan, Recovery.ofPieces, judged] at scanned
  rcases Policy.fail.consult_cases asked (mismatches path (pieces limit 0 content)) with
    ⟨-, goes⟩ | ⟨front, refused, back, fault', same, -, refusal, stops⟩
  · rw [goes] at scanned
    cases scanned
  · rw [stops] at scanned
    cases scanned
    cases refusal
    exact ⟨refused, same ▸ List.mem_append_right _ List.mem_cons_self, rfl⟩

/-! ## Scanning a file -/

/-- A disk with one file on it, and nothing else. -/
def FileSystem.ofFile (content : Bytes) : FileSystem :=
  { entries := [([], .directory), (["blocks"], .file 0)], contents := #[.ofBytes content] }

theorem FileSystem.content_ofFile (content : Bytes) : (ofFile content).content 0 = content := by
  simp [ofFile, FileSystem.content, FileSystem.stored]

namespace BlockFile

variable {blocks : BlockFile} {disk : FileSystem} {content : Bytes}

/-- **A policy only decides whether to go on.**  It is asked about the mismatches that a scan that
skips meets, in their order and about none of them twice; if it accepts them all, the two scans
report the same, and otherwise the scan fails with the fault of the first refusal and asks no
further. -/
theorem scan_as_consulted (read : blocks.file.readAll disk = .ok content) (policy : Policy)
    (asked : List Mismatch) :
    ∃ recovery met, blocks.scan .skip [] disk = (.ok recovery, met) ∧
      met.Pairwise Mismatch.Before ∧
      Cursor.scan? blocks.limit policy blocks.path content asked =
        some (blocks.scan policy asked disk) ∧
      (policy.Accepts asked met ∧ blocks.scan policy asked disk = (.ok recovery, asked ++ met) ∨
        ∃ front refused back fault, met = front ++ refused :: back ∧ policy.Accepts asked front ∧
          policy.verdict (asked ++ front) refused = .error fault ∧
          blocks.scan policy asked disk = (.error fault, asked ++ front ++ [refused])) ∧
      ((∃ found, (blocks.scan .fail asked disk).1 = .ok found) ↔ met = []) := by
  obtain ⟨recovery, met, apart, consults⟩ := scan_consults blocks.limit blocks.path content
  have scans (policy : Policy) (asked : List Mismatch) : blocks.scan policy asked disk =
      ((policy.consult asked met).1.map fun () => recovery, (policy.consult asked met).2) := by
    rw [scan_eq, read]
    exact consults policy asked
  refine ⟨recovery, met, ?_, apart, ?_, ?_, ?_⟩
  · rw [scans, Policy.consult_of_accepts (Policy.accepts_skip [] met)]
    rfl
  · rw [scan_eq, read]
    exact Cursor.scan?_eq ..
  · rw [scans]
    rcases policy.consult_cases asked met with
      ⟨accepts, goes⟩ | ⟨front, refused, back, fault, same, accepts, refusal, stops⟩
    · refine .inl ⟨accepts, ?_⟩
      rw [goes]
      rfl
    · refine .inr ⟨front, refused, back, fault, same, accepts, refusal, ?_⟩
      rw [stops]
      rfl
  · rw [scans]
    cases met with
    | nil => exact iff_of_true ⟨recovery, rfl⟩ rfl
    | cons first later =>
      refine iff_of_false ?_ (List.cons_ne_nil first later)
      rintro ⟨found, succeeds⟩
      cases succeeds

/-- Three blocks; neither the first payload nor the last is the one that was written. -/
def twiceRotten : Bytes :=
  (Header.ofPayload [1]).encode ++ [0xF1] ++ blockOf [2] ++ (Header.ofPayload [3]).encode ++ [0xF3]

/-- What a scan meets in the first of them. -/
def rottenFirst : Mismatch :=
  .ofBlock ⟨["blocks"]⟩ 0 (.ofPayload [1]) [0xF1]

/-- What a scan meets in the last of them. -/
def rottenLast : Mismatch :=
  .ofBlock ⟨["blocks"]⟩ 34 (.ofPayload [3]) [0xF3]

/-- A policy that tolerates one mismatch accepts the first and refuses the last. -/
theorem scan_as_consulted_tolerant :
    ∃ recovery, (fresh ⟨["blocks"]⟩ 1024 0).scan .skip [] (.ofFile twiceRotten) =
        (.ok recovery, [rottenFirst, rottenLast]) ∧
      recovery.payloads = [[2]] ∧ recovery.skipped = 2 ∧
      (fresh ⟨["blocks"]⟩ 1024 0).scan (.tolerate 1) [] (.ofFile twiceRotten) =
        (.error (.corruption rottenLast), [rottenFirst, rottenLast]) := by
  have read : (fresh ⟨["blocks"]⟩ 1024 0).file.readAll (.ofFile twiceRotten) =
      .ok twiceRotten := toOption_eq_some.1 (by decide +kernel)
  have reports : ((fresh ⟨["blocks"]⟩ 1024 0).scan .skip [] (.ofFile twiceRotten)).1 =
      .ok { found := [⟨17, [2]⟩], skipped := 2, validLength := 51 } :=
    toOption_eq_some.1 (by decide +kernel)
  have meets : ((fresh ⟨["blocks"]⟩ 1024 0).scan .skip [] (.ofFile twiceRotten)).2 =
      [rottenFirst, rottenLast] := by decide +kernel
  obtain ⟨recovery, met, skips, -, -, outcome, -⟩ := scan_as_consulted read (.tolerate 1) []
  cases (congrArg Prod.fst skips).symm.trans reports
  cases (congrArg Prod.snd skips).symm.trans meets
  refine ⟨_, skips, rfl, rfl, ?_⟩
  rcases outcome with ⟨accepts, -⟩ | ⟨front, refused, back, fault, same, -, refusal, stops⟩
  · have accepted := accepts [rottenFirst] rottenLast [] rfl
    cases accepted
  · -- The first mismatch is not refused, so it is the last one that is.
    match front, same with
    | [], _ => cases refusal
    | [first], same =>
      have here : first = rottenFirst := (List.cons.inj same).1.symm
      have behind : refused = rottenLast := (List.cons.inj (List.cons.inj same).2).1.symm
      subst here behind
      cases refusal
      exact stops
    | _ :: _ :: _, same => simp at same

end BlockFile

end DurableStore
