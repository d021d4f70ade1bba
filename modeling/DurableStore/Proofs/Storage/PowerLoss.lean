import Mathlib.Data.List.Induction
import DurableStore.Proofs.Storage.Requests

/-!
The power of a storage once it is gone.

Its switch is armed, reset and asked by writes in any order (`PowerSwitch.run`).  From a check that
fails until the next reset the power stays off, were it not for `arm`: that schedules a new failure
and forgets that there was one, so the power is back for the checks in front of the new failure, and
for all of them if none is scheduled (`lasts_run_iff`).  Hence all checks of such a stretch fail
exactly if whatever is armed in front of a check fails with that very check, and a block is written
exactly where the last call to `arm` leaves the power on for both of its checks (`stays_off_iff`).
-/

namespace DurableStore

namespace PowerSwitch

/-! ## Runs of a switch -/

/-- What is done with a switch. -/
inductive Use where
  /-- A failure is scheduled. -/
  | arm (countdown : Nat)
  /-- The power is restored. -/
  | reset
  /-- A write asks whether the power is on. -/
  | check
  deriving DecidableEq, Repr

/-- Uses a switch time and again; what the checks answered, and the switch afterwards. -/
def run (power : PowerSwitch) : List Use → List Bool × PowerSwitch
  | [] => ([], power)
  | .arm countdown :: rest => (power.arm countdown).run rest
  | .reset :: rest => power.reset.run rest
  | .check :: rest =>
    let (isOn, power) := power.check
    let (answers, power) := power.run rest
    (isOn :: answers, power)

theorem run_append (power : PowerSwitch) (front rest : List Use) :
    power.run (front ++ rest) =
      ((power.run front).1 ++ ((power.run front).2.run rest).1,
        ((power.run front).2.run rest).2) := by
  induction front generalizing power with
  | nil => rfl
  | cons use front ih =>
    cases use with
    | arm countdown => exact ih (power.arm countdown)
    | reset => exact ih power.reset
    | check =>
      show (power.isOn :: (power.afterCheck.run (front ++ rest)).1,
        (power.afterCheck.run (front ++ rest)).2) = _
      rw [ih power.afterCheck]
      rfl

/-- No check finds the power on, exactly if it is off in front of every check. -/
theorem answers_false_iff (power : PowerSwitch) (uses : List Use) :
    (∀ answer ∈ (power.run uses).1, answer = false) ↔
      ∀ front rest, uses = front ++ .check :: rest → (power.run front).2.isOn = false := by
  induction uses using List.reverseRecOn with
  | nil =>
    have unsplit : ∀ front rest, [] ≠ front ++ Use.check :: rest := by simp
    exact ⟨fun _ front rest split => absurd split (unsplit front rest), by simp [run]⟩
  | append_singleton uses use ih =>
    have answers : (power.run (uses ++ [use])).1 =
        (power.run uses).1 ++ ((power.run uses).2.run [use]).1 := by
      rw [run_append]
    -- A check is one of the uses before, or it is the last one.
    have splits : (∀ front rest, uses ++ [use] = front ++ .check :: rest →
          (power.run front).2.isOn = false) ↔
        (∀ front rest, uses = front ++ .check :: rest → (power.run front).2.isOn = false) ∧
          (use = .check → (power.run uses).2.isOn = false) := by
      constructor
      · intro off
        refine ⟨fun front rest split => off front (rest ++ [use]) (by simp [split]), ?_⟩
        rintro rfl
        exact off uses [] rfl
      · rintro ⟨earlier, last⟩ front rest split
        cases rest using List.reverseRecOn with
        | nil =>
          obtain ⟨rfl, same⟩ := List.append_inj' split rfl
          exact last (List.singleton_inj.1 same)
        | append_singleton rest _ =>
          rw [← List.cons_append, ← List.append_assoc] at split
          exact earlier front rest (List.append_inj' split rfl).1
    rw [answers, splits, ← ih]
    cases use with
    | arm | reset => simp [run]
    | check => simp [run, check, or_imp, forall_and]

/-! ## How long the power lasts -/

/-- Whether that many more checks, at least one, would find the power on. -/
def lasts : PowerSwitch → Nat → Prop
  | .disarmed, _ => True
  | .armed remaining, checks => checks < remaining
  | .tripped, _ => False

theorem lasts_one (power : PowerSwitch) : power.lasts 1 ↔ power.isOn = true := by
  cases power <;> simp [lasts, isOn]

/-- A check uses up one of them. -/
theorem lasts_afterCheck (power : PowerSwitch) (checks : Nat) (positive : 0 < checks) :
    power.afterCheck.lasts checks ↔ power.lasts (checks + 1) := by
  cases power with
  | disarmed | tripped => exact Iff.rfl
  | armed remaining =>
    simp only [afterCheck]
    split
    next more =>
      show checks < remaining - 1 ↔ checks + 1 < remaining
      omega
    next last =>
      have short : ¬checks + 1 < remaining := by omega
      exact ⟨False.elim, short⟩

theorem lasts_two (power : PowerSwitch) :
    power.lasts 2 ↔ power.isOn = true ∧ power.afterCheck.isOn = true := by
  rw [← lasts_one power.afterCheck, lasts_afterCheck power 1 Nat.one_pos]
  constructor
  · intro lasts
    refine ⟨?_, lasts⟩
    cases power with
    | disarmed => rfl
    | armed remaining =>
      have more : 2 < remaining := lasts
      exact decide_eq_true (show 1 < remaining by omega)
    | tripped => exact lasts.elim
  · exact fun both => both.2

theorem lasts_ofCountdown (countdown checks : Nat) :
    (ofCountdown countdown).lasts checks ↔ countdown = 0 ∨ checks < countdown := by
  unfold ofCountdown
  split
  next zero =>
    show True ↔ _
    simp [zero]
  next nonzero =>
    show checks < countdown ↔ _
    simp [nonzero]

/-- Where the power is off, a check leaves it off for good. -/
theorem afterCheck_of_off {power : PowerSwitch} (off : power.isOn = false) :
    power.afterCheck = .tripped := by
  cases power with
  | disarmed => cases off
  | armed remaining => exact if_neg (of_decide_eq_false off)
  | tripped => rfl

/-- The last call to `arm` leaves the power on for that many more checks. -/
def Rearmed (checks : Nat) (uses : List Use) : Prop :=
  ∃ front countdown made, uses = front ++ .arm countdown :: List.replicate made .check ∧
    (countdown = 0 ∨ made + checks < countdown)

theorem arm_checks_succ (front : List Use) (countdown made : Nat) :
    front ++ .arm countdown :: List.replicate (made + 1) .check =
      (front ++ .arm countdown :: List.replicate made .check) ++ [.check] := by
  simp [List.replicate_succ']

theorem rearmed_arm (uses : List Use) (countdown checks : Nat) :
    Rearmed checks (uses ++ [.arm countdown]) ↔ countdown = 0 ∨ checks < countdown := by
  constructor
  · rintro ⟨front, countdown', made, same, on⟩
    cases made with
    | zero =>
      have last := (List.append_inj' same rfl).2
      simp only [List.replicate_zero, List.cons.injEq, Use.arm.injEq, and_true] at last
      subst last
      omega
    | succ made =>
      rw [arm_checks_succ] at same
      cases (List.append_inj' same rfl).2
  · intro on
    exact ⟨uses, countdown, 0, rfl, by omega⟩

theorem rearmed_check (uses : List Use) (checks : Nat) :
    Rearmed checks (uses ++ [.check]) ↔ Rearmed (checks + 1) uses := by
  constructor
  · rintro ⟨front, countdown, made, same, on⟩
    cases made with
    | zero => cases (List.append_inj' same rfl).2
    | succ made =>
      rw [arm_checks_succ] at same
      exact ⟨front, countdown, made, List.append_cancel_right same, by omega⟩
  · rintro ⟨front, countdown, made, rfl, on⟩
    exact ⟨front, countdown, made + 1, (arm_checks_succ front countdown made).symm, by omega⟩

/-- **How long the power is back** after it was gone and without a reset is up to the last call to
`arm`. -/
theorem lasts_run_iff {uses : List Use} (unreset : .reset ∉ uses) {checks : Nat}
    (positive : 0 < checks) :
    (run .tripped uses).2.lasts checks ↔ Rearmed checks uses := by
  induction uses using List.reverseRecOn generalizing checks with
  | nil =>
    show False ↔ _
    simp [Rearmed]
  | append_singleton uses use ih =>
    have before : .reset ∉ uses := fun member => unreset (List.mem_append_left _ member)
    rw [run_append]
    cases use with
    | arm countdown =>
      show (ofCountdown countdown).lasts checks ↔ _
      rw [lasts_ofCountdown, rearmed_arm]
    | reset => simp at unreset
    | check =>
      show (run .tripped uses).2.afterCheck.lasts checks ↔ _
      rw [lasts_afterCheck _ checks positive, rearmed_check]
      exact ih before (Nat.succ_pos checks)

/-- No check finds the power back, exactly if each one that directly follows a call to `arm` is the
one that is to fail. -/
theorem rearmed_iff_arm (between : List Use) :
    (∀ front rest, between = front ++ .check :: rest → ¬Rearmed 1 front) ↔
      ∀ front countdown rest, between = front ++ .arm countdown :: .check :: rest →
        countdown = 1 := by
  constructor
  · intro off front countdown rest split
    have dark := off (front ++ [.arm countdown]) rest (by simp [split])
    rw [rearmed_arm] at dark
    omega
  · rintro armed front rest split ⟨earlier, countdown, made, rfl, on⟩
    have one : countdown = 1 := by
      cases made with
      | zero => exact armed earlier countdown rest (by simp [split])
      | succ made =>
        refine armed earlier countdown (List.replicate made .check ++ .check :: rest) ?_
        simp [split, List.replicate_succ]
    omega

end PowerSwitch

open PowerSwitch

/-! ## The checks of an append -/

/-- The first write of an append asks at most once, and it is made only if the power is on then. -/
theorem BlockFile.appendHeader_power (blocks : BlockFile) (payload : Bytes) (power : PowerSwitch)
    (disk : FileSystem) :
    ((blocks.appendHeader payload power disk).power = power ∨
        (blocks.appendHeader payload power disk).power = power.afterCheck) ∧
      ∀ offset, (blocks.appendHeader payload power disk).result = .ok offset →
        power.isOn = true ∧ (blocks.appendHeader payload power disk).power = power.afterCheck := by
  unfold BlockFile.appendHeader
  cases stamp blocks.limit payload with
  | error fault => exact ⟨.inl rfl, by rintro offset ⟨⟩⟩
  | ok block =>
    cases on : power.isOn with
    | false =>
      simp only [check, on]
      exact ⟨.inr rfl, by rintro offset ⟨⟩⟩
    | true =>
      simp only [check, on, Bool.not_true, Bool.false_eq_true, if_false]
      rcases blocks.cutTornTail disk with ⟨fault | _, bare⟩
      · exact ⟨.inr rfl, by rintro offset ⟨⟩⟩
      · exact ⟨.inr rfl, fun _ _ => ⟨trivial, rfl⟩⟩

/-- The second write asks once, and it is made only if the power is on then. -/
theorem BlockFile.appendPayload_power (blocks : BlockFile) (offset : Nat) (payload : Bytes)
    (power : PowerSwitch) (disk : FileSystem) :
    (blocks.appendPayload offset payload power disk).power = power.afterCheck ∧
      ∀ start, (blocks.appendPayload offset payload power disk).result = .ok start →
        power.isOn = true := by
  unfold BlockFile.appendPayload
  cases on : power.isOn with
  | false =>
    simp only [check, on]
    exact ⟨rfl, by rintro start ⟨⟩⟩
  | true =>
    simp only [check, on, Bool.not_true, Bool.false_eq_true, if_false]
    rcases blocks.file.append disk payload with ⟨fault | _, written⟩
    · exact ⟨rfl, by rintro start ⟨⟩⟩
    · exact ⟨rfl, fun _ _ => trivial⟩

/-- An append asks at most twice, and it writes its block only if the power was on each time. -/
theorem BlockFile.append_power (blocks : BlockFile) (payload : Bytes) (power : PowerSwitch)
    (disk : FileSystem) :
    (∃ made ≤ 2, (blocks.append payload power disk).power =
        (power.run (List.replicate made .check)).2) ∧
      ∀ offset, (blocks.append payload power disk).result = .ok offset → power.lasts 2 := by
  obtain ⟨asked, going⟩ := blocks.appendHeader_power payload power disk
  cases begun : (blocks.appendHeader payload power disk).result with
  | error fault =>
    rw [BlockFile.append_of_error begun, begun]
    refine ⟨?_, by rintro offset ⟨⟩⟩
    rcases asked with unasked | once
    · exact ⟨0, by omega, unasked⟩
    · exact ⟨1, by omega, once⟩
  | ok start =>
    obtain ⟨on, once⟩ := going start begun
    obtain ⟨twice, still⟩ := (blocks.appendHeader payload power disk).blocks.appendPayload_power
      start payload (blocks.appendHeader payload power disk).power
      (blocks.appendHeader payload power disk).disk
    rw [once] at still twice
    rw [BlockFile.append_of_ok begun, once]
    exact ⟨⟨2, by omega, twice⟩, fun offset written => (lasts_two power).2 ⟨on, still _ written⟩⟩

/-- With power for both of its checks and room for the block, an append writes it. -/
theorem BlockFile.Keeps.append_ok {blocks : BlockFile} {disk : FileSystem} {id : FileId}
    {kept payload : Bytes} {power : PowerSwitch} (keeps : blocks.Keeps disk id kept)
    (fits : payload.length ≤ blocks.limit)
    (room : kept.length + headerLength + payload.length ≤ OpenFile.largestOffset)
    (lasts : power.lasts 2) :
    (blocks.append payload power disk).result = .ok kept.length := by
  obtain ⟨on, still⟩ := (lasts_two power).1 lasts
  have attempt := keeps.attempt payload power
  generalize blocks.append payload power disk = appended at attempt
  cases attempt with
  | oversized long => omega
  | dark _ off => simp [on] at off
  | uncut _ _ far => omega
  | crowded _ _ crowded => omega
  | broken _ _ off => simp [still] at off
  | complete => rfl

namespace Storage

theorem checkPower_eq (storage : Storage) :
    (storage.checkPower.1 = .ok () ↔ storage.power.isOn = true) ∧
      storage.checkPower.2.power = storage.power.afterCheck := by
  refine ⟨?_, rfl⟩
  unfold checkPower
  cases on : storage.power.isOn <;> simp [check, on]

/-- An append through the storage uses its switch as one to the file does. -/
theorem appendBlock_power (storage : Storage) (blocks : BlockFile) (payload : Bytes)
    (disk : FileSystem) :
    (∃ made ≤ 2, (storage.appendBlock blocks payload disk).storage.power =
        (storage.power.run (List.replicate made .check)).2) ∧
      ∀ offset, (storage.appendBlock blocks payload disk).result = .ok offset →
        storage.power.lasts 2 := by
  cases permitted : storage.checkWriting with
  | error fault =>
    rw [appendBlock_of_error permitted]
    exact ⟨⟨0, by omega, rfl⟩, nofun⟩
  | ok =>
    rw [appendBlock_of_ok permitted]
    exact blocks.append_power payload storage.power disk

end Storage

namespace PowerSwitch

/-! ## Between a failure and the next reset -/

/-- **The power stays off until it is reset, except for `arm`.**  However a switch was used before
a check that failed, as long as it is not reset afterwards,
* all checks fail, exactly if every call to `arm` that a check directly follows asked for that
  check to fail;
* at any point a check of the storage succeeds, exactly if the last call to `arm` since the failure
  leaves the power on for it;
* at any point an append to the storage uses up at most two checks, and the block is written only
  if the last call to `arm` leaves the power on for both; then it is, if writes are permitted and
  there is room for it. -/
theorem stays_off_iff (countdown : Nat) (before between : List Use)
    (fails : ((ofCountdown countdown).run before).2.check.1 = false)
    (unreset : .reset ∉ between) :
    let off := ((ofCountdown countdown).run (before ++ [.check])).2
    ((∀ answer ∈ (off.run between).1, answer = false) ↔
        ∀ front again rest, between = front ++ .arm again :: .check :: rest → again = 1) ∧
      ∀ front rest, between = front ++ rest →
        ∀ storage : Storage, storage.power = (off.run front).2 →
          ((storage.checkPower.1 = .ok () ↔ Rearmed 1 front) ∧
            storage.checkPower.2.power = (off.run (front ++ [.check])).2) ∧
          ∀ (blocks : BlockFile) (payload : Bytes) (disk : FileSystem),
            (∃ made ≤ 2, (storage.appendBlock blocks payload disk).storage.power =
              (off.run (front ++ List.replicate made .check)).2) ∧
            (∀ offset, (storage.appendBlock blocks payload disk).result = .ok offset →
              Rearmed 2 front) ∧
            (Rearmed 2 front → storage.checkWriting = .ok () → payload.length ≤ blocks.limit →
              ∀ id kept, blocks.Keeps disk id kept →
                kept.length + headerLength + payload.length ≤ OpenFile.largestOffset →
                (storage.appendBlock blocks payload disk).result = .ok kept.length) := by
  intro off
  have tripped : off = .tripped := by
    show ((ofCountdown countdown).run (before ++ [.check])).2 = .tripped
    rw [run_append]
    exact afterCheck_of_off fails
  clear_value off
  subst tripped
  constructor
  · rw [answers_false_iff, ← rearmed_iff_arm]
    refine forall_congr' fun front => forall_congr' fun rest => imp_congr_right fun split => ?_
    have unreset' : .reset ∉ front := fun member =>
      unreset (split ▸ List.mem_append_left _ member)
    rw [← lasts_run_iff unreset' Nat.one_pos, lasts_one, Bool.not_eq_true]
  · intro front rest split storage same
    have unreset' : .reset ∉ front := fun member =>
      unreset (split ▸ List.mem_append_left _ member)
    have lasts {checks : Nat} (positive : 0 < checks) :
        storage.power.lasts checks ↔ Rearmed checks front := by
      rw [same]
      exact lasts_run_iff unreset' positive
    obtain ⟨answer, later⟩ := storage.checkPower_eq
    refine ⟨⟨?_, ?_⟩, ?_⟩
    · rw [answer, ← lasts_one, lasts Nat.one_pos]
    · rw [later, run_append, same]
      rfl
    intro blocks payload disk
    obtain ⟨⟨made, few, used⟩, written⟩ := storage.appendBlock_power blocks payload disk
    refine ⟨⟨made, few, ?_⟩, ?_, ?_⟩
    · rw [used, same, run_append]
    · intro offset ok
      exact (lasts Nat.two_pos).1 (written offset ok)
    · intro rearmed permitted fits id kept keeps room
      rw [Storage.appendBlock_of_ok permitted]
      exact keeps.append_ok fits room ((lasts Nat.two_pos).2 rearmed)

/-! ## A failure that is forgotten -/

/-- A disk with one file, which is empty. -/
def blankDisk : FileSystem :=
  { entries := [([], .directory), (["blocks"], .file 0)]
    contents := #[.ofBytes []] }

/-- That file, opened for blocks of at most a kilobyte. -/
def blankBlocks : BlockFile :=
  .fresh ⟨["blocks"]⟩ 1024 0

theorem keeps_blankBlocks : blankBlocks.Keeps blankDisk 0 [] := by
  refine ⟨rfl, Nat.one_pos, List.nil_prefix, fun _ => ?_, nofun⟩
  decide +kernel

/-- A storage with this switch that takes writes. -/
def storageOn (power : PowerSwitch) : Storage :=
  { path := ⟨[""]⟩, config := .testing, owner := "a", writeState := .writable, power, ids := .new
    idFile := none }

/-- All checks behind the failure fail as well, and yet a block is written. -/
theorem stays_off_iff_rearmed :
    ((ofCountdown 1).run []).2.check.1 = false ∧
      (∀ answer ∈ (((ofCountdown 1).run [.check]).2.run [.arm 1, .check, .arm 3]).1,
        answer = false) ∧
      ((storageOn (((ofCountdown 1).run [.check]).2.run [.arm 1, .check, .arm 3]).2).appendBlock
        blankBlocks [1] blankDisk).result = .ok 0 := by
  have fails : ((ofCountdown 1).run []).2.check.1 = false := rfl
  obtain ⟨checks, appends⟩ := stays_off_iff 1 [] [.arm 1, .check, .arm 3] fails (by decide)
  refine ⟨fails, checks.2 ?_, ?_⟩
  · intro front again rest split
    match front with
    | [] =>
      cases split
      rfl
    | [_] => cases split
    | [_, _] => cases split
    | _ :: _ :: _ :: _ => simp at split
  · obtain ⟨-, writes⟩ := appends [.arm 1, .check, .arm 3] [] rfl (storageOn _) rfl
    obtain ⟨-, -, written⟩ := writes blankBlocks [1] blankDisk
    have rearmed : Rearmed 2 [.arm 1, .check, .arm 3] := ⟨[.arm 1, .check], 3, 0, rfl, by decide⟩
    exact written rearmed rfl (by decide) 0 [] keeps_blankBlocks (by decide)

/-- **A switch that is armed after a failure comes on again**, although it was not reset: a check
succeeds, and so does an append. -/
theorem rearmed_comes_on :
    ((ofCountdown 1).run [.check, .arm 2, .check]).1 = [false, true] ∧
      ((ofCountdown 1).run [.check, .arm 0, .check]).1 = [false, true] ∧
      ((storageOn ((ofCountdown 1).run [.check, .arm 3]).2).appendBlock blankBlocks [1]
        blankDisk).result.toOption = some 0 := by
  refine ⟨rfl, rfl, ?_⟩
  decide +kernel

end PowerSwitch

end DurableStore
